import DeclaredSchema.Proofs.Source.LocalRules

/-! # Every reading ends before a colon

The lists of a comprehension, a call, a subscript and a function's parameters, and from them and
the other rules that every rule carries over a colon.
-/

namespace DeclaredSchema.Source

open Cursor Rule Source.Tree

namespace Crossing

section Rules

variable {j : Crossing} {f g n a b k l : Nat} {c d : Cursor}

variable (ih : j.Local f g)
include ih

/-! ## Comprehensions -/

/-- A loop behind its `for`. -/
def loopBehind (fuel : Nat) (c : Cursor) : Except SyntaxError (Round Unit) := do
  let (target, c) ← read fuel (.listOf .target) c
  checkTarget target.assignable c
  let c ← c.expectName "in"
  let (_, c) ← read fuel (.chain .disjunction) c
  let (_, c) ← rounds (conditionRound fuel) () c
  .ok (.again () c)

omit ih in
theorem passes_loop (hloop : c.atComprehension = true) (k : Nat) :
    Passes k k c ((c.eatName? "async").getD c).advance ∧
      ((c.eatName? "async").getD c).advance.rest.length < c.rest.length ∧
      (j.Spans c ((c.eatName? "async").getD c).advance →
        (((j.cross c).eatName? "async").getD (j.cross c)).advance =
          j.cross ((c.eatName? "async").getD c).advance) := by
  have hasync : j.Steps k k c (c.eatName? "async") ((j.cross c).eatName? "async") :=
    steps_eatName? "async"
  obtain ⟨hp, hcross⟩ := hasync.getD
  have hname : ∃ w, ((c.eatName? "async").getD c).name? = some w := by
    rw [atComprehension, Bool.or_eq_true, Bool.and_eq_true] at hloop
    by_cases hasync : c.atName "async" = true
    · rcases hloop with hfor | ⟨-, hsecond⟩
      · obtain ⟨t, ts, hc, ht⟩ := exists_of_name? (name?_of_atName hfor)
        obtain ⟨u, us, hc', hu⟩ := exists_of_name? (name?_of_atName hasync)
        obtain ⟨rfl, -⟩ := List.cons.inj (hc.symm.trans hc')
        simp [ht] at hu
      · obtain ⟨t, u, ts, hc, hu⟩ := exists_of_second? hsecond
        have hadvance : c.advance.rest = u :: ts := by rw [advance, hc]
        have hkind : u.kind = .name "for" := by simpa [Token.isName] using hu
        rw [eatName?, if_pos hasync]
        exact ⟨"for", by simp [name?, hadvance, Token.name?, hkind]⟩
    · rcases hloop with hfor | ⟨h, -⟩
      · rw [eatName?, if_neg hasync]
        exact exists_name_of_atName hfor
      · exact absurd h hasync
  obtain ⟨hq, hlt⟩ := passes_name hname k
  exact ⟨hp.trans hq, Nat.lt_of_lt_of_le hlt hp.length_le,
    fun hs => by rw [hcross (hs.earlier hq), cross_advance (hs.later hp) (ne_nil_of_name hname)]⟩

theorem carries_conditionRound (h : j.Enough g 23 c) :
    j.Carries c.rest.length k k c (conditionRound f () c) (conditionRound g () (j.cross c)) := by
  refine .orStep (steps_eatName? "if") (.stop _) fun d hp hlt => ?_
  have hd := (h.passes hp).mono (show 12 ≤ 23 by decide)
  refine (ih (.chain .disjunction) d k 0 nofun hd).readBind fun _ _ hp => ?_
  exact .again _ (Nat.lt_of_le_of_lt hp.length_le hlt)

theorem carries_loopRound (h : j.Enough (g + 1) n c) :
    j.Carries c.rest.length k k c (loopRound f () c) (loopRound g () (j.cross c)) := by
  refine .ite (fun hs => congrArg _ (atComprehension_cross hs)) (fun _ => .stop _) fun hloop => ?_
  have hloop : c.atComprehension = true := by simpa using hloop
  obtain ⟨hp, hlt, hcross⟩ := passes_loop (j := j) hloop k
  generalize ((c.eatName? "async").getD c).advance = d at hp hlt hcross ⊢
  have hd := h.less hlt
  have hbehind : j.Carries c.rest.length k k d (loopBehind f d) (loopBehind g (j.cross d)) := by
    refine (ih (.listOf .target) d k 0 nofun (hd.mono (by decide))).readBind fun _ e he => .check ?_
    refine Carries.hereBind (carries_expectName "in") fun i hi => ?_
    have hi' := (hd.passes (he.trans hi)).mono (show 12 ≤ 23 by decide)
    refine (ih (.chain .disjunction) i k 0 nofun hi').readBind fun _ m hm => ?_
    have hm' := hd.passes ((he.trans hi).trans hm)
    refine Carries.readBind (.rounds (fun _ o ho => carries_conditionRound ih (hm'.passes ho)) _)
      fun _ o ho => ?_
    exact .again _ (Nat.lt_of_le_of_lt (((he.trans hi).trans hm).trans ho).length_le hlt)
  exact .after hp hbehind fun hs => congrArg (loopBehind g) (hcross hs)

theorem carries_comprehension (h : j.Enough (g + 1) 0 c) :
    j.Carries l k k c (read (f + 1) .comprehension c)
      (read (g + 1) .comprehension (j.cross c)) :=
  Carries.readBind (.rounds (fun _ _ he => carries_loopRound ih (h.passes he)) _)
    fun _ _ _ => .read _

/-! ## Arguments -/

/-- An argument of a call. -/
def argument (fuel : Nat) (c : Cursor) : Reading :=
  match c.eatAny? [.star, .power] with
  | some c => read fuel .expression c
  | none =>
    if c.name?.isSome && c.second?.any (·.isSymbol .assign) then do
      let c ← c.identifier
      read fuel .expression c.advance
    else do
      let (shape, c) ← read fuel .named c
      if c.atComprehension then read fuel .comprehension c else .ok (shape, c)

omit ih in
theorem nextArgument_eq (fuel : Nat) (c : Cursor) : nextArgument fuel () c =
    if c.atSymbol .closeParen then .ok (.stop () c)
    else (do
      let (_, c) ← argument fuel c
      pastComma c) := by
  rw [nextArgument, argument]
  split
  · rfl
  · cases c.eatAny? [.star, .power] with
    | some d => rfl
    | none =>
        dsimp only
        split
        · cases c.identifier <;> rfl
        · cases read fuel .named c with
          | error e => rfl
          | ok r =>
              obtain ⟨shape, d⟩ := r
              dsimp only [bind, Except.bind]
              split <;> rfl

omit ih in
theorem carries_pastComma (hle : c.rest.length ≤ n) :
    j.Carries n k k c (pastComma c) (pastComma (j.cross c)) :=
  .step (steps_eat? .comma rfl) (fun _ _ hlt => .again _ (Nat.lt_of_lt_of_le hlt hle)) (.stop _)

theorem carries_argument (h : j.Enough (g + 1) 19 c) :
    j.Carries l k k c (argument f c) (argument g (j.cross c)) := by
  refine .step (steps_eatAny? (by decide)) (fun d hp hlt => ?_) ?_
  · exact ih .expression d k l (ready_of_ne (by decide)) ((h.less hlt).mono (by decide))
  · refine .ite (fun hs => ?_) (fun hkeyword => ?_) fun _ => ?_
    · exact and_second?_cross hs (by rw [name?_cross hs]) (fun hn => Option.isSome_iff_exists.mp hn)
        (second?_isSymbol .assign) (by decide)
    · obtain ⟨hname, hassign⟩ := Bool.and_eq_true_iff.mp hkeyword
      obtain ⟨hp, hlt⟩ := passes_second (Option.isSome_iff_exists.mp hname) hassign k
        fun t ht => depthWithin?_of_isSymbol ht rfl
      have hvalue := ih .expression c.advance.advance k l (ready_of_ne (by decide))
        ((h.less hlt).mono (by decide))
      have hbind (fuel : Nat) (c : Cursor) :
          (c.identifier >>= fun c => read fuel .expression c.advance) =
            if c.atIdentifier then read fuel .expression c.advance.advance
            else .error c.unexpected := by
        rw [identifier]
        split <;> rfl
      rw [hbind f, hbind g]
      refine .ite atIdentifier_cross (fun _ => ?_) fun _ => .error _
      exact .after hp hvalue fun hs => by
        rw [cross_advance_advance hs (ne_nil_of_second? hassign)]
    · have hnamed := ih .named c k 0 (ready_of_ne (by decide)) (h.enter (by decide))
      refine hnamed.readBind fun shape d hd =>
        .ite atComprehension_cross (fun _ => ?_) fun _ => .read _
      exact ih .comprehension d k l (ready_of_ne (by decide)) ((h.passes hd).enter (by decide))

/-! ## Slices -/

omit ih in
theorem carries_pastSlice (hle : c.rest.length ≤ n) :
    j.Carries n k k c (pastSlice c) (pastSlice (j.cross c)) := by
  refine .orStep (steps_eat? .comma rfl) (.stop _) fun d hp hlt => ?_
  exact .ite (atSymbol_cross · _ (by decide)) (fun _ => .stop _)
    fun _ => .again _ (Nat.lt_of_lt_of_le hlt hle)

theorem carries_optional (h : j.Enough g 13 c) :
    j.Carries l k k c (optionalExpression (read f .expression) c)
      (optionalExpression (read g .expression) (j.cross c)) :=
  .ite startsExpression_cross (fun _ => (ih .expression c k 0 nofun h).readBind fun _ _ _ => .here)
    fun _ => .here

theorem carries_upperSlice (h : j.Enough g 13 c) (hle : c.rest.length ≤ n) :
    j.Carries n k k c (upperSlice f c) (upperSlice g (j.cross c)) := by
  refine (carries_optional ih h).hereBind fun d hd => ?_
  refine .orStep (steps_eat? .colon rfl) (carries_pastSlice (Nat.le_trans hd.length_le hle))
    fun e he hlt => ?_
  have he := hd.trans he
  refine (carries_optional ih (h.passes he)).hereBind fun i hi => ?_
  exact carries_pastSlice (Nat.le_trans (he.trans hi).length_le hle)

/-- A slice behind its lower bound. -/
def behindLower (fuel : Nat) (c : Cursor) : Except SyntaxError (Round Unit) :=
  match c.eat? .colon with
  | none => pastSlice c
  | some c => upperSlice fuel c

theorem carries_behindLower (h : j.Enough g 0 c) (hle : c.rest.length ≤ n) :
    j.Carries n k k c (behindLower f c) (behindLower g (j.cross c)) := by
  refine .orStep (steps_eat? .colon rfl) (carries_pastSlice hle) fun d hp hlt => ?_
  exact carries_upperSlice ih ((h.later hlt).mono (by decide)) (Nat.le_trans hp.length_le hle)

theorem carries_nextSlice (h : j.Enough (g + 1) 19 c) :
    j.Carries c.rest.length k k c (nextSlice f () c) (nextSlice g () (j.cross c)) := by
  refine .step (steps_eat? .star rfl) (fun d hp hlt => ?_) ?_
  · refine (ih (.chain .bitOr) d k 0 nofun ((h.less hlt).mono (by decide))).readBind
      fun _ e he => ?_
    exact carries_pastSlice (hp.trans he).length_le
  · have hlower {d : Cursor} (hd : Passes k k c d) :
        j.Carries c.rest.length k k d (behindLower f d) (behindLower g (j.cross d)) :=
      carries_behindLower ih ((h.passes hd).enter (by decide)) hd.length_le
    refine .ite (atSymbol_cross · _ (by decide)) (fun _ => hlower (.refl k c)) fun _ => ?_
    exact (ih .named c k 0 nofun (h.enter (by decide))).readBind fun _ d hd => hlower hd

theorem carries_slices (h : j.Enough (g + 1) 19 c) :
    j.Carries l (k + 1) k c (read (f + 1) .slices c) (read (g + 1) .slices (j.cross c)) := by
  rw [read_slices_eq, read_slices_eq]
  refine Carries.readBind (.rounds (fun _ e he => carries_nextSlice ih (h.passes he)) _)
    fun _ d hd => ?_
  exact Carries.hereBind (carries_expect .closeSquare rfl) fun _ _ => .read _

/-! ## Parameters -/

theorem carries_typeHint (annotated : Bool) (h : j.Enough g 0 c) :
    j.Carries l k k c (typeHint annotated (read f .expression) c)
      (typeHint annotated (read g .expression) (j.cross c)) := by
  have hcolon : j.Steps k k c (if annotated then c.eat? .colon else none)
      (if annotated then (j.cross c).eat? .colon else none) := by
    cases annotated with
    | true => exact steps_eat? .colon rfl
    | false => exact ⟨nofun, fun _ _ => rfl⟩
  refine .orStep hcolon .here fun d hp hlt => ?_
  obtain ⟨hstar, hcross⟩ := passes_skip (j := j) (c := d) (a := k) .star rfl
  have hhint := ((h.later hlt).passes hstar).mono (show 13 ≤ 23 by decide)
  exact .after hstar ((ih .expression _ k 0 nofun hhint).readBind
    (f := fun r => .ok r.2) (g := fun r => .ok r.2) fun _ _ _ => .here)
    fun hs => by rw [hcross hs]

/-- A parameter's name with its annotation, and what is done behind them. -/
theorem carries_hinted (annotated : Bool) (h : j.Enough g 0 c)
    {r r' : Cursor → Except SyntaxError (Round Unit)}
    (hr : ∀ d, Passes k k c d → j.Carries n k k d (r d) (r' (j.cross d))) :
    j.Carries n k k c
      (do
        let c ← c.identifier
        let c ← typeHint annotated (read f .expression) c
        r c)
      (do
        let c ← (j.cross c).identifier
        let c ← typeHint annotated (read g .expression) c
        r' c) :=
  carries_identifier.hereBind fun _ hd =>
    (carries_typeHint ih annotated (h.passes hd)).hereBind fun e he => hr e (hd.trans he)

theorem carries_parameters (close : Symbol) (annotated : Bool) (h : j.Enough (g + 1) 1 c) :
    j.Carries l k k c (read (f + 1) (.parameters close annotated) c)
      (read (g + 1) (.parameters close annotated) (j.cross c)) := by
  refine Carries.readBind (.rounds (fun _ d hd => ?_) _) fun _ _ _ => .read _
  have hd := (h.passes hd).enter (show 0 < 1 by decide)
  have hmore {e : Cursor} (he : Passes k k d e) :
      j.Carries d.rest.length k k e (pastComma e) (pastComma (j.cross e)) :=
    carries_pastComma he.length_le
  -- No parameter begins where the line ends, so what closes the list may be any symbol.
  by_cases hend : d.rest = []
  · obtain ⟨line, _⟩ := d
    obtain rfl := hend
    exact .error ⟨line, .unexpectedEnd⟩
  refine .ite (atSymbol_cross_of_ne_nil · hend _) (fun _ => .stop _) fun _ => ?_
  refine .step (steps_eat? .slash rfl) (fun _ he _ => hmore he) ?_
  refine .step (steps_eat? .power rfl) (fun e he _ => ?_) ?_
  · exact carries_hinted ih annotated (hd.passes he) fun _ hi => hmore (he.trans hi)
  refine .step (steps_eat? .star rfl) (fun e he _ => ?_) ?_
  · by_cases hend : e.rest = []
    · obtain ⟨line, _⟩ := e
      obtain rfl := hend
      exact .error ⟨line, .unexpectedEnd⟩
    refine .ite (fun hs => ?_) (fun _ => hmore he) fun _ => ?_
    · rw [atSymbol_cross hs .comma (by decide), atSymbol_cross_of_ne_nil hs hend]
    · exact carries_hinted ih annotated (hd.passes he) fun _ hi => hmore (he.trans hi)
  refine carries_hinted ih annotated hd fun e he => ?_
  refine .orStep (steps_eat? .assign rfl) (hmore he) fun i hi hlt => ?_
  have hi' := ((hd.passes he).later hlt).mono (show 13 ≤ 23 by decide)
  exact (ih .expression i k 0 nofun hi').readBind fun _ _ hm => hmore ((he.trans hi).trans hm)

/-! ## Arguments behind a parenthesis -/

theorem carries_argumentRounds (h : j.Enough (g + 1) 19 c) : j.Carries l k k c
    (rounds (nextArgument f) () c) (rounds (nextArgument g) () (j.cross c)) := by
  refine .rounds (fun _ d hd => ?_) _
  rw [nextArgument_eq, nextArgument_eq]
  refine .ite (atSymbol_cross · _ (by decide)) (fun _ => .stop _) fun _ => ?_
  exact (carries_argument ih (h.passes hd)).readBind fun _ _ he => carries_pastComma he.length_le

theorem carries_arguments (h : j.Enough (g + 1) 19 c) :
    j.Carries l (k + 1) k c (read (f + 1) .arguments c) (read (g + 1) .arguments (j.cross c)) := by
  rw [read_arguments_eq, read_arguments_eq]
  exact (carries_argumentRounds ih h).readBind fun _ _ _ =>
    Carries.hereBind (carries_expect .closeParen rfl) fun _ _ => .read _

/-! ## All rules -/

theorem local_succ : j.Local (f + 1) (g + 1) := by
  intro rule c k l hready h
  cases rule with
  | yieldOrStars => exact carries_yieldOrStars ih h
  | yieldExpr => exact carries_yieldExpr ih (hready rfl) h
  | listOf element => exact carries_listOf ih element h
  | item element => exact carries_item ih element h
  | named => exact carries_named ih h
  | expression => exact carries_expression ih h
  | chain level => exact carries_chain ih level h
  | inversion => exact carries_inversion ih h
  | factor => exact carries_factor ih h
  | primary => exact carries_primary ih h
  | atom => exact carries_atom ih h
  | parenthesized => exact carries_parenthesized ih h
  | squareDisplay => exact carries_squareDisplay ih h
  | braceDisplay => exact carries_braceDisplay ih h
  | comprehension => exact carries_comprehension ih h
  | arguments => exact carries_arguments ih h
  | slices => exact carries_slices ih h
  | parameters close annotated => exact carries_parameters ih close annotated h

end Rules

variable {j : Crossing} {c : Cursor} {k l : Nat}

/-- A reading that ends before the colon is the same whatever stands behind it, if enough rules may
be entered. -/
theorem local_read (j : Crossing) (f g : Nat) : j.Local f g := by
  induction f generalizing g with
  | zero => exact fun rule c k l _ _ => .error _
  | succ f ih =>
      cases g with
      | succ g => exact local_succ (ih g)
      | zero =>
          -- No rule may be entered, so the change is not ahead any more.
          intro rule c k l hready h
          have hnever : ¬ j.Spans c c := fun hs => by
            have := j.lost_le hs.ahead
            rw [Enough] at h
            omega
          refine (local_succ (ih 0) rule c k l hready ?_).congr fun hs => absurd hs hnever
          rw [Enough] at h ⊢
          omega

theorem carries_run (rule : Rule) (hready : rule.Ready c) :
    j.Carries l (k + rule.opened) k c (rule.run c) (rule.run (j.cross c)) := by
  have hheight := rule.height_lt
  by_cases hs : j.Spans c c
  · refine local_read j _ _ rule c k l hready ?_
    have := hs.length_cross
    rw [Enough]
    omega
  · have henough : j.Enough (24 * (c.rest.length + 1)) rule.height c := by
      rw [Enough]
      omega
    exact (local_read j _ _ rule c k l hready henough).congr fun h => absurd h hs

theorem pass_eq_run (rule : Rule) (c : Cursor) :
    rule.pass c = rule.run c >>= fun r => .ok r.2 := by
  rw [Rule.pass]
  cases rule.run c <;> rfl

theorem carries_pass (rule : Rule) (hready : rule.Ready c) :
    j.Carries l (k + rule.opened) k c (rule.pass c) (rule.pass (j.cross c)) := by
  rw [pass_eq_run, pass_eq_run]
  exact (carries_run rule hready).readBind fun _ _ _ => .here

end Crossing

end DeclaredSchema.Source
