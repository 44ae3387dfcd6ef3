import DeclaredSchema.Proofs.Source.Calls
import DeclaredSchema.Proofs.Source.Displays
import DeclaredSchema.Proofs.Source.Locality

/-! # Every rule ends before a colon -/

namespace DeclaredSchema.Source

open Cursor Rule Source.Tree

/-! ## Heights -/

/-- Between two tokens rules are entered in descending order of their heights. -/
def Level.height : Level → Nat
  | .term => 3
  | .sum => 4
  | .shift => 5
  | .bitAnd => 6
  | .bitXor => 7
  | .bitOr => 8
  | .comparison => 9
  | .conjunction => 11
  | .disjunction => 12

def Rule.height : Rule → Nat
  | .atom => 0
  | .primary => 1
  | .factor => 2
  | .chain level => level.height
  | .inversion => 10
  | .expression => 13
  | .named => 14
  | .item _ => 15
  | .listOf _ => 16
  | .yieldExpr => 17
  | .yieldOrStars => 18
  | .comprehension => 0
  | .parameters _ _ => 1
  | .parenthesized | .squareDisplay | .braceDisplay | .arguments | .slices => 19

theorem Rule.height_lt (rule : Rule) : rule.height < 24 := by
  cases rule with
  | chain level => cases level <;> decide
  | _ => simp [Rule.height]

/-- The brackets that are open when a rule begins and that it closes. -/
def Rule.opened : Rule → Nat
  | .parenthesized | .squareDisplay | .braceDisplay | .arguments | .slices => 1
  | _ => 0

/-- Where a rule may begin. -/
def Rule.Ready (rule : Rule) (c : Cursor) : Prop := rule = .yieldExpr → c.atName "yield" = true

theorem Rule.ready_of_ne {rule : Rule} {c : Cursor} (h : rule ≠ .yieldExpr) : rule.Ready c :=
  fun hy => absurd hy h

namespace Crossing

/-- So many rules may be entered that those of the height are read to the change. -/
def Enough (j : Crossing) (fuel height : Nat) (c : Cursor) : Prop :=
  24 * c.rest.length + height < fuel + 24 * j.lost

/-- All rules carry over, with the given numbers of rules that may be entered. -/
def Local (j : Crossing) (f g : Nat) : Prop :=
  ∀ rule c k l, rule.Ready c → j.Enough g rule.height c →
    j.Carries l (k + rule.opened) k c (read f rule c) (read g rule (j.cross c))

section Rules

variable {j : Crossing} {f g n a b k l : Nat} {c d : Cursor}

namespace Enough

theorem enter (h : j.Enough (g + 1) n c) {m : Nat} (hm : m < n) : j.Enough g m c := by
  rw [Enough] at h ⊢
  omega

theorem passes (h : j.Enough g n c) (hp : Passes a b c d) : j.Enough g n d := by
  have := hp.length_le
  rw [Enough] at h ⊢
  omega

theorem later (h : j.Enough g n c) (hlt : d.rest.length < c.rest.length) : j.Enough g 23 d := by
  rw [Enough] at h ⊢
  omega

theorem less (h : j.Enough (g + 1) n c) (hlt : d.rest.length < c.rest.length) :
    j.Enough g 23 d := by
  rw [Enough] at h ⊢
  omega

theorem mono (h : j.Enough g n c) {m : Nat} (hm : m ≤ n) : j.Enough g m c := by
  rw [Enough] at h ⊢
  omega

end Enough

/-- What follows a `yield`. -/
def yielded (fuel : Nat) (c : Cursor) : Reading :=
  match c.eatName? "from" with
  | some c => do
    let (_, c) ← read fuel .expression c
    .ok (.value, c)
  | none =>
    if c.startsExpression then do
      let (_, c) ← read fuel (.listOf .star) c
      .ok (.value, c)
    else .ok (.value, c)

variable (ih : j.Local f g)
include ih

theorem carries_yieldOrStars (h : j.Enough (g + 1) 18 c) :
    j.Carries l k k c (read (f + 1) .yieldOrStars c) (read (g + 1) .yieldOrStars (j.cross c)) :=
  .ite (atName_cross · _) (fun hy => ih .yieldExpr c k l (fun _ => hy) (h.enter (by decide)))
    (fun _ => ih (.listOf .star) c k l nofun (h.enter (by decide)))

theorem carries_yieldExpr (hy : c.atName "yield" = true) (h : j.Enough (g + 1) 17 c) :
    j.Carries l k k c (read (f + 1) .yieldExpr c) (read (g + 1) .yieldExpr (j.cross c)) := by
  obtain ⟨hp, hlt⟩ := passes_name (exists_name_of_atName hy) k
  have hd := h.less hlt
  have hyielded :
      j.Carries l k k c.advance (yielded f c.advance) (yielded g (j.cross c.advance)) := by
    refine .step (steps_eatName? "from") (fun e he hle => ?_) ?_
    · refine (ih .expression e k 0 nofun ((hd.passes he).mono (by decide))).bind fun ⟨_, _⟩ _ => ?_
      exact .read _
    · refine .ite startsExpression_cross (fun _ => ?_) fun _ => .read _
      refine (ih (.listOf .star) _ k 0 nofun (hd.mono (by decide))).bind fun ⟨_, _⟩ _ => ?_
      exact .read _
  exact .after hp hyielded fun hs =>
    congrArg (yielded g) (cross_advance hs (ne_nil_of_name (exists_name_of_atName hy)))

theorem carries_item (element : Element) (h : j.Enough (g + 1) 15 c) :
    j.Carries l k k c (read (f + 1) (.item element) c)
      (read (g + 1) (.item element) (j.cross c)) := by
  refine .step (steps_eat? .star rfl) (fun d hp hlt => ?_) ?_
  · refine (ih (.chain .bitOr) d k 0 nofun ((h.less hlt).mono (by decide))).bind fun ⟨_, _⟩ _ => ?_
    exact .read _
  · cases element with
    | star => exact ih .expression c k l nofun (h.enter (by decide))
    | starNamed => exact ih .named c k l nofun (h.enter (by decide))
    | target => exact ih (.chain .bitOr) c k l nofun (h.enter (by decide))

theorem carries_listOf (element : Element) (h : j.Enough (g + 1) 16 c) :
    j.Carries l k k c (read (f + 1) (.listOf element) c)
      (read (g + 1) (.listOf element) (j.cross c)) := by
  have hitem {e : Cursor} (he : j.Enough g 15 e) : j.Carries 0 k k e (read f (.item element) e)
      (read g (.item element) (j.cross e)) := ih (.item element) e k 0 nofun he
  refine (hitem (h.enter (by decide))).readBind fun first d hd => ?_
  refine .ite (fun hs => congrArg _ (atSymbol_cross hs _ (by decide))) (fun _ => .read _)
    fun _ => ?_
  refine Carries.readBind (.rounds (fun fit e he => ?_) _) fun _ _ _ => .read _
  refine .orStep (steps_eat? .comma rfl) (.stop _) fun i hi hlt => ?_
  refine .ite (fun hs => congrArg _ (startsExpression_cross hs)) (fun _ => .stop _) fun _ => ?_
  have hi := ((h.passes hd).passes he).less hlt
  refine (hitem (hi.mono (by decide))).readBind fun _ _ hp => ?_
  exact .again _ (Nat.lt_of_le_of_lt hp.length_le hlt)

theorem carries_named (h : j.Enough (g + 1) 14 c) :
    j.Carries l k k c (read (f + 1) .named c) (read (g + 1) .named (j.cross c)) := by
  refine .ite (fun hs => and_second?_cross hs (atIdentifier_cross hs) exists_name_of_atIdentifier
      (second?_isSymbol .walrus) (by decide))
    (fun hw => ?_) fun _ => ih .expression c k l nofun (h.enter (by decide))
  obtain ⟨hname, hwalrus⟩ := Bool.and_eq_true_iff.mp hw
  obtain ⟨hp, hlt⟩ := passes_second (exists_name_of_atIdentifier hname) hwalrus k
    fun t ht => depthWithin?_of_isSymbol ht rfl
  have hexpression := (ih .expression _ k 0 nofun ((h.less hlt).mono (by decide))).readBind
    (f := fun r => .ok (Shape.value, r.2)) (g := fun r => .ok (Shape.value, r.2))
    (l := l) fun _ _ _ => .read _
  exact .after hp hexpression fun hs => by
    rw [← cross_advance_advance hs (ne_nil_of_second? hwalrus)]

theorem carries_expression (h : j.Enough (g + 1) 13 c) :
    j.Carries l k k c (read (f + 1) .expression c) (read (g + 1) .expression (j.cross c)) := by
  refine .step (steps_eatName? "lambda") (fun d hp hlt => ?_) ?_
  · have hd := h.less hlt
    refine (ih (.parameters .colon false) d k 0 nofun (hd.mono (by decide))).readBind
      fun _ e he => ?_
    refine Carries.hereBind (carries_expect .colon rfl) fun i hi => ?_
    have hi := (hd.passes he).passes hi
    exact (ih .expression i k 0 nofun (hi.mono (by decide))).readBind fun _ _ _ => .read _
  · refine (ih (.chain .disjunction) c k 0 nofun (h.enter (by decide))).readBind
      fun shape d hd => ?_
    refine .orStep (steps_eatName? "if") (.read _) fun e he hlt => ?_
    have he := (h.passes hd).less hlt
    refine (ih (.chain .disjunction) e k 0 nofun (he.mono (by decide))).readBind fun _ i hi => ?_
    refine Carries.hereBind (carries_expectName "else") fun m hm => ?_
    have hm := (he.passes hi).passes hm
    exact (ih .expression m k 0 nofun (hm.mono (by decide))).readBind fun _ _ _ => .read _

theorem carries_inversion (h : j.Enough (g + 1) 10 c) :
    j.Carries l k k c (read (f + 1) .inversion c) (read (g + 1) .inversion (j.cross c)) := by
  refine .step (steps_eatName? "not") (fun d hp hlt => ?_)
    (ih (.chain .comparison) c k l nofun (h.enter (by decide)))
  exact (ih .inversion d k 0 nofun ((h.less hlt).mono (by decide))).readBind fun _ _ _ => .read _

/-! ## Operators -/

omit ih in
theorem eatWordComparison?_eq (c : Cursor) : Level.eatWordComparison? c =
    (c.eatName? "in").or (((c.eatName? "is").map fun c => (c.eatName? "not").getD c).or
      (if c.atName "not" && c.second?.any (·.isName "in") then some c.advance.advance
      else none)) := by
  rw [Level.eatWordComparison?]
  cases c.eatName? "in" with
  | some d => rfl
  | none => cases c.eatName? "is" <;> rfl

omit ih in
theorem steps_eatOperator? (level : Level) (k : Nat) (c : Cursor) :
    j.Steps k k c (level.eatOperator? c) (level.eatOperator? (j.cross c)) := by
  cases level with
  | disjunction | conjunction => exact steps_eatName? _
  | bitOr | bitXor | bitAnd | shift | sum | term => exact steps_eatAny? (by decide)
  | comparison =>
      rw [Level.eatOperator?, Level.eatOperator?, eatWordComparison?_eq, eatWordComparison?_eq]
      refine (steps_eatAny? (by decide)).or ((steps_eatName? "in").or (.or ?_ (steps_words _ _)))
      exact (steps_eatName? "is").map fun _ => (steps_eatName? "not").getD

theorem carries_chain (level : Level) (h : j.Enough (g + 1) level.height c) :
    j.Carries l k k c (read (f + 1) (.chain level) c)
      (read (g + 1) (.chain level) (j.cross c)) := by
  have hoperand : level.operand.height < level.height := by cases level <;> decide
  have hheight : level.operand.height ≤ 23 := by cases level <;> decide
  have hplain : level.operand ≠ .yieldExpr := by cases level <;> decide
  have hopened : level.operand.opened = 0 := by cases level <;> rfl
  have hread {e : Cursor} (he : j.Enough g level.operand.height e) :
      j.Carries 0 k k e (read f level.operand e) (read g level.operand (j.cross e)) := by
    have := ih level.operand e k 0 (ready_of_ne hplain) he
    rwa [hopened] at this
  refine (hread (h.enter hoperand)).readBind fun shape d hd => .rounds (fun shape e he => ?_) _
  refine .orStep (steps_eatOperator? level k e) (.stop _) fun i hi hlt => ?_
  have hi := ((h.passes hd).passes he).less hlt
  refine (hread (hi.mono hheight)).readBind fun _ _ hp => ?_
  exact .again _ (Nat.lt_of_le_of_lt hp.length_le hlt)

theorem carries_awaited {e : Cursor} (h : j.Enough (g + 1) 2 e) :
    j.Carries l k k e (readAwaited f e) (readAwaited g (j.cross e)) := by
  refine .step (steps_eatName? "await") (fun d hp hlt => ?_)
    (ih .primary e k l nofun (h.enter (by decide)))
  exact (ih .primary d k 0 nofun ((h.less hlt).mono (by decide))).readBind fun _ _ _ => .read _

theorem carries_factor (h : j.Enough (g + 1) 2 c) :
    j.Carries l k k c (read (f + 1) .factor c) (read (g + 1) .factor (j.cross c)) := by
  rw [read_factor_eq, read_factor_eq]
  refine .step (steps_eatAny? (by decide)) (fun d hp hlt => ?_) ?_
  · exact (ih .factor d k 0 nofun ((h.less hlt).mono (by decide))).readBind fun _ _ _ => .read _
  · refine (carries_awaited ih h).readBind fun shape d hd => ?_
    refine .orStep (steps_eat? .power rfl) (.read _) fun e he hlt => ?_
    have he := (h.passes hd).less hlt
    exact (ih .factor e k 0 nofun (he.mono (by decide))).readBind fun _ _ _ => .read _

theorem carries_primary (h : j.Enough (g + 1) 1 c) :
    j.Carries l k k c (read (f + 1) .primary c) (read (g + 1) .primary (j.cross c)) := by
  refine (ih .atom c k 0 nofun (h.enter (by decide))).readBind fun shape d hd =>
    .rounds (fun shape e he => ?_) _
  have he := (h.passes hd).passes he
  refine .step (steps_eat? .dot rfl) (fun i hi hlt => ?_) (.step (steps_eat? .openParen rfl)
    (fun i hi hlt => ?_) (.step (steps_eat? .openSquare rfl) (fun i hi hlt => ?_) (.stop _)))
  · exact carries_identifier.hereBind fun _ hp => .again _ (Nat.lt_of_le_of_lt hp.length_le hlt)
  · refine (ih .arguments i k 0 nofun ((he.less hlt).mono (by decide))).readBind fun _ _ hp => ?_
    exact .again _ (Nat.lt_of_le_of_lt hp.length_le hlt)
  · refine (ih .slices i k 0 nofun ((he.less hlt).mono (by decide))).readBind fun _ _ hp => ?_
    exact .again _ (Nat.lt_of_le_of_lt hp.length_le hlt)

/-! ## Displays -/

/-- An atom that begins with a token of the kind. -/
def atomOf (fuel : Nat) (kind : Token.Kind) (c : Cursor) : Reading :=
  match kind with
  | .name n =>
    if n = "True" || n = "False" || n = "None" then .ok (.value, c.advance)
    else if isKeyword n then .error c.unexpected
    else .ok (.name, c.advance)
  | .number _ => .ok (.value, c.advance)
  | .str _ _ => .ok (.value, c.advance)
  | .symbol .ellipsis => .ok (.value, c.advance)
  | .symbol .openParen => read fuel .parenthesized c.advance
  | .symbol .openSquare => read fuel .squareDisplay c.advance
  | .symbol .openBrace => read fuel .braceDisplay c.advance
  | _ => .error c.unexpected

omit ih in
theorem read_atom_of_cons (fuel : Nat) {t : Token} {ts : List Token} (hc : c.rest = t :: ts) :
    read (fuel + 1) .atom c = atomOf fuel t.kind c := by
  obtain ⟨line, rest⟩ := c
  obtain rfl : rest = t :: ts := hc
  rfl

theorem carries_atom (h : j.Enough (g + 1) 0 c) :
    j.Carries l k k c (read (f + 1) .atom c) (read (g + 1) .atom (j.cross c)) := by
  cases hc : c.rest with
  | nil =>
      have hread : read (f + 1) .atom c = .error c.unexpected := by rw [Rule.read, hc]
      rw [hread]
      exact .error _
  | cons t ts =>
      have hne : c.rest ≠ [] := hc ▸ List.cons_ne_nil t ts
      have hlt : c.advance.rest.length < c.rest.length := by
        rw [advance, hc]
        exact Nat.lt_succ_self _
      have hread {m : Nat} (ht : t.depthWithin? k = some m) {v : Shape} :
          j.Carries l k m c (.ok (v, c.advance)) (.ok (v, (j.cross c).advance)) :=
        .after (.advance hc ht) (.read _) fun hs => by rw [cross_advance hs hne]
      have hinside {rule : Rule} (ht : t.depthWithin? k = some (k + 1)) (hrule : rule.opened = 1)
          (hplain : rule ≠ .yieldExpr) (hheight : rule.height ≤ 23) : j.Carries l k k c
            (read f rule c.advance) (read g rule (j.cross c).advance) := by
        have hp := Passes.advance hc ht
        have hrest := ih rule c.advance k l (ready_of_ne hplain)
          ((h.less hlt).mono hheight)
        rw [hrule] at hrest
        exact .after hp hrest fun hs => by rw [cross_advance hs hne]
      have hkind : j.Carries l k k c (atomOf f t.kind c) (atomOf g t.kind (j.cross c)) := by
        obtain ⟨kind, line⟩ := t
        cases kind with
        | name n =>
            have hname := depthWithin?_of_name (t := ⟨.name n, line⟩) rfl k
            refine .ite (fun _ => rfl) (fun _ => hread hname) fun _ => ?_
            exact .ite (fun _ => rfl) (fun _ => .error _) fun _ => hread hname
        | number | str => exact hread rfl
        | newline | indent | dedent | endMarker => exact .error _
        | symbol s =>
            cases s with
            | ellipsis => exact hread rfl
            | openParen | openSquare | openBrace => exact hinside rfl rfl (by decide) (by decide)
            | _ => exact .error _
      rw [read_atom_of_cons f hc]
      refine hkind.congr fun hs => ?_
      obtain ⟨u, us, hcross, hu⟩ := exists_head_cross hs hc
      rw [read_atom_of_cons g hcross, hu]

omit ih in
theorem carries_itemRounds {item item' : Cursor → Reading} (close : Symbol)
    (hplain : close ≠ .semicolon) (h : j.Enough (g + 1) n c)
    (hitem : ∀ e, j.Enough g 23 e → j.Carries 0 k k e (item e) (item' (j.cross e)))
    (fit : Bool) : j.Carries l k k c (rounds (nextItem item close) fit c)
      (rounds (nextItem item' close) fit (j.cross c)) := by
  refine .rounds (fun fit e he => ?_) _
  refine .orStep (steps_eat? .comma rfl) (.stop _) fun i hi hlt => ?_
  refine .ite (fun hs => atSymbol_cross hs close hplain) (fun _ => .stop _) fun _ => ?_
  refine (hitem i ((h.passes he).less hlt)).readBind fun _ _ hp => ?_
  exact .again _ (Nat.lt_of_le_of_lt hp.length_le hlt)

omit ih in
theorem carries_sequenceTail {item item' : Cursor → Reading} (close : Symbol)
    (hclose : turn close (k + 1) = some k) (h : j.Enough (g + 1) n c)
    (hitem : ∀ e, j.Enough g 23 e → j.Carries 0 (k + 1) (k + 1) e (item e) (item' (j.cross e)))
    (first : Shape) : j.Carries l (k + 1) k c (sequenceTail item close first c)
      (sequenceTail item' close first (j.cross c)) := by
  have hcloses := turnWithin_of_turn hclose (Nat.succ_ne_self k).symm
  have hplain := (turnWithin_eq_some.mp hcloses).1
  exact (carries_itemRounds close hplain h hitem first.fitsSequence).readBind fun _ _ _ =>
    Carries.hereBind (carries_expect close hcloses) fun _ _ => .read _

/-- A comprehension up to the bracket that closes it. -/
theorem carries_closed (close : Symbol) (hclose : turn close (k + 1) = some k)
    (h : j.Enough g 0 c) : j.Carries l (k + 1) k c
      (do
        let (_, c) ← read f .comprehension c
        let c ← c.expect close
        .ok (Shape.value, c))
      (do
        let (_, c) ← read g .comprehension (j.cross c)
        let c ← c.expect close
        .ok (Shape.value, c)) :=
  (ih .comprehension c (k + 1) 0 nofun h).readBind fun _ _ _ => Carries.hereBind
    (carries_expect close (turnWithin_of_turn hclose (Nat.succ_ne_self k).symm))
    fun _ _ => .read _

theorem carries_parenthesized (h : j.Enough (g + 1) 19 c) :
    j.Carries l (k + 1) k c (read (f + 1) .parenthesized c)
      (read (g + 1) .parenthesized (j.cross c)) := by
  refine .step (steps_eat? .closeParen rfl) (fun _ _ _ => .read _) ?_
  refine .ite (atName_cross · _) (fun hy => ?_) fun _ => ?_
  · refine (ih .yieldExpr c (k + 1) 0 (fun _ => hy) (h.enter (by decide))).readBind fun _ d hd => ?_
    exact Carries.hereBind (carries_expect .closeParen rfl) fun _ _ => .read _
  · refine (ih (.item .starNamed) c (k + 1) 0 nofun (h.enter (by decide))).readBind
      fun first d hd => ?_
    have hd := h.passes hd
    refine .ite atComprehension_cross
      (fun _ => carries_closed ih .closeParen rfl (hd.enter (by decide))) fun _ => ?_
    refine .ite (fun hs => congrArg _ (atSymbol_cross hs _ (by decide))) (fun _ => ?_) fun _ => ?_
    · exact Carries.hereBind (carries_expect .closeParen rfl) fun _ _ => .read _
    · exact carries_sequenceTail .closeParen rfl hd (fun e he =>
        ih (.item .starNamed) e (k + 1) 0 nofun (he.mono (by decide))) first

theorem carries_squareDisplay (h : j.Enough (g + 1) 19 c) :
    j.Carries l (k + 1) k c (read (f + 1) .squareDisplay c)
      (read (g + 1) .squareDisplay (j.cross c)) := by
  refine .step (steps_eat? .closeSquare rfl) (fun _ _ _ => .read _) ?_
  refine (ih (.item .starNamed) c (k + 1) 0 nofun (h.enter (by decide))).readBind
    fun first d hd => ?_
  have hd := h.passes hd
  refine .ite atComprehension_cross
    (fun _ => carries_closed ih .closeSquare rfl (hd.enter (by decide))) fun _ => ?_
  exact carries_sequenceTail .closeSquare rfl hd (fun e he =>
    ih (.item .starNamed) e (k + 1) 0 nofun (he.mono (by decide))) first

theorem carries_firstEntry (h : j.Enough (g + 1) 19 c) :
    j.Carries l k k c (firstEntry f c) (firstEntry g (j.cross c)) := by
  refine .step (steps_eat? .power rfl) (fun d hp hlt => ?_) ?_
  · have hd := h.less hlt
    exact (ih (.chain .bitOr) d k 0 nofun (hd.mono (by decide))).readBind fun _ _ _ => .read _
  · refine (ih (.item .starNamed) c k 0 nofun (h.enter (by decide))).readBind fun _ d hd => ?_
    refine .step (steps_eat? .colon rfl) (fun e he hlt => ?_) (.read _)
    have he := (h.passes hd).less hlt
    exact (ih .expression e k 0 nofun (he.mono (by decide))).readBind fun _ _ _ => .read _

theorem carries_entryRound (dict : Bool) (h : j.Enough (g + 1) n c) :
    j.Carries c.rest.length k k c (entryRound f dict () c) (entryRound g dict () (j.cross c)) := by
  refine .orStep (steps_eat? .comma rfl) (.stop _) fun d hp hlt => ?_
  have hd := h.less hlt
  refine .ite (atSymbol_cross · _ (by decide)) (fun _ => .stop _)
    fun _ => .ite (fun _ => rfl) (fun _ => ?_) fun _ =>
      .step (steps_eat? .power rfl) (fun e he hlt' => ?_) ?_
  · refine (ih (.item .starNamed) d k 0 nofun (hd.mono (by decide))).readBind fun _ _ hp => ?_
    exact .again _ (Nat.lt_of_le_of_lt hp.length_le hlt)
  · have he' := (hd.passes he).mono (show 8 ≤ 23 by decide)
    refine (ih (.chain .bitOr) e k 0 nofun he').readBind fun _ _ hp => ?_
    exact .again _ (Nat.lt_of_le_of_lt (he.trans hp).length_le hlt)
  · refine (ih .expression d k 0 nofun (hd.mono (by decide))).readBind fun _ e he => ?_
    refine Carries.hereBind (carries_expect .colon rfl) fun i hi => ?_
    have hi' := (hd.passes (he.trans hi)).mono (show 13 ≤ 23 by decide)
    refine (ih .expression i k 0 nofun hi').readBind fun _ _ hp => ?_
    exact .again _ (Nat.lt_of_le_of_lt ((he.trans hi).trans hp).length_le hlt)

theorem carries_braceDisplay (h : j.Enough (g + 1) 19 c) :
    j.Carries l (k + 1) k c (read (f + 1) .braceDisplay c)
      (read (g + 1) .braceDisplay (j.cross c)) := by
  rw [read_braceDisplay_eq, read_braceDisplay_eq]
  refine .step (steps_eat? .closeBrace rfl) (fun _ _ _ => .read _) ?_
  refine (carries_firstEntry ih h).readBind fun dict d hd => ?_
  have hd := h.passes hd
  refine .ite atComprehension_cross
    (fun _ => carries_closed ih .closeBrace rfl (hd.enter (by decide))) fun _ => ?_
  refine Carries.readBind (.rounds (fun _ e he => carries_entryRound ih dict (hd.passes he)) _)
    fun _ _ _ => ?_
  exact Carries.hereBind (carries_expect .closeBrace rfl) fun _ _ => .read _

end Rules

end Crossing

end DeclaredSchema.Source
