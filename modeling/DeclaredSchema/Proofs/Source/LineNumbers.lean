import DeclaredSchema.Proofs.Source.LocalHeaders
import Mathlib.Logic.Function.Iterate

/-! # The numbers of the lines do not matter

Whether a line has the grammar of a line depends on the kinds of its tokens. The lines that the
tokens stand on are named in errors and nowhere else.
-/

namespace DeclaredSchema.Source

open Cursor Line Source.Tree

theorem Token.name?_eq (t : Token) : t.name? = t.kind.name? := by
  obtain ⟨k, line⟩ := t
  cases k <;> rfl

namespace Cursor

theorem rest_advance (c : Cursor) : c.advance.rest = c.rest.tail := by
  obtain ⟨line, rest⟩ := c
  cases rest <;> rfl

theorem rest_iterate_advance (n : Nat) (c : Cursor) : (advance^[n] c).rest = c.rest.drop n := by
  induction n with
  | zero => rfl
  | succ n ih => rw [Function.iterate_succ_apply', rest_advance, ih, List.tail_drop]

end Cursor

namespace Crossing

section Statements

variable {j : Crossing} {c d : Cursor} {k l : Nat}

/-! ## Statements -/

theorem carries_expressionStatement :
    j.Carries l k k c (expressionStatement c) (expressionStatement (j.cross c)) := by
  refine Carries.readBind (carries_run .yieldOrStars nofun) fun target d hd => ?_
  refine .step (steps_eat? .colon rfl) (fun e he hlt => .check ?_)
    (.step (steps_eatAny? (by decide)) (fun e he hlt => .check ?_) ?_)
  · refine Carries.hereBind (carries_pass .expression nofun) fun i hi => ?_
    exact .step (steps_eat? .assign rfl) (fun _ _ _ => carries_pass .yieldOrStars nofun) .here
  · exact carries_pass .yieldOrStars nofun
  · refine Carries.readBind (.rounds (fun last e he => ?_) _) fun _ _ _ => .here
    refine .orStep (steps_eat? .assign rfl) (.stop _) fun i hi hlt => .check ?_
    refine Carries.readBind (carries_run .yieldOrStars nofun) fun _ _ hp => ?_
    exact .again _ (Nat.lt_of_le_of_lt hp.length_le hlt)

theorem carries_dottedName : j.Carries l k k c (dottedName c) (dottedName (j.cross c)) := by
  refine carries_identifier.hereBind fun d hd => ?_
  refine Carries.readBind (.rounds (fun _ e he => ?_) _) fun _ _ _ => .here
  refine .orStep (steps_eat? .dot rfl) (.stop _) fun i hi hlt => ?_
  exact carries_identifier.hereBind fun _ hp => .again _ (Nat.lt_of_le_of_lt hp.length_le hlt)

theorem carries_importNames : j.Carries l k k c (importNames c) (importNames (j.cross c)) :=
  carries_commaList fun _ => carries_dottedName.hereBind fun _ _ => carries_asName

/-- Names between commas, with a comma behind the last one if a parenthesis follows. -/
def nameRound (parenthesized : Bool) (_ : Unit) (c : Cursor) : Except SyntaxError (Round Unit) := do
  let c ← asName (← c.identifier)
  match c.eat? .comma with
  | none => .ok (.stop () c)
  | some c =>
    if parenthesized && c.atSymbol .closeParen then .ok (.stop () c) else .ok (.again () c)

theorem carries_nameRounds (parenthesized : Bool) : j.Carries l k k c
    (rounds (nameRound parenthesized) () c) (rounds (nameRound parenthesized) () (j.cross c)) := by
  refine .rounds (fun _ d hd => ?_) _
  refine carries_identifier.hereBind fun e he => ?_
  refine carries_asName.hereBind fun i hi => ?_
  refine .orStep (steps_eat? .comma rfl) (.stop _) fun m hm hlt => ?_
  refine .ite (fun hs => by rw [atSymbol_cross hs .closeParen (by decide)]) (fun _ => .stop _)
    fun _ => ?_
  exact .again _ (Nat.lt_of_lt_of_le hlt (he.trans hi).length_le)

theorem importedNames_eq (c : Cursor) : importedNames c = (match c.eat? .openParen with
    | some c => do
      let (_, c) ← rounds (nameRound true) () c
      c.expect .closeParen
    | none => do
      let (_, c) ← rounds (nameRound false) () c
      .ok c) := by
  rw [importedNames, skip, eat?]
  cases c.atSymbol .openParen <;> rfl

theorem carries_importedNames :
    j.Carries l k k c (importedNames c) (importedNames (j.cross c)) := by
  rw [importedNames_eq, importedNames_eq]
  refine .step (steps_eat? .openParen rfl) (fun d hd hlt => ?_) ?_
  · exact (carries_nameRounds true).readBind fun _ _ _ => carries_expect .closeParen rfl
  · exact (carries_nameRounds false).readBind fun _ _ _ => .here

theorem carries_importFrom : j.Carries l k k c (importFrom c) (importFrom (j.cross c)) := by
  refine Carries.readBind (.rounds (fun relative d hd => ?_) _) fun relative d hd => ?_
  · refine .step (steps_eatAny? (by decide)) (fun e he hlt => ?_) (.stop _)
    exact .again _ hlt
  · have hrest {d : Cursor} : j.Carries l k k d
        (do
          let c ← d.expectName "import"
          match c.eat? .star with
          | some c => .ok c
          | none => importedNames c)
        (do
          let c ← (j.cross d).expectName "import"
          match c.eat? .star with
          | some c => .ok c
          | none => importedNames c) := by
      refine Carries.hereBind (carries_expectName "import") fun e he => ?_
      exact .step (steps_eat? .star rfl) (fun _ _ _ => .here) carries_importedNames
    refine .ite (fun hs => by rw [atName_cross hs]) (fun _ => ?_) fun _ => ?_
    · exact carries_dottedName.hereBind fun _ _ => hrest
    · exact .ite (fun _ => rfl) (fun _ => .error _) fun _ => hrest

theorem carries_optionalRule (rule : Rule) (hrule : rule.opened = 0) (hready : rule.Ready c) :
    j.Carries l k k c (optional rule c) (optional rule (j.cross c)) := by
  refine .ite startsExpression_cross (fun _ => ?_) fun _ => .here
  have := carries_pass (j := j) (l := l) (k := k) rule hready
  rwa [hrule] at this

/-- What is raised, with what it comes from. -/
def raised (c : Cursor) : Except SyntaxError Cursor :=
  if c.startsExpression then do
    let c ← Rule.expression.pass c
    match c.eatName? "from" with
    | some c => Rule.expression.pass c
    | none => .ok c
  else .ok c

/-- What is deleted. -/
def deleted (c : Cursor) : Except SyntaxError Cursor := do
  let (target, c) ← (Rule.listOf .star).run c
  checkTarget target.assignable c
  .ok c

/-- What is asserted, with its message. -/
def asserted (c : Cursor) : Except SyntaxError Cursor := do
  let c ← Rule.expression.pass c
  match c.eat? .comma with
  | some c => Rule.expression.pass c
  | none => .ok c

/-- An alias behind its name. -/
def aliased (c : Cursor) : Except SyntaxError Cursor := do
  let c ← c.skipTypeParameters
  let c ← c.expect .assign
  Rule.expression.pass c

theorem carries_raised : j.Carries l k k c (raised c) (raised (j.cross c)) := by
  refine .ite startsExpression_cross (fun _ => ?_) fun _ => .here
  refine Carries.hereBind (carries_pass .expression nofun) fun d hd => ?_
  exact .step (steps_eatName? "from") (fun _ _ _ => carries_pass .expression nofun) .here

theorem carries_deleted : j.Carries l k k c (deleted c) (deleted (j.cross c)) :=
  Carries.readBind (carries_run (.listOf .star) nofun) fun _ _ _ => .check .here

theorem carries_asserted : j.Carries l k k c (asserted c) (asserted (j.cross c)) := by
  refine Carries.hereBind (carries_pass .expression nofun) fun d hd => ?_
  exact .step (steps_eat? .comma rfl) (fun _ _ _ => carries_pass .expression nofun) .here

theorem carries_aliased : j.Carries l k k c (aliased c) (aliased (j.cross c)) := by
  refine carries_skipTypeParameters.hereBind fun d hd => ?_
  exact Carries.hereBind (carries_expect .assign rfl) fun _ _ => carries_pass .expression nofun

/-- Whether an alias begins here is the same in both texts. -/
def Aliases (j : Crossing) (c : Cursor) : Prop :=
  j.Spans c c → atTypeAlias (j.cross c) = atTypeAlias c

theorem atTypeAlias_names (h : atTypeAlias c = true) : ∃ word, c.advance.name? = some word := by
  obtain ⟨line, rest⟩ := c
  match rest with
  | [] => cases h
  | [t] => cases h
  | t :: u :: ts =>
      obtain ⟨hname, -⟩ := Bool.and_eq_true_iff.mp h
      obtain ⟨word, hword, -⟩ := (Option.any_eq_true _ _).mp hname
      exact ⟨word, hword⟩

theorem carries_namedStatement {word : String} (hname : c.name? = some word)
    (halias : j.Aliases c) :
    j.Carries l k k c (namedStatement word c) (namedStatement word (j.cross c)) := by
  have hp := (passes_name ⟨word, hname⟩ k).1
  have hbehind {f : Cursor → Except SyntaxError Cursor}
      (h : j.Carries l k k c.advance (f c.advance) (f (j.cross c.advance))) :
      j.Carries l k k c (f c.advance) (f (j.cross c).advance) :=
    .after hp h fun hs => by rw [cross_advance hs (ne_nil_of_name ⟨word, hname⟩)]
  refine .given (fun _ => hbehind (f := Except.ok) .here) fun _ => ?_
  refine .given (fun _ => hbehind (carries_optionalRule (.listOf .star) rfl nofun)) fun _ => ?_
  refine .given (fun _ => hbehind (f := raised) carries_raised) fun _ => ?_
  refine .given (fun _ => hbehind (carries_commaList fun _ => carries_identifier)) fun _ => ?_
  refine .given (fun _ => hbehind (f := deleted) carries_deleted) fun _ => ?_
  refine .given (fun _ => hbehind (f := asserted) carries_asserted) fun _ => ?_
  refine .given (fun _ => hbehind carries_importNames) fun _ => ?_
  refine .given (fun _ => hbehind carries_importFrom) fun _ => ?_
  refine .ite (fun hs => by rw [halias hs]) (fun htype => ?_) fun _ => carries_expressionStatement
  have hsecond := atTypeAlias_names (Bool.and_eq_true_iff.mp htype).2
  have hq := (passes_name hsecond k).1
  have haliased : j.Carries l k k c.advance.advance (aliased c.advance.advance)
      (aliased (j.cross c.advance.advance)) := carries_aliased
  exact .after (hp.trans hq) haliased fun hs => by
    rw [← cross_advance_advance hs (ne_nil_of_name hsecond)]
    rfl

/-- Whether the line ends here is the same in both texts. -/
def EndsAlike (j : Crossing) (c : Cursor) : Prop :=
  j.Spans c c → (j.cross c).atEnd = c.atEnd

theorem carries_simpleStatement (halias : j.Aliases c) (hend : j.EndsAlike c) :
    j.Carries l k k c (simpleStatement c) (simpleStatement (j.cross c)) := by
  refine .ite hend (fun _ => .error _) fun _ => ?_
  refine .step (steps_eat? .at rfl) (fun _ _ _ => carries_pass .named nofun) ?_
  cases hname : c.name? with
  | none => exact carries_expressionStatement.congr fun hs => by rw [name?_cross hs, hname]
  | some word =>
      exact (carries_namedStatement hname halias).congr fun hs => by rw [name?_cross hs, hname]

/-- One more statement, with the semicolon behind it. -/
def statementRound (_ : Unit) (c : Cursor) : Except SyntaxError (Round Unit) := do
  let c ← simpleStatement c
  match c.eat? .semicolon with
  | none => .ok (.stop () c)
  | some c => if c.atEnd then .ok (.stop () c) else .ok (.again () c)

/-- The next token is the same wherever the line goes on, and behind it too. -/
def Faithful (j : Crossing) : Prop :=
  ∀ c, j.Spans c c → (j.cross c).kinds.head? = c.kinds.head?

theorem Faithful.endsAlike (h : j.Faithful) (c : Cursor) : j.EndsAlike c := by
  have hend (c : Cursor) : c.atEnd = c.kinds.head?.isNone := by
    obtain ⟨line, rest⟩ := c
    cases rest <;> rfl
  intro hs
  rw [hend, hend, h c hs]

/-- A bracket stands open around the statements, so that a semicolon is gone over. -/
theorem carries_statementRounds (hj : j.Faithful) (halias : ∀ d, j.Aliases d) :
    j.Carries l (k + 1) (k + 1) c (rounds statementRound () c)
      (rounds statementRound () (j.cross c)) := by
  refine .rounds (fun _ d hd => ?_) _
  refine (carries_simpleStatement (halias d) (hj.endsAlike d)).hereBind fun e he => ?_
  have hsemicolon : j.Steps (k + 1) (k + 1) e (e.eat? .semicolon) ((j.cross e).eat? .semicolon) :=
    .of_symbol .semicolon (fun hs => by rw [atSymbol_eq, atSymbol_eq, hj e hs]) rfl
  refine .orStep hsemicolon (.stop _) fun i hi hlt => ?_
  exact .ite (hj.endsAlike i) (fun _ => .stop _)
    fun _ => .again _ (Nat.lt_of_lt_of_le hlt he.length_le)

theorem finish_cross (hj : j.Faithful) (hs : j.Spans c c) (h : c.finish = .ok ()) :
    (j.cross c).finish = .ok () := by
  rw [finish, hj.endsAlike c hs]
  rw [finish] at h
  split at h
  · next hend => rw [if_pos hend]
  · cases h

end Statements

/-! ## Other line numbers -/

section Renumbering

variable {first other c d : Cursor} (same : other.kinds = first.kinds)
include same

/-- The place with as many tokens behind it. -/
theorem kinds_iterate_advance (hc : c.rest <:+ first.rest) :
    (advance^[first.rest.length - c.rest.length] other).kinds = c.kinds := by
  rw [kinds, kinds, rest_iterate_advance, List.map_drop, ← kinds, same, kinds, ← List.map_drop,
    ← List.suffix_iff_eq_drop.mp hc]

theorem advance_iterate_advance (hc : c.rest <:+ first.rest) :
    (advance^[first.rest.length - c.rest.length] other).advance =
      advance^[first.rest.length - c.advance.rest.length] other := by
  cases hrest : c.rest with
  | nil =>
      have hkinds := kinds_iterate_advance same hc
      rw [kinds, kinds, hrest, List.map_nil, List.map_eq_nil_iff] at hkinds
      rw [rest_advance, hrest, advance, hkinds]
      rfl
  | cons t ts =>
      have hlength := hc.length_le
      rw [hrest, List.length_cons] at hlength
      have hnext : first.rest.length - ts.length = first.rest.length - (ts.length + 1) + 1 := by
        omega
      rw [rest_advance, hrest, List.tail_cons, List.length_cons, hnext,
        Function.iterate_succ_apply']

end Renumbering

/-- From one line to another with tokens of the same kinds. -/
def renumbering {first other : Cursor} (same : other.kinds = first.kinds) : Crossing :=
  even (fun c => c.rest <:+ first.rest)
    (fun c => advance^[first.rest.length - c.rest.length] other) (fun hc hd => hd.trans hc)
    (fun hc => kinds_iterate_advance same hc) fun hc => advance_iterate_advance same hc

section Renumbering

variable {first other : Cursor} (same : other.kinds = first.kinds)

theorem cross_renumbering : (renumbering same).cross first = other := by
  change advance^[first.rest.length - first.rest.length] other = other
  rw [Nat.sub_self]
  rfl

theorem kinds_cross {c : Cursor} (hc : c.rest <:+ first.rest) :
    ((renumbering same).cross c).kinds = c.kinds := kinds_iterate_advance same hc

theorem spans_renumbering {c d : Cursor} (hc : c.rest <:+ first.rest) :
    (renumbering same).Spans c d := ⟨hc, trivial⟩

theorem faithful_renumbering : (renumbering same).Faithful := fun c hs => by
  rw [kinds_cross same hs.within]

omit same in
theorem atTypeAlias_eq (c : Cursor) : atTypeAlias c =
    ((c.kinds.tail.head?.bind Token.Kind.name?).any (!isKeyword ·) && c.kinds.tail.tail.head?.any
      fun k => decide (k = .symbol .assign) || decide (k = .symbol .openSquare)) := by
  obtain ⟨line, rest⟩ := c
  rcases rest with - | ⟨t, - | ⟨u, - | ⟨v, rest⟩⟩⟩ <;>
    simp [atTypeAlias, second?, third?, kinds, Token.isSymbol, Token.name?_eq]

theorem aliases_renumbering (c : Cursor) : (renumbering same).Aliases c := fun hs => by
  rw [atTypeAlias_eq, atTypeAlias_eq, kinds_cross same hs.within]

theorem simpleStatements_renumbering {c : Cursor} (hc : c.rest <:+ first.rest)
    (h : simpleStatements c = .ok ()) :
    simpleStatements ((renumbering same).cross c) = .ok () := by
  obtain ⟨⟨_, d⟩, hd, hfinish⟩ := bind_eq_ok.mp h
  have hrounds : (renumbering same).Carries 0 1 1 c _ _ :=
    carries_statementRounds (faithful_renumbering same) (aliases_renumbering same)
  have hsuffix := (hrounds.passes hd).suffix.trans hc
  refine bind_eq_ok.mpr ⟨_, hrounds.crosses hd (spans_renumbering same hc), ?_⟩
  exact finish_cross (faithful_renumbering same) (spans_renumbering same hsuffix) hfinish

/-! ## Headers with other line numbers -/

theorem steady_renumbering {c : Cursor} (hc : c.rest <:+ first.rest) :
    (renumbering same).Steady c := by
  intro e he
  have hback := he.cross (spans_renumbering (kinds_cross same hc).symm List.suffix_rfl)
  rw [cross_renumbering] at hback
  exact ⟨_, hback⟩

omit same in
theorem lastToken_of_short {c : Cursor} (h : c.rest.length < 2) : lastToken c.line c.rest = c := by
  obtain ⟨line, - | ⟨t, - | ⟨u, ts⟩⟩⟩ := c
  · rfl
  · rfl
  · exact absurd h (by simp)

omit same in
theorem lastToken_of_long {c : Cursor} (h : ¬ c.rest.length < 2) :
    lastToken c.line c.rest = lastToken c.advance.line c.advance.rest := by
  obtain ⟨line, - | ⟨t, - | ⟨u, ts⟩⟩⟩ := c
  · exact absurd Nat.zero_lt_two h
  · exact absurd Nat.one_lt_two h
  · rfl

theorem lastToken_renumbering {c : Cursor} (hc : c.rest <:+ first.rest) :
    (lastToken c.line c.rest).rest <:+ c.rest ∧
      lastToken ((renumbering same).cross c).line ((renumbering same).cross c).rest =
        (renumbering same).cross (lastToken c.line c.rest) := by
  have hlength (d : Cursor) (hd : d.rest <:+ first.rest) :
      ((renumbering same).cross d).rest.length = d.rest.length := by
    rw [length_rest, length_rest, kinds_cross same hd]
  induction hn : c.rest.length generalizing c with
  | zero =>
      rw [lastToken_of_short (by omega), lastToken_of_short (by rw [hlength c hc]; omega)]
      exact ⟨List.suffix_rfl, rfl⟩
  | succ n ih =>
      by_cases hshort : c.rest.length < 2
      · rw [lastToken_of_short hshort, lastToken_of_short (by rwa [hlength c hc])]
        exact ⟨List.suffix_rfl, rfl⟩
      · have hadvance : c.advance.rest.length = n := by
          rw [rest_advance, List.length_tail, hn, Nat.add_sub_cancel]
        obtain ⟨hsuffix, hlast⟩ := ih ((suffix_advance c).trans hc) hadvance
        have hother : ¬ ((renumbering same).cross c).rest.length < 2 := by rwa [hlength c hc]
        have hfirst := lastToken_of_long hshort
        have hne : c.rest ≠ [] := by
          rintro hend
          rw [hend] at hn
          cases hn
        rw [hfirst, lastToken_of_long hother, cross_advance (spans_renumbering same hc) hne]
        exact ⟨hsuffix.trans (suffix_advance c), hlast⟩

theorem headerOf_renumbering {c d : Cursor} (hc : c.rest <:+ first.rest)
    (h : headerOf c.name? c = .ok d) :
    d.rest <:+ c.rest ∧ headerOf ((renumbering same).cross c).name? ((renumbering same).cross c) =
      .ok ((renumbering same).cross d) := by
  have hspans {d : Cursor} : (renumbering same).Spans c d := spans_renumbering same hc
  have hadvance := (suffix_advance c).trans hc
  rw [name?_cross hspans]
  cases hname : c.name? with
  | none =>
      rw [hname] at h
      cases h
  | some word =>
      rw [hname] at h
      by_cases hcase : word = "case"
      · subst hcase
        obtain ⟨hsuffix, hlast⟩ := lastToken_renumbering same hadvance
        change caseHeader c.advance = .ok d at h
        change d.rest <:+ c.rest ∧ caseHeader ((renumbering same).cross c).advance = _
        rw [caseHeader] at h
        split at h
        · cases h
        · next hcolon =>
            obtain rfl := Except.ok.inj h
            rw [cross_advance hspans (ne_nil_of_name ⟨_, hname⟩), caseHeader,
              atSymbol_cross (spans_renumbering same hadvance) .colon (by decide),
              if_neg hcolon, hlast]
            exact ⟨hsuffix.trans (suffix_advance c), rfl⟩
      · have hheader : (renumbering same).Carries 0 0 0 c _ _ :=
          carries_headerOf hname hcase (steady_renumbering same hadvance)
            fun _ _ => steady_renumbering same ((suffix_advance c.advance).trans hadvance)
        exact ⟨(hheader.passes h).suffix, hheader.crosses h hspans⟩

theorem compoundHeader_renumbering {c d : Cursor} (hc : c.rest <:+ first.rest)
    (h : compoundHeader c = .ok d) :
    d.rest <:+ c.rest ∧ compoundHeader ((renumbering same).cross c) =
      .ok ((renumbering same).cross d) := by
  rw [compoundHeader_eq] at h ⊢
  obtain ⟨e, he, hd⟩ := bind_eq_ok.mp h
  obtain ⟨hsuffix, hheader⟩ := headerOf_renumbering same hc he
  have hcolon : (renumbering same).Carries 0 0 0 e _ _ := carries_expect .colon rfl
  refine ⟨(hcolon.passes hd).suffix.trans hsuffix, bind_eq_ok.mpr ⟨_, hheader, ?_⟩⟩
  exact hcolon.crosses hd (spans_renumbering same (hsuffix.trans hc))

end Renumbering

end Crossing

/-! ## Whole lines -/

theorem clauseOf?_eq (ts : List Token) : clauseOf? ts =
    ((if (ts.map (·.kind)).head? = some (.name "async") then (ts.map (·.kind)).tail.head?
      else (ts.map (·.kind)).head?).bind Token.Kind.name?).bind Clause.ofKeyword? := by
  cases ts with
  | nil => rfl
  | cons t ts =>
      simp only [clauseOf?, Token.isName, List.map_cons, List.head?_cons, List.tail_cons,
        List.head?_map, Option.some.injEq, decide_eq_true_eq]
      split <;> simp only [Token.name?_eq, Option.bind_map, Option.bind_some, Function.comp_def]

section Kinds

variable {ts us : List Token} (same : us.map (·.kind) = ts.map (·.kind))
include same

theorem clauseOf?_of_kinds : clauseOf? us = clauseOf? ts := by
  rw [clauseOf?_eq, clauseOf?_eq, same]

theorem isSoftHeader_of_kinds (opens : Bool) : isSoftHeader us opens = isSoftHeader ts opens := by
  have hsoft (ts : List Token) : isSoftHeader ts opens = (opens &&
      (ts.map (·.kind)).head?.any
        fun k => decide (k = .name "match") || decide (k = .name "case")) := by
    cases ts <;> simp [isSoftHeader, Token.isName]
  rw [hsoft, hsoft, same]

/-- The numbers of the lines do not matter. -/
theorem checkLine_of_kinds {opens : Bool} (h : checkLine ts opens = .ok ()) :
    checkLine us opens = .ok () := by
  have hstart : (start us).kinds = (start ts).kinds := same
  have hcross := Crossing.cross_renumbering hstart
  rw [checkLine] at h ⊢
  rw [clauseOf?_of_kinds same, isSoftHeader_of_kinds same]
  split at h
  · next hheader =>
      rw [if_pos hheader]
      obtain ⟨d, hd, hrest⟩ := bind_eq_ok.mp h
      obtain ⟨hsuffix, hcompound⟩ :=
        Crossing.compoundHeader_renumbering hstart List.suffix_rfl hd
      rw [hcross] at hcompound
      refine bind_eq_ok.mpr ⟨_, hcompound, ?_⟩
      cases opens with
      | true =>
          exact Crossing.finish_cross (Crossing.faithful_renumbering hstart)
            (Crossing.spans_renumbering hstart hsuffix) hrest
      | false => exact Crossing.simpleStatements_renumbering hstart hsuffix hrest
  · next hheader =>
      rw [if_neg hheader, ← hcross]
      exact Crossing.simpleStatements_renumbering hstart List.suffix_rfl h

end Kinds

end DeclaredSchema.Source
