import DeclaredSchema.Proofs.Source.LocalLists
import DeclaredSchema.Source.LogicalLine

/-! # Headers over a change of the text

What stands between the keyword of a clause and its colon carries over a change behind it. Only
`with` looks further: it tries to read its items in parentheses, and gives that up if no colon
comes next. Such a reading may run over the place of the change, so it has to be known that the
items stand in parentheses in both texts or in none.
-/

namespace DeclaredSchema.Source

open Cursor Line Source.Tree

namespace Crossing

section Headers

variable {j : Crossing} {c d : Cursor} {k l : Nat}

/-! ## Parts of headers -/

theorem carries_asName : j.Carries l k k c (asName c) (asName (j.cross c)) :=
  .step (steps_eatName? "as") (fun _ _ _ => carries_identifier) .here

theorem carries_commaList {item : Cursor → Except SyntaxError Cursor}
    (h : ∀ d, j.Carries 0 k k d (item d) (item (j.cross d))) :
    j.Carries l k k c (commaList item c) (commaList item (j.cross c)) := by
  refine Carries.readBind (.rounds (fun _ d hd => ?_) _) fun _ _ _ => .here
  exact (h d).hereBind fun e he => carries_pastComma he.length_le

theorem carries_withItem : j.Carries l k k c (withItem c) (withItem (j.cross c)) := by
  refine Carries.hereBind (carries_pass .expression nofun) fun d hd => ?_
  refine .orStep (steps_eatName? "as") .here fun e he hlt => ?_
  exact Carries.readBind (carries_run (.item .target) nofun) fun target i hi => .check .here

/-- Skips what stands in brackets, of which `depth` are open. -/
def skipFrom (depth : Nat) (c : Cursor) : Except SyntaxError Cursor :=
  skipBracketsFrom c.line depth c.rest

/-- Goes on behind a token. -/
def skipPast (depth : Nat) (t : Token) (c : Cursor) : Except SyntaxError Cursor :=
  if t.opens then skipFrom (depth + 1) c
  else if t.closes then if depth ≤ 1 then .ok c else skipFrom (depth - 1) c
  else skipFrom depth c

theorem skipFrom_of_cons {depth : Nat} {t : Token} {ts : List Token} (hc : c.rest = t :: ts) :
    skipFrom depth c = skipPast depth t c.advance := by
  rw [skipFrom, advance, hc, skipBracketsFrom]
  rfl

theorem skipPast_of_kind {t u : Token} (h : u.kind = t.kind) (depth : Nat) :
    skipPast depth u c = skipPast depth t c := by
  rw [skipPast, skipPast, Token.opens, Token.opens?, Token.closes, Token.closes?, h]
  rfl

theorem carries_skipFrom (depth : Nat) :
    j.Carries l (k + (depth + 1)) k c (skipFrom (depth + 1) c)
      (skipFrom (depth + 1) (j.cross c)) := by
  induction hn : c.rest.length generalizing c depth with
  | zero =>
      rw [skipFrom, List.length_eq_zero_iff.mp hn]
      exact .error _
  | succ n ih =>
      obtain ⟨t, ts, hc⟩ := List.exists_cons_of_length_eq_add_one hn
      have hne : c.rest ≠ [] := hc ▸ List.cons_ne_nil t ts
      have hlength : c.advance.rest.length = n := by
        rw [advance, hc]
        rw [hc] at hn
        exact Nat.succ.inj hn
      have hmore (m : Nat) (ht : t.depthBehind? (k + (depth + 1)) = some (k + (m + 1))) :
          j.Carries l (k + (depth + 1)) k c (skipFrom (m + 1) c.advance)
            (skipFrom (m + 1) (j.cross c).advance) :=
        .after (.advance hc ((t.depthWithin?_succ (k + depth)).trans ht)) (ih m hlength)
          fun hs => by rw [cross_advance hs hne]
      have hstep : j.Carries l (k + (depth + 1)) k c (skipPast (depth + 1) t c.advance)
          (skipPast (depth + 1) t (j.cross c).advance) := by
        refine .ite (fun _ => rfl) (fun hopens => ?_) fun hopens => ?_
        · exact hmore (depth + 1) (Token.depthBehind?_of_opens hopens _)
        have hopens : ¬ t.opens = true := by simp [hopens]
        refine .ite (fun _ => rfl) (fun hcloses => ?_) fun hcloses => ?_
        · have ht := Token.depthBehind?_of_closes hopens hcloses (k + depth)
          cases depth with
          | zero =>
              exact .after (.advance hc ((t.depthWithin?_succ k).trans ht)) .here
                fun hs => by rw [cross_advance hs hne]; rfl
          | succ depth => exact hmore depth ht
        · exact hmore depth (Token.depthBehind?_of_not hopens (by simp [hcloses]) _)
      rw [skipFrom_of_cons hc]
      refine hstep.congr fun hs => ?_
      obtain ⟨u, us, hcross, hu⟩ := exists_head_cross hs hc
      rw [skipFrom_of_cons hcross, skipPast_of_kind hu]

theorem carries_skipTypeParameters :
    j.Carries l k k c c.skipTypeParameters (j.cross c).skipTypeParameters := by
  refine .ite (atSymbol_cross · _ (by decide)) (fun hopen => ?_) fun _ => .here
  obtain ⟨t, ts, hc, ht⟩ := exists_of_atSymbol hopen
  have hskip {c : Cursor} {u : Token} {us : List Token} (hc : c.rest = u :: us)
      (hu : u.kind = .symbol .openSquare) : c.skipBrackets = skipFrom 1 c.advance := by
    have hopens : u.opens = true := Token.opens_of_symbol hu
    rw [skipBrackets, ← skipFrom, skipFrom_of_cons hc, skipPast, if_pos hopens]
  rw [hskip hc ht]
  have hp : Passes k (k + 1) c c.advance := .advance hc (depthWithin?_of_symbol ht k)
  refine .after hp (carries_skipFrom 0) fun hs => ?_
  obtain ⟨u, us, hcross, hu⟩ := exists_head_cross (hs.earlier hp) hc
  rw [hskip hcross (hu.trans ht), cross_advance hs (hc ▸ List.cons_ne_nil t ts)]

/-! ## Headers of clauses -/

theorem carries_functionHeader :
    j.Carries l k k c (functionHeader c) (functionHeader (j.cross c)) := by
  refine carries_identifier.hereBind fun d hd => ?_
  refine carries_skipTypeParameters.hereBind fun d hd => ?_
  refine Carries.hereBind (carries_expect .openParen rfl) fun d hd => ?_
  refine Carries.hereBind (carries_pass (.parameters .closeParen true) nofun) fun d hd => ?_
  refine Carries.hereBind (carries_expect .closeParen rfl) fun d hd => ?_
  exact .step (steps_eat? .arrow rfl) (fun e he hlt => carries_pass .expression nofun) .here

theorem carries_classHeader : j.Carries l k k c (classHeader c) (classHeader (j.cross c)) := by
  refine carries_identifier.hereBind fun d hd => ?_
  refine carries_skipTypeParameters.hereBind fun d hd => ?_
  exact .step (steps_eat? .openParen rfl) (fun e he hlt => carries_pass .arguments nofun) .here

/-- What a handler catches, behind its star. -/
def handled (c : Cursor) : Except SyntaxError Cursor :=
  if c.atSymbol .colon then .ok c
  else do
    let c ← commaList Rule.expression.pass c
    asName c

theorem carries_handlerHeader :
    j.Carries l k k c (handlerHeader c) (handlerHeader (j.cross c)) := by
  obtain ⟨hstar, hcross⟩ := passes_skip (j := j) (c := c) (a := k) .star rfl
  refine .after hstar (y := handled (j.cross (c.skip .star))) ?_ fun hs => ?_
  · refine .ite (atSymbol_cross · _ (by decide)) (fun _ => .here) fun _ => ?_
    exact Carries.hereBind (carries_commaList fun d => carries_pass .expression nofun)
      fun _ _ => carries_asName
  · rw [← hcross hs]
    rfl

theorem carries_forHeader : j.Carries l k k c (forHeader c) (forHeader (j.cross c)) := by
  refine Carries.readBind (carries_run (.listOf .target) nofun) fun target d hd => .check ?_
  exact Carries.hereBind (carries_expectName "in") fun e he => carries_pass (.listOf .star) nofun

/-! ## Items in parentheses -/

/-- The items of a `with` between its parentheses. -/
def insideItems (c : Cursor) : Except SyntaxError (Unit × Cursor) :=
  rounds (fun _ c => do
    let c ← withItem c
    match c.eat? .comma with
    | none => .ok (.stop () c)
    | some c => if c.atSymbol .closeParen then .ok (.stop () c) else .ok (.again () c)) () c

theorem carries_insideItems : j.Carries l k k c (insideItems c) (insideItems (j.cross c)) := by
  refine .rounds (fun _ d hd => ?_) _
  refine carries_withItem.hereBind fun e he => ?_
  refine .orStep (steps_eat? .comma rfl) (.stop _) fun i hi hlt => ?_
  exact .ite (atSymbol_cross · _ (by decide)) (fun _ => .stop _)
    fun _ => .again _ (Nat.lt_of_lt_of_le hlt he.length_le)

theorem carries_parenthesizedWithItems :
    j.Carries l k k c (parenthesizedWithItems c) (parenthesizedWithItems (j.cross c)) := by
  refine Carries.hereBind (carries_expect .openParen rfl) fun d hd => ?_
  refine Carries.readBind (x := insideItems d) (y := insideItems (j.cross d)) carries_insideItems
    fun _ e he => ?_
  exact carries_expect .closeParen rfl

theorem exists_of_eat? {s : Symbol} (h : c.eat? s = some d) :
    ∃ t, c.rest = t :: d.rest ∧ t.kind = .symbol s ∧ t.line = d.line := by
  obtain ⟨hat, hd⟩ := Option.ite_none_right_eq_some.mp h
  obtain ⟨t, ts, hc, ht⟩ := exists_of_atSymbol hat
  obtain rfl := Option.some.inj hd
  rw [advance, hc]
  exact ⟨t, rfl, ht, rfl⟩

theorem expect_eq_ok {s : Symbol} (h : c.expect s = .ok d) :
    ∃ t, c.rest = t :: d.rest ∧ t.kind = .symbol s ∧ t.line = d.line := by
  rw [expect] at h
  split at h
  · next hs =>
      obtain rfl := Except.ok.inj h
      exact exists_of_eat? hs
  · cases h

theorem identifier_eq_ok (h : c.identifier = .ok d) :
    ∃ t word, c.rest = t :: d.rest ∧ t.kind = .name word := by
  rw [identifier] at h
  split at h
  · next hname =>
      obtain ⟨word, hword⟩ := exists_name_of_atIdentifier hname
      obtain ⟨t, ts, hc, ht⟩ := exists_of_name? hword
      obtain rfl := Except.ok.inj h
      exact ⟨t, word, by rw [advance, hc], ht⟩
  · cases h

/-- What stands in the parentheses closes no bracket that it has not opened. -/
theorem parenthesizedWithItems_eq_ok (h : parenthesizedWithItems c = .ok d) :
    ∃ opening body closing, c.rest = opening :: (body ++ closing :: d.rest) ∧
      opening.opens = true ∧ depthBehind? 0 body = some 0 := by
  obtain ⟨e, he, h⟩ := bind_eq_ok.mp h
  obtain ⟨⟨_, i⟩, hi, h⟩ := bind_eq_ok.mp h
  obtain ⟨opening, hc, hopening, -⟩ := expect_eq_ok he
  obtain ⟨closing, hclosing, -⟩ := expect_eq_ok h
  have hitems : refl.Carries 0 0 0 e _ _ := carries_insideItems
  obtain ⟨body, hbody, hdepth⟩ : Passes 0 0 e i := hitems.passes hi
  refine ⟨opening, body, closing, ?_, ?_, depthBehind?_of_within hdepth⟩
  · rw [hc, hbody]
    exact congrArg (opening :: body ++ ·) hclosing
  · exact Token.opens_of_symbol hopening

/-- The items stand in parentheses, and the colon comes next. -/
def Enclosed (c d : Cursor) : Prop := parenthesizedWithItems c = .ok d ∧ d.atSymbol .colon = true

theorem withItems_of_enclosed (h : Enclosed c d) : withItems c = .ok d := by
  obtain ⟨hitems, hcolon⟩ := h
  have hopen : c.atSymbol .openParen = true := by
    by_contra hopen
    rw [parenthesizedWithItems, expect, eat?, if_neg hopen] at hitems
    cases hitems
  rw [withItems, if_pos hopen, hitems]
  exact if_pos hcolon

theorem withItems_of_not_enclosed (h : ∀ d, ¬ Enclosed c d) :
    withItems c = commaList withItem c := by
  rw [withItems]
  split
  · cases hitems : parenthesizedWithItems c with
    | error err => rfl
    | ok d => exact if_neg fun hcolon => h d ⟨hitems, hcolon⟩
  · rfl

theorem Enclosed.cross (h : Enclosed c d) (hs : j.Spans c d) :
    Enclosed (j.cross c) (j.cross d) := by
  obtain ⟨hitems, hcolon⟩ := h
  have hitems' : j.Carries 0 0 0 c _ _ := carries_parenthesizedWithItems
  refine ⟨hitems'.crosses hitems hs, ?_⟩
  rw [atSymbol_cross (hs.later (hitems'.passes hitems)) .colon (by decide), hcolon]

/-- In the changed text items stand in parentheses only if they do in the first one. -/
def Steady (j : Crossing) (c : Cursor) : Prop :=
  ∀ e, Enclosed (j.cross c) e → ∃ d, Enclosed c d

theorem carries_withItems (hsteady : j.Steady c) :
    j.Carries 0 k k c (withItems c) (withItems (j.cross c)) := by
  by_cases hitems : ∃ d, Enclosed c d
  · obtain ⟨d, hd⟩ := hitems
    intro r hr
    obtain rfl := Except.ok.inj ((withItems_of_enclosed hd).symm.trans hr)
    obtain ⟨hp, hl, -⟩ := carries_parenthesizedWithItems (j := j) (l := 0) (k := k) d hd.1
    exact ⟨hp, hl, fun hs => withItems_of_enclosed (hd.cross hs)⟩
  · rw [withItems_of_not_enclosed (not_exists.mp hitems),
      withItems_of_not_enclosed fun e he => hitems (hsteady e he)]
    exact carries_commaList fun _ => carries_withItem

/-! ## From a keyword to the colon -/

theorem carries_clauseBody (clause : Clause) (hsteady : j.Steady c) :
    j.Carries 0 k k c (clauseBody clause c) (clauseBody clause (j.cross c)) := by
  cases clause with
  | withScope => exact carries_withItems hsteady
  | ifThen | elseIf | whileLoop => exact carries_pass .named nofun
  | orElse | tryBlock | cleanup => exact .here
  | forLoop => exact carries_forHeader
  | handler => exact carries_handlerHeader
  | function => exact carries_functionHeader
  | classBody => exact carries_classHeader

/-- What stands in front of the colon behind `async` and a keyword. -/
def asyncHeader (clause : Option Clause) (blamed : SyntaxError) (c : Cursor) :
    Except SyntaxError Cursor :=
  match clause with
  | some .function => functionHeader c
  | some .forLoop => forHeader c
  | some .withScope => withItems c
  | _ => .error blamed

/-- What stands in front of the colon of a header that begins with the word. -/
def headerOf (word : Option String) (c : Cursor) : Except SyntaxError Cursor :=
  match word with
  | some "async" => asyncHeader (c.advance.name?.bind Clause.ofKeyword?) c.advance.unexpected
      c.advance.advance
  | some "match" => (Rule.listOf .starNamed).pass c.advance
  | some "case" => caseHeader c.advance
  | some word => match Clause.ofKeyword? word with
    | some clause => clauseBody clause c.advance
    | none => .error c.unexpected
  | none => .error c.unexpected

theorem compoundHeader_eq (c : Cursor) :
    compoundHeader c = headerOf c.name? c >>= (·.expect .colon) := by
  rw [compoundHeader]
  split
  · next hname =>
      rw [hname, headerOf]
      cases c.advance.name?.bind Clause.ofKeyword? with
      | none => rfl
      | some clause => cases clause <;> rfl
  · next hname =>
      rw [hname]
      rfl
  · next hname =>
      rw [hname]
      rfl
  · next word hasync hmatch hcase hname =>
      rw [hname, headerOf]
      · cases Clause.ofKeyword? word <;> rfl
      all_goals assumption
  · next hname =>
      rw [hname]
      rfl

theorem carries_asyncHeader (clause : Option Clause) (blamed blamed' : SyntaxError)
    (hsteady : j.Steady c) : j.Carries 0 k k c (asyncHeader clause blamed c)
      (asyncHeader clause blamed' (j.cross c)) := by
  cases clause with
  | none => exact .error _
  | some clause =>
      cases clause with
      | function => exact carries_functionHeader
      | forLoop => exact carries_forHeader
      | withScope => exact carries_withItems hsteady
      | _ => exact .error _

theorem carries_headerOf {word : String} (hname : c.name? = some word) (hcase : word ≠ "case")
    (hsteady : j.Steady c.advance)
    (hsteady' : ∀ w, c.advance.name? = some w → j.Steady c.advance.advance) :
    j.Carries 0 k k c (headerOf (some word) c) (headerOf (some word) (j.cross c)) := by
  have hp := (passes_name ⟨word, hname⟩ k).1
  have hne := ne_nil_of_name ⟨word, hname⟩
  by_cases hasync : word = "async"
  · subst hasync
    rw [headerOf]
    cases hsecond : c.advance.name? with
    | none => exact .error _
    | some word =>
        have hq := (passes_name ⟨word, hsecond⟩ k).1
        refine .after (hp.trans hq) (carries_asyncHeader (Clause.ofKeyword? word)
          c.advance.unexpected (j.cross c).advance.unexpected (hsteady' word hsecond)) fun hs => ?_
        have hs' : j.Spans c c.advance := hs.earlier hq
        have hname' : (j.cross c).advance.name? = some word := by
          rw [cross_advance hs' hne, name?_cross (hs'.later hp), hsecond]
        rw [headerOf, hname', cross_advance_advance hs (ne_nil_of_name ⟨word, hsecond⟩)]
        rfl
  by_cases hmatch : word = "match"
  · subst hmatch
    exact .after hp (carries_pass (.listOf .starNamed) nofun) fun hs => by
      rw [← cross_advance hs hne]
      rfl
  rw [headerOf, headerOf]
  · cases Clause.ofKeyword? word with
    | none => exact .error _
    | some clause =>
        exact .after hp (carries_clauseBody clause hsteady) fun hs => by
          rw [cross_advance hs hne]
  all_goals assumption

end Headers

end Crossing

end DeclaredSchema.Source
