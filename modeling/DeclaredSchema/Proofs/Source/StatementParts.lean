import DeclaredSchema.Proofs.Source.InlineLines
import DeclaredSchema.Source.Statement

/-! # Simple statements between semicolons

A simple statement is read up to a semicolon outside of all brackets, or to the end of the line, so
the statements that are read of a line are its parts between such semicolons. None of them begins
with the keyword of a clause: where no expression begins, none is read.
-/

namespace DeclaredSchema.Source

open Cursor Line Rule Source.Tree

/-! ## Where no expression begins -/

/-- Rules that begin with an expression, or with `yield`. -/
def Rule.leads : Rule → Bool
  | .yieldOrStars | .listOf _ | .item _ | .named | .expression | .chain _ | .inversion | .factor
  | .primary | .atom => true
  | _ => false

theorem Level.operand_leads (level : Level) : level.operand.leads = true := by
  cases level <;> rfl

section Refused

variable {c : Cursor}

theorem head?_ne_of_starts (h : c.startsExpression = false) {k : Token.Kind}
    (hk : starts k = true) : c.kinds.head? ≠ some k := by
  intro hhead
  rw [startsExpression_eq, hhead, Option.any_some, hk] at h
  cases h

theorem head?_of_atIdentifier (h : c.atIdentifier = true) :
    ∃ word, c.kinds.head? = some (.name word) ∧ isKeyword word = false := by
  obtain ⟨word, hname, hfree⟩ := (Option.any_eq_true _ _).mp h
  rw [name?_eq] at hname
  obtain ⟨k, hk, hword⟩ := Option.bind_eq_some_iff.mp hname
  cases k with
  | name n =>
      obtain rfl : n = word := Option.some.inj hword
      exact ⟨n, hk, Bool.not_eq_true' _ ▸ hfree⟩
  | _ => cases hword

theorem read_atom_refused (h : c.startsExpression = false) (fuel : Nat) {r : Shape × Cursor} :
    read fuel .atom c ≠ .ok r := by
  intro hr
  cases fuel with
  | zero => cases hr
  | succ fuel =>
      obtain ⟨line, - | ⟨⟨kind, n⟩, ts⟩⟩ := c
      · cases hr
      · have hstarts : starts kind = false := by
          rw [startsExpression_eq] at h
          exact h
        rw [Crossing.read_atom_of_cons fuel (t := ⟨kind, n⟩) rfl] at hr
        cases kind with
        | name word =>
            have hword : isKeyword word = true ∧ word ∉ expressionKeywords := by
              simpa [starts] using hstarts
            have hvalue : ¬ (word = "True" || word = "False" || word = "None") = true := by
              intro hvalue
              refine hword.2 ?_
              simp only [Bool.or_eq_true, decide_eq_true_eq] at hvalue
              rcases hvalue with (rfl | rfl) | rfl <;> decide
            rw [Crossing.atomOf, if_neg hvalue, if_pos hword.1] at hr
            cases hr
        | symbol s => cases s <;> first | exact absurd hstarts (by decide) | cases hr
        | number | str => cases hstarts
        | newline | indent | dedent | endMarker => cases hr

/-- By induction on the number of rules that may be entered: each rule begins with another one,
down to the atom. -/
theorem read_refused (h : c.startsExpression = false) (hyield : c.atName "yield" = false)
    (fuel : Nat) {rule : Rule} (hrule : rule.leads = true) {r : Shape × Cursor} :
    read fuel rule c ≠ .ok r := by
  induction fuel generalizing rule r with
  | zero => exact nofun
  | succ fuel ih =>
      intro hr
      have hword {word : String} (hw : starts (.name word) = true) : c.eatName? word = none :=
        eatName?_of_head (head?_ne_of_starts h hw)
      cases rule with
      | yieldOrStars =>
          rw [Rule.read, if_neg (by simp [hyield])] at hr
          exact ih rfl hr
      | listOf element =>
          obtain ⟨_, hfirst, -⟩ := bind_eq_ok.mp hr
          exact ih rfl hfirst
      | item element =>
          have hstar : c.eat? .star = none := eat?_of_head (head?_ne_of_starts h rfl)
          cases element <;> rw [Rule.read, hstar] at hr <;> exact ih rfl hr
      | named =>
          have hfree : c.atIdentifier = false := by
            rw [Bool.eq_false_iff]
            intro hat
            obtain ⟨word, hhead, hfree⟩ := head?_of_atIdentifier hat
            refine head?_ne_of_starts h ?_ hhead
            rw [starts, hfree]
            rfl
          rw [Rule.read, hfree] at hr
          exact ih rfl hr
      | expression =>
          rw [Rule.read, hword (by decide)] at hr
          obtain ⟨_, hfirst, -⟩ := bind_eq_ok.mp hr
          exact ih rfl hfirst
      | chain level =>
          obtain ⟨_, hfirst, -⟩ := bind_eq_ok.mp hr
          exact ih level.operand_leads hfirst
      | inversion =>
          rw [Rule.read, hword (by decide)] at hr
          exact ih rfl hr
      | factor =>
          have hsign : c.eatAny? [.plus, .minus, .tilde] = none := by
            refine eatAny?_of_head fun s hs => head?_ne_of_starts h ?_
            revert s
            decide
          rw [Rule.read, hsign, hword (by decide)] at hr
          obtain ⟨_, hfirst, -⟩ := bind_eq_ok.mp hr
          exact ih rfl hfirst
      | primary =>
          obtain ⟨_, hfirst, -⟩ := bind_eq_ok.mp hr
          exact ih rfl hfirst
      | atom => exact read_atom_refused h _ hr
      | _ => cases hrule

theorem expressionStatement_refused (h : c.startsExpression = false)
    (hyield : c.atName "yield" = false) {d : Cursor} : expressionStatement c ≠ .ok d := by
  intro hd
  obtain ⟨_, hread, -⟩ := bind_eq_ok.mp hd
  exact read_refused h hyield _ rfl hread

end Refused

/-! ## Words of clauses -/

/-- The words that a clause may begin with. -/
def clauseWords : List String := "async" :: Clause.all.map (·.keyword)

theorem clauseWord_of_clauseOf? {c : Cursor} (h : (clauseOf? c.rest).isSome) :
    ∃ word ∈ clauseWords, c.name? = some word := by
  obtain ⟨line, rest⟩ := c
  cases rest with
  | nil => cases h
  | cons t ts =>
      rw [clauseOf?] at h
      split at h
      · next hasync => exact ⟨"async", List.mem_cons_self, Crossing.name?_of_atName hasync⟩
      · cases hname : t.name? with
        | none => simp [hname] at h
        | some word =>
            obtain ⟨clause, hclause⟩ := Option.isSome_iff_exists.mp h
            rw [Option.bind_some, hname, Option.bind_some, Clause.ofKeyword?] at hclause
            have hkeyword : clause.keyword = word := by simpa using List.find?_some hclause
            refine ⟨word, List.mem_cons_of_mem _ (List.mem_map.mpr ⟨clause, ?_, hkeyword⟩), hname⟩
            exact List.mem_of_find?_eq_some hclause

theorem namedStatement_of_clauseWord {word : String} (h : word ∈ clauseWords) (c : Cursor) :
    namedStatement word c = expressionStatement c := by
  simp only [clauseWords, Clause.all, List.map_cons, List.map_nil, List.mem_cons,
    List.not_mem_nil, or_false] at h
  rcases h with rfl | rfl | rfl | rfl | rfl | rfl | rfl | rfl | rfl | rfl | rfl | rfl <;> rfl

theorem refused_of_clauseWord :
    ∀ word ∈ clauseWords, starts (.name word) = false ∧ word ≠ "yield" := by
  decide

theorem keyword_of_clauseWord : ∀ word ∈ clauseWords, isKeyword word = true := by decide

/-- A clause is no simple statement. -/
theorem clauseOf?_of_simpleStatement {c d : Cursor} (h : simpleStatement c = .ok d) :
    clauseOf? c.rest = none := by
  by_contra hclause
  obtain ⟨word, hmem, hname⟩ := clauseWord_of_clauseOf? (Option.ne_none_iff_isSome.mp hclause)
  obtain ⟨t, ts, hc, ht⟩ := Crossing.exists_of_name? hname
  have hkinds : c.kinds.head? = some (.name word) := by rw [kinds, hc, List.map_cons, ht]; rfl
  obtain ⟨hplain, hyield⟩ := refused_of_clauseWord word hmem
  have hstarts : c.startsExpression = false := by rw [startsExpression_eq, hkinds]; exact hplain
  have hyield : c.atName "yield" = false := by simp [atName_eq, hkinds, hyield]
  have hat : c.eat? .at = none := eat?_of_head (by simp [hkinds])
  have hend : c.atEnd = false := by rw [atEnd, hc]; rfl
  rw [simpleStatement, hend, hat, hname] at h
  change namedStatement word c = .ok d at h
  rw [namedStatement_of_clauseWord hmem] at h
  exact expressionStatement_refused hstarts hyield h

/-! ## Parts of a line -/

/-- The tokens of one statement have no semicolon outside of brackets. -/
theorem anyFrom_semicolon {ts : List Token} {depth after : Nat}
    (h : depthWithin? depth ts = some after) :
    anyFrom (·.isSymbol .semicolon) depth ts = false := by
  induction ts generalizing depth with
  | nil => rfl
  | cons t ts ih =>
      rw [depthWithin?_cons, Option.bind_eq_some_iff] at h
      obtain ⟨next, ht, hts⟩ := h
      obtain ⟨hplain, ht⟩ := Token.depthWithin?_eq_some.mp ht
      have hmore := ih hts
      rw [anyFrom]
      obtain ⟨hopens, rfl⟩ | ⟨hopens, hcloses, rfl⟩ | ⟨hopens, hcloses, rfl⟩ :=
        Token.depthBehind?_cases ht
      · rwa [if_pos hopens]
      · rwa [hopens, hcloses, Nat.add_sub_cancel]
      · rw [hopens, hcloses]
        refine Bool.or_eq_false_iff.mpr ⟨?_, hmore⟩
        simpa [Token.isSymbol, and_comm] using hplain

theorem splitTopLevel_end {ts : List Token} (h : depthWithin? 0 ts = some 0) :
    splitTopLevel .semicolon ts = [ts] :=
  splitTopLevel_whole (depthBehind?_of_within h) (anyFrom_semicolon h)

theorem splitTopLevel_semicolon {ts : List Token} (h : depthWithin? 0 ts = some 0) {t : Token}
    (ht : t.kind = .symbol .semicolon) (us : List Token) :
    splitTopLevel .semicolon (ts ++ t :: us) = ts :: splitTopLevel .semicolon us :=
  splitTopLevel_first (depthBehind?_of_within h) (anyFrom_semicolon h) (Token.opens_of_symbol ht)
    (Token.closes_of_symbol ht) (by simp [Token.isSymbol, ht]) us

theorem rest_of_finish {c : Cursor} (h : c.finish = .ok ()) : c.rest = [] := by
  rw [finish] at h
  split at h
  · next hend => exact List.isEmpty_iff.mp hend
  · cases h

/-- One statement, and what is behind it: nothing more, a last semicolon or further statements. -/
theorem statementRounds_succ {n : Nat} {c d : Cursor}
    (h : roundsFuel Crossing.statementRound (n + 1) () c = .ok ((), d)) :
    ∃ e, simpleStatement c = .ok e ∧ (e.eat? .semicolon = none ∧ e = d ∨
      ∃ i, e.eat? .semicolon = some i ∧ (i.rest = [] ∨
        roundsFuel Crossing.statementRound n () i = .ok ((), d))) := by
  rw [roundsFuel] at h
  cases hround : Crossing.statementRound () c with
  | error err =>
      rw [hround] at h
      cases h
  | ok outcome =>
      rw [hround] at h
      obtain ⟨e, he, hround⟩ := bind_eq_ok.mp hround
      refine ⟨e, he, ?_⟩
      cases heat : e.eat? .semicolon with
      | none =>
          rw [heat] at hround
          cases hround
          cases h
          exact .inl ⟨rfl, rfl⟩
      | some i =>
          rw [heat] at hround
          refine .inr ⟨i, rfl, ?_⟩
          dsimp only at hround
          split at hround
          · next hend => exact .inl (List.isEmpty_iff.mp hend)
          · cases hround
            exact .inr h

/-- A simple statement closes all its brackets and has no semicolon outside of them. -/
theorem passes_simpleStatement {c d : Cursor} (h : simpleStatement c = .ok d) : Passes 0 0 c d := by
  have hcarries : Crossing.refl.Carries 0 0 0 c _ _ :=
    Crossing.carries_simpleStatement (fun _ => rfl) fun _ => rfl
  exact hcarries.passes h

/-- By induction on the number of statements. Each is a part of its own, and what stands behind its
semicolon are the other parts. -/
theorem clauseOf?_of_rounds {n : Nat} {c d : Cursor}
    (h : roundsFuel Crossing.statementRound n () c = .ok ((), d)) (hend : d.rest = []) :
    ∀ part ∈ splitTopLevel .semicolon c.rest, clauseOf? part = none := by
  have hnone : ∀ part ∈ splitTopLevel .semicolon [], clauseOf? part = none := by decide
  induction n generalizing c with
  | zero =>
      cases h
      rwa [hend]
  | succ n ih =>
      obtain ⟨e, he, hbehind⟩ := statementRounds_succ h
      obtain ⟨ts, hts, hwithin⟩ := passes_simpleStatement he
      have hfirst : clauseOf? ts = none := by
        have hclause := clauseOf?_of_simpleStatement he
        by_contra hsome
        rw [hts, clauseOf?_append (Option.ne_none_iff_isSome.mp hsome)] at hclause
        exact hsome hclause
      rw [hts]
      rcases hbehind with ⟨-, rfl⟩ | ⟨i, heat, hrest⟩
      · rw [hend, List.append_nil, splitTopLevel_end hwithin]
        simpa using hfirst
      · obtain ⟨t, ht, hsemicolon, -⟩ := Crossing.exists_of_eat? heat
        rw [ht, splitTopLevel_semicolon hwithin hsemicolon, List.forall_mem_cons]
        refine ⟨hfirst, ?_⟩
        rcases hrest with hrest | hrest
        · rwa [hrest]
        · exact ih hrest

/-- No statement between the semicolons of a line is a clause, and the line is none. -/
theorem clauseOf?_of_simpleStatements {c : Cursor} (h : simpleStatements c = .ok ()) :
    clauseOf? c.rest = none ∧
      ∀ part ∈ splitTopLevel .semicolon c.rest, clauseOf? part = none := by
  obtain ⟨⟨⟨⟩, d⟩, hrounds, hfinish⟩ := bind_eq_ok.mp h
  obtain ⟨e, he, -⟩ := statementRounds_succ hrounds
  exact ⟨clauseOf?_of_simpleStatement he, clauseOf?_of_rounds hrounds (rest_of_finish hfinish)⟩

end DeclaredSchema.Source
