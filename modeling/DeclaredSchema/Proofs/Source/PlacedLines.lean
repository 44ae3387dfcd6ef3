import DeclaredSchema.Proofs.Source.Places
import DeclaredSchema.Proofs.Source.InlineLines

/-! # Lines checked by places

An error that is blamed on what has been read looks at the place before the one where the check
stands. In front of the first token there is no such place: what would be seen there is `before`,
any line at all. What a check tells does not depend on it, since nothing is blamed until a token has
been read (`checkLineAt_eq`). A header that is none steps back over the word it has begun with.
-/

namespace DeclaredSchema.Source.ByPlace

open Cursor Line Crossing

/-! ## The front of a line -/

/-- Rules that read a token before they end or fail. -/
def beginsAhead : Rule → Bool
  | .yieldOrStars | .yieldExpr | .listOf _ | .item _ | .named | .expression | .chain _
  | .inversion | .factor | .primary | .atom => true
  | _ => false

section Front

variable {line line' : Nat} {t : Token} {ts : List Token}

/-- By induction on the number of rules: each of them reads the next token or leaves it to a rule of
the same kind. -/
theorem read_front {fuel : Nat} {rule : Rule} (h : beginsAhead rule = true) :
    rule.read fuel ⟨line, t :: ts⟩ = rule.read fuel ⟨line', t :: ts⟩ := by
  induction fuel generalizing rule with
  | zero => rfl
  | succ fuel ih =>
      have same {r : Rule} (hr : beginsAhead r = true) :
          r.read fuel ⟨line, t :: ts⟩ = r.read fuel ⟨line', t :: ts⟩ := ih hr
      cases rule with
      | yieldOrStars =>
          rw [Rule.read, Rule.read, same (r := .yieldExpr) rfl, same (r := .listOf .star) rfl]
          rfl
      | yieldExpr => rfl
      | listOf element =>
          rw [Rule.read, Rule.read, same (r := .item element) rfl]
      | item element =>
          cases element with
          | star =>
              rw [Rule.read, Rule.read, same (r := .expression) rfl]
              rfl
          | starNamed =>
              rw [Rule.read, Rule.read, same (r := .named) rfl]
              rfl
          | target =>
              rw [Rule.read, Rule.read, same (r := .chain .bitOr) rfl]
              rfl
      | named =>
          rw [Rule.read, Rule.read, same (r := .expression) rfl]
          rfl
      | expression =>
          rw [Rule.read, Rule.read, same (r := .chain .disjunction) rfl]
          rfl
      | chain level =>
          have hoperand : beginsAhead level.operand = true := by cases level <;> rfl
          rw [Rule.read, Rule.read, same hoperand]
      | inversion =>
          rw [Rule.read, Rule.read, same (r := .chain .comparison) rfl]
          rfl
      | factor =>
          rw [Rule.read, Rule.read, same (r := .primary) rfl]
          rfl
      | primary => rw [Rule.read, Rule.read, same (r := .atom) rfl]
      | atom => rfl
      | _ => cases h

theorem run_front (rule : Rule) (h : beginsAhead rule = true) :
    rule.run ⟨line, t :: ts⟩ = rule.run ⟨line', t :: ts⟩ := read_front h

theorem expressionStatement_front :
    expressionStatement ⟨line, t :: ts⟩ = expressionStatement ⟨line', t :: ts⟩ := by
  rw [expressionStatement, expressionStatement, run_front .yieldOrStars rfl]

/-- A word that begins no statement of its own is read as an expression, all others are stepped
over. -/
theorem namedStatement_front (word : String) :
    namedStatement word ⟨line, t :: ts⟩ = namedStatement word ⟨line', t :: ts⟩ := by
  rw [namedStatement, namedStatement, expressionStatement_front]
  rfl

theorem simpleStatement_front :
    simpleStatement ⟨line, t :: ts⟩ = simpleStatement ⟨line', t :: ts⟩ := by
  have hword : (⟨line, t :: ts⟩ : Cursor).name? = (⟨line', t :: ts⟩ : Cursor).name? := rfl
  rw [simpleStatement, simpleStatement, hword, expressionStatement_front]
  cases (⟨line', t :: ts⟩ : Cursor).name? with
  | none => rfl
  | some word =>
      dsimp only
      rw [namedStatement_front]
      rfl

/-- A repetition is the same if its first round is. -/
theorem rounds_front {α : Type} {round : α → Cursor → Except SyntaxError (Round α)} {value : α}
    (h : round value ⟨line, t :: ts⟩ = round value ⟨line', t :: ts⟩) :
    rounds round value ⟨line, t :: ts⟩ = rounds round value ⟨line', t :: ts⟩ := by
  rw [rounds, rounds, roundsFuel, roundsFuel, h]

theorem compoundHeader_front :
    compoundHeader ⟨line, t :: ts⟩ = compoundHeader ⟨line', t :: ts⟩ := rfl

theorem simpleStatements_front :
    simpleStatements ⟨line, t :: ts⟩ = simpleStatements ⟨line', t :: ts⟩ := by
  rw [simpleStatements, simpleStatements, rounds_front]
  rw [simpleStatement_front]

end Front

/-! ## The check -/

/-- In front of what stands from a place on; `before` stands in front of the first token. -/
def cursorAt (before : Nat) (tokens : List Token) (place : Nat) : Cursor :=
  ⟨if place = 0 then before else (tokens[place - 1]?.map (·.line)).getD before, tokens.drop place⟩

/-- A word that begins no header has been stepped over and is blamed from in front of it. -/
def noHeaderAt (before : Nat) (tokens : List Token) (behind : Nat) :
    Checked (Except SyntaxError Cursor) := do
  let place ← less? behind 1
  some (.error (cursorAt before tokens place).unexpected)

/-- The header of a compound statement that begins with a word, which is stepped over. -/
def headerAt (before : Nat) (tokens : List Token) :
    Nat → Nat → Checked (Except SyntaxError Cursor)
  | 0, _ => none
  | depth + 1, place =>
    let c := cursorAt before tokens (place + 1)
    match (cursorAt before tokens place).name? with
    | none => noHeaderAt before tokens (place + 1)
    | some word =>
      if word = "async" then
        if c.atName "def" || c.atName "for" || c.atName "with" then
          headerAt before tokens depth (place + 1)
        else some (.error c.unexpected)
      else if word = "match" then some ((Rule.listOf .starNamed).pass c >>= (·.expect .colon))
      else if word = "case" then some (caseHeader c >>= (·.expect .colon))
      else match Clause.ofKeyword? word with
        | some clause => some (clauseBody clause c >>= (·.expect .colon))
        | none => noHeaderAt before tokens (place + 1)

/-- Checks one logical line. -/
def checkLineAt (before : Nat) (tokens : List Token) (opensBlock : Bool) :
    Checked (Except SyntaxError Unit) :=
  if (clauseOf? tokens).isSome || isSoftHeader tokens opensBlock then do
    match ← headerAt before tokens 2 0 with
    | .error e => some (.error e)
    | .ok c => some (if opensBlock then c.finish else simpleStatements c)
  else some (simpleStatements (cursorAt before tokens 0))

section Check

variable {before place depth : Nat} {tokens ts : List Token} {t : Token}

theorem cursorAt_advance (h : tokens.drop place = t :: ts) :
    (cursorAt before tokens place).advance = cursorAt before tokens (place + 1) := by
  have hat : tokens[place]? = some t := getElem?_of_drop h
  rw [cursorAt, cursorAt, h, drop_succ_of_drop h, Nat.add_sub_cancel, hat]
  rfl

theorem noHeaderAt_eq (before : Nat) (tokens : List Token) (place : Nat) :
    noHeaderAt before tokens (place + 1) =
      some (.error (cursorAt before tokens place).unexpected) := by
  rw [noHeaderAt, less?_of_le (Nat.le_add_left 1 place)]
  rfl

/-- The header without `async` in front. -/
theorem headerAt_plain (h : tokens.drop place = t :: ts)
    (hasync : (cursorAt before tokens place).name? ≠ some "async") :
    headerAt before tokens (depth + 1) place =
      some (compoundHeader (cursorAt before tokens place)) := by
  rw [headerAt, compoundHeader_eq, ← cursorAt_advance h, noHeaderAt_eq]
  cases hname : (cursorAt before tokens place).name? with
  | none => rfl
  | some word =>
      have hword : word ≠ "async" := fun h => hasync (by rw [hname, h])
      dsimp only
      rw [if_neg hword]
      by_cases hmatch : word = "match"
      · subst hmatch
        rfl
      by_cases hcase : word = "case"
      · subst hcase
        rfl
      rw [if_neg hmatch, if_neg hcase]
      simp only [headerOf]
      cases Clause.ofKeyword? word with
      | none => rfl
      | some clause => rfl

theorem atName_iff {word : String} {c : Cursor} : c.atName word = true ↔ c.name? = some word :=
  ⟨name?_of_atName, fun h => by
    obtain ⟨t, ts, hrest, ht⟩ := exists_of_name? h
    simp [atName, hrest, Token.isName, ht]⟩

theorem keyword_of_ofKeyword? {word : String} {clause : Clause}
    (h : Clause.ofKeyword? word = some clause) : clause.keyword = word := by
  rw [Clause.ofKeyword?] at h
  simpa using List.find?_some h

/-- The header behind `async`, which only three words begin. -/
theorem headerAt_async (h : tokens.drop place = t :: ts) :
    (if (cursorAt before tokens place).atName "def" ||
        (cursorAt before tokens place).atName "for" ||
        (cursorAt before tokens place).atName "with" then headerAt before tokens (depth + 1) place
      else some (.error (cursorAt before tokens place).unexpected)) =
    some (asyncHeader ((cursorAt before tokens place).name?.bind Clause.ofKeyword?)
      (cursorAt before tokens place).unexpected (cursorAt before tokens place).advance >>=
        (·.expect .colon)) := by
  have begins {word : String} (hname : (cursorAt before tokens place).name? = some word)
      (hword : word ≠ "async") : headerAt before tokens (depth + 1) place =
        some (headerOf (some word) (cursorAt before tokens place) >>= (·.expect .colon)) := by
    rw [headerAt_plain h (by rw [hname]; simpa using hword), compoundHeader_eq, hname]
  split
  · next hname =>
    simp only [Bool.or_eq_true, atName_iff] at hname
    rcases hname with (hname | hname) | hname
    · rw [begins hname (by decide), hname]
      rfl
    · rw [begins hname (by decide), hname]
      rfl
    · rw [begins hname (by decide), hname]
      rfl
  · next hother =>
    simp only [Bool.or_eq_true, atName_iff, not_or] at hother
    obtain ⟨⟨hdef, hfor⟩, hwith⟩ := hother
    cases hclause : (cursorAt before tokens place).name?.bind Clause.ofKeyword? with
    | none => rfl
    | some clause =>
        obtain ⟨word, hname, hword⟩ := Option.bind_eq_some_iff.mp hclause
        rw [← keyword_of_ofKeyword? hword] at hname
        cases clause with
        | function => exact absurd hname hdef
        | forLoop => exact absurd hname hfor
        | withScope => exact absurd hname hwith
        | _ => rfl

/-- The header of a line is the same, whatever stands in front. -/
theorem headerAt_eq (before : Nat) (t : Token) (ts : List Token) :
    headerAt before (t :: ts) 2 0 = some (compoundHeader (start (t :: ts))) := by
  by_cases hasync : (start (t :: ts)).name? = some "async"
  · have hname : (cursorAt before (t :: ts) 0).name? = some "async" := hasync
    have hadvance : (start (t :: ts)).advance = cursorAt before (t :: ts) 1 := rfl
    rw [headerAt, hname, compoundHeader_eq, hasync]
    simp only [headerOf, hadvance]
    cases ts with
    | nil => rfl
    | cons u us =>
        have hnext : (t :: u :: us).drop 1 = u :: us := rfl
        exact headerAt_async hnext
  · have hname : (cursorAt before (t :: ts) 0).name? ≠ some "async" := hasync
    have hfront : (t :: ts).drop 0 = t :: ts := rfl
    rw [headerAt_plain hfront hname]
    exact congrArg some compoundHeader_front

/-- A line that is not empty is checked without a look or a step back that fails. -/
theorem checkLineAt_eq (before : Nat) (opensBlock : Bool) (hne : tokens ≠ []) :
    checkLineAt before tokens opensBlock = some (checkLine tokens opensBlock) := by
  obtain ⟨t, ts, rfl⟩ := List.exists_cons_of_ne_nil hne
  rw [checkLineAt, checkLine, headerAt_eq]
  split
  · cases compoundHeader (start (t :: ts)) with
    | error e => rfl
    | ok c => rfl
  · exact congrArg some simpleStatements_front

end Check

end DeclaredSchema.Source.ByPlace
