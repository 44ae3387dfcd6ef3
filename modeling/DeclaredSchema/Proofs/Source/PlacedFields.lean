import DeclaredSchema.Proofs.Source.PlacedExprs
import DeclaredSchema.Proofs.Source.ClassHeaders

/-! # Headers and fields of classes by places

The header of a class is followed over its brackets to the place of its colon, and a field is cut at
the place of its sign. Both stand in the tokens that are cut there, so the slices behind them exist
(`classHeaderAt_eq`, `annotatedAssignmentAt_eq`).
-/

namespace DeclaredSchema.Source.ByPlace

/-! ## The readers -/

/-- The place behind the brackets that open at a place. -/
def behindGroupAt (tokens : List Token) (opening : Nat) : Checked (Option Nat) :=
  (closingAt tokens opening).map (·.map (· + 1))

/-- The place where the header of a class has its colon, behind the brackets it may have. -/
def headerColonAt (tokens : List Token) : Checked (Option Nat) :=
  if tokens[2]?.any fun t => t.isSymbol .openParen || t.isSymbol .openSquare then
    whenFound (behindGroupAt tokens 2) fun place =>
      if tokens[place]?.any (·.isSymbol .openParen) then behindGroupAt tokens place
      else some (some place)
  else some (some 2)

/-- The header of a class of some name, whose colon has to stand at a place. -/
def inlineBodyAt (tokens : List Token) (word : String) (colon : Nat) :
    Checked (Option ClassHeader) :=
  if tokens[colon]?.any (·.isSymbol .colon) then do
    let inlineBody ← slice? tokens (colon + 1) tokens.length
    some (some ⟨word, inlineBody⟩)
  else some none

def classHeaderAt (tokens : List Token) : Checked (Option ClassHeader) :=
  if !tokens[0]?.any (·.isName "class") then some none
  else match tokens[1]?.bind (·.name?) with
    | none => some none
    | some word => whenFound (headerColonAt tokens) (inlineBodyAt tokens word)

/-- The first place outside brackets of a token with a property; `place` is that of the first
token. -/
def placeFrom? (p : Token → Bool) (depth place : Nat) : List Token → Option Nat
  | [] => none
  | t :: ts =>
    if t.opens then placeFrom? p (depth + 1) (place + 1) ts
    else if t.closes then placeFrom? p (depth - 1) (place + 1) ts
    else if depth = 0 && p t then some place
    else placeFrom? p depth (place + 1) ts

/-- The field with the sign of its assignment at a place behind the colon. -/
def fieldAt (target : String) (rest : List Token) (sign : Nat) :
    Checked (Option AnnotatedAssignment) := do
  let typeHint ← ofTokensAt (← slice? rest 0 sign)
  let value ← ofTokensAt (← slice? rest (sign + 1) rest.length)
  some (some ⟨target, typeHint, value⟩)

def annotatedAssignmentAt (tokens : List Token) : Checked (Option AnnotatedAssignment) :=
  match tokens[0]?.bind (·.name?) with
  | none => some none
  | some target =>
    if isKeyword target || !tokens[1]?.any (·.isSymbol .colon) then some none
    else do
      let rest ← slice? tokens 2 tokens.length
      whenFound (some (placeFrom? (·.isSymbol .assign) 0 0 rest)) (fieldAt target rest)

/-! ## The same headers and fields -/

section Headers

variable {tokens rest : List Token} {s : Symbol} {place : Nat}

theorem startsWith_drop (s : Symbol) (tokens : List Token) (place : Nat) :
    startsWith s (tokens.drop place) = tokens[place]?.any (·.isSymbol s) := by
  rw [startsWith, List.head?_drop]

theorem behindGroupAt_eq (hs : s.opens?.isSome = true)
    (hstarts : startsWith s (tokens.drop place) = true) :
    ∃ behind, behindGroupAt tokens place = some behind ∧
      afterGroup? (tokens.drop place) = behind.map tokens.drop := by
  cases hrest : tokens.drop place with
  | nil =>
      rw [hrest] at hstarts
      cases hstarts
  | cons t ts =>
      rw [hrest] at hstarts
      have hkind : t.kind = .symbol s := of_decide_eq_true hstarts
      have hopens : t.opens = true := by
        rw [Token.opens, Token.opens?, hkind]
        exact hs
      obtain ⟨close, hclose, hcut⟩ := closingAt_eq hrest hopens
      refine ⟨close.map (· + 1), ?_, ?_⟩
      · rw [behindGroupAt, hclose]
        rfl
      · rw [afterGroup?, if_pos hopens, hcut.cut_eq, Option.map_map, Option.map_map]
        rfl

/-- The colon stands where the groups of the header have been left behind. -/
theorem headerColonAt_eq (tokens : List Token) :
    ∃ colon, headerColonAt tokens = some colon ∧
      behindGroups? (tokens.drop 2) = colon.map tokens.drop := by
  have hcondition : (tokens[2]?.any fun t => t.isSymbol .openParen || t.isSymbol .openSquare) =
      (startsWith .openParen (tokens.drop 2) || startsWith .openSquare (tokens.drop 2)) := by
    rw [startsWith_drop, startsWith_drop]
    cases tokens[2]? <;> rfl
  rw [headerColonAt, behindGroups?, hcondition]
  split
  · next hopen =>
    obtain ⟨behind, hbehind, hafter⟩ : ∃ behind, behindGroupAt tokens 2 = some behind ∧
        afterGroup? (tokens.drop 2) = behind.map tokens.drop := by
      rcases Bool.or_eq_true_iff.mp hopen with hstarts | hstarts
      · exact behindGroupAt_eq rfl hstarts
      · exact behindGroupAt_eq rfl hstarts
    rw [hbehind, hafter]
    cases behind with
    | none => exact ⟨none, rfl, rfl⟩
    | some place =>
        have hstarts := startsWith_drop .openParen tokens place
        cases hbases : startsWith .openParen (tokens.drop place) with
        | false =>
            rw [hbases] at hstarts
            exact ⟨some place, by simp [whenFound, ← hstarts], by simp [hbases]⟩
        | true =>
            rw [hbases] at hstarts
            obtain ⟨last, hlast, hend⟩ := behindGroupAt_eq rfl hbases
            exact ⟨last, by simp [whenFound, ← hstarts, hlast], by simp [hbases, hend]⟩
  · exact ⟨some 2, rfl, rfl⟩

/-- What stands behind the colon is cut out behind its place. -/
theorem inlineBodyAt_eq (word : String) (colon : Nat) :
    inlineBodyAt tokens word colon = some (match tokens.drop colon with
      | ⟨.symbol .colon, _⟩ :: inlineBody => some ⟨word, inlineBody⟩
      | _ => none) := by
  rw [inlineBodyAt, ← List.head?_drop]
  cases hrest : tokens.drop colon with
  | nil => rfl
  | cons t ts =>
      obtain ⟨kind, l⟩ := t
      by_cases hkind : kind = .symbol .colon
      · subst hkind
        have hslice : slice? tokens (colon + 1) tokens.length = some ts :=
          slice?_to_end (drop_succ_of_drop hrest) (lt_length_of_drop hrest)
        rw [hslice]
        rfl
      · have hplain : Token.isSymbol ⟨kind, l⟩ .colon = false := decide_eq_false hkind
        split
        · next hsymbol => simp [hplain] at hsymbol
        · split
          · next heq =>
            cases heq
            exact absurd rfl hkind
          · rfl

/-- Without the word `class` and a name there is no header. -/
theorem classHeaderAt_of_not (h : ¬ ∃ m n word rest,
    tokens = ⟨.name "class", m⟩ :: ⟨.name word, n⟩ :: rest) : classHeaderAt tokens = some none := by
  match tokens, h with
  | [], _ => rfl
  | [t], _ =>
      rw [classHeaderAt]
      split <;> rfl
  | ⟨kind, m⟩ :: ⟨kind', n⟩ :: rest, h =>
      rw [classHeaderAt]
      split
      · rfl
      · next hclass =>
        have hfirst : kind = .name "class" := by simpa [Token.isName] using hclass
        cases kind' with
        | name word => exact absurd ⟨m, n, word, rest, by rw [hfirst]⟩ h
        | _ => rfl

/-- The header of a class is read by places without a failure. -/
theorem classHeaderAt_eq (tokens : List Token) :
    classHeaderAt tokens = some (classHeader? tokens) := by
  by_cases h : ∃ m n word rest, tokens = ⟨.name "class", m⟩ :: ⟨.name word, n⟩ :: rest
  · obtain ⟨m, n, word, rest, rfl⟩ := h
    obtain ⟨colon, hcolon, hgroups⟩ :=
      headerColonAt_eq (⟨.name "class", m⟩ :: ⟨.name word, n⟩ :: rest)
    rw [show (⟨.name "class", m⟩ :: ⟨.name word, n⟩ :: rest : List Token).drop 2 = rest from rfl]
      at hgroups
    have hread : classHeaderAt (⟨.name "class", m⟩ :: ⟨.name word, n⟩ :: rest) =
        whenFound (headerColonAt (⟨.name "class", m⟩ :: ⟨.name word, n⟩ :: rest))
          (inlineBodyAt (⟨.name "class", m⟩ :: ⟨.name word, n⟩ :: rest) word) := rfl
    rw [hread, hcolon, classHeader?_eq, hgroups]
    cases colon with
    | none => rfl
    | some place => exact inlineBodyAt_eq word place
  · have hnone : classHeader? tokens = none := by
      unfold classHeader?
      split
      · exact absurd ⟨_, _, _, _, rfl⟩ h
      · rfl
    rw [classHeaderAt_of_not h, hnone]

theorem placeFrom?_eq (separator : Symbol) (depth : Nat) (hrest : tokens.drop place = rest) :
    CutsAt tokens rest place (cutFrom? separator depth rest)
      (placeFrom? (·.isSymbol separator) depth place rest) := by
  induction rest generalizing depth place with
  | nil => exact .nowhere []
  | cons t rest ih =>
      have hnext : tokens.drop (place + 1) = rest := drop_succ_of_drop hrest
      rw [cutFrom?, placeFrom?]
      split
      · exact (ih (depth + 1) hnext).later t
      split
      · exact (ih (depth - 1) hnext).later t
      split
      · exact .here hrest
      · exact (ih depth hnext).later t

theorem fieldAt_eq {sign : Nat} (h : sign < rest.length) (target : String) :
    fieldAt target rest sign =
      some (some ⟨target, .ofTokens (rest.take sign), .ofTokens (rest.drop (sign + 1))⟩) := by
  have hhint : slice? rest 0 sign = some (rest.take sign) :=
    slice?_of_le (Nat.zero_le sign) (Nat.le_of_lt h)
  have hvalue : slice? rest (sign + 1) rest.length = some (rest.drop (sign + 1)) :=
    slice?_to_end rfl h
  simp [fieldAt, hhint, hvalue, ofTokensAt_eq]

/-- Without a name and a colon there is no field. -/
theorem annotatedAssignmentAt_of_not (h : ¬ ∃ target m n rest,
    tokens = ⟨.name target, m⟩ :: ⟨.symbol .colon, n⟩ :: rest) :
    annotatedAssignmentAt tokens = some none := by
  rw [annotatedAssignmentAt]
  match tokens, h with
  | [], _ => rfl
  | [⟨kind, m⟩], _ => cases kind <;> simp [Token.name?]
  | ⟨kind, m⟩ :: ⟨kind', n⟩ :: rest, h =>
      cases kind with
      | name target =>
          have hcolon : kind' ≠ .symbol .colon := fun hkind => h ⟨target, m, n, rest, by rw [hkind]⟩
          simp [Token.name?, Token.isSymbol, hcolon]
      | _ => rfl

/-- A field is read by places without a failure. -/
theorem annotatedAssignmentAt_eq (tokens : List Token) :
    annotatedAssignmentAt tokens = some (annotatedAssignment? tokens) := by
  by_cases h : ∃ target m n rest, tokens = ⟨.name target, m⟩ :: ⟨.symbol .colon, n⟩ :: rest
  · obtain ⟨target, m, n, rest, rfl⟩ := h
    have hslice : slice? (⟨.name target, m⟩ :: ⟨.symbol .colon, n⟩ :: rest) 2
        (rest.length + 1 + 1) = some rest := slice?_to_end rfl (by simp)
    have hread : annotatedAssignmentAt (⟨.name target, m⟩ :: ⟨.symbol .colon, n⟩ :: rest) =
        if isKeyword target then some none
        else whenFound (some (placeFrom? (·.isSymbol .assign) 0 0 rest)) (fieldAt target rest) := by
      simp [annotatedAssignmentAt, Token.name?, Token.isSymbol, hslice]
    have hcut : CutsAt rest rest 0 (cutFrom? .assign 0 rest)
        (placeFrom? (·.isSymbol .assign) 0 0 rest) := placeFrom?_eq .assign 0 rfl
    rw [hread, annotatedAssignment?, cutTopLevel?, hcut.cut_eq]
    split
    · rfl
    cases hsign : placeFrom? (·.isSymbol .assign) 0 0 rest with
    | none => rfl
    | some sign =>
        exact fieldAt_eq (hcut.within sign hsign).2 target
  · have hnone : annotatedAssignment? tokens = none := by
      unfold annotatedAssignment?
      split
      · exact absurd ⟨_, _, _, _, rfl⟩ h
      · rfl
    rw [annotatedAssignmentAt_of_not h, hnone]

end Headers

end DeclaredSchema.Source.ByPlace
