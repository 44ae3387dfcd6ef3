import DeclaredSchema.Proofs.Source.Lexing
import Mathlib.Logic.Relation

/-! # What the lexer does to its tokens

However a text is written, the lexer does one of a few things with the tokens it has read, the open
blocks and the open brackets. `Move` lists them. Every step is made of such moves (`moves_of_step`),
and so is the end of a text (`moves_of_finish`).
-/

namespace DeclaredSchema.Source

def Token.isString (t : Token) : Bool :=
  match t.kind with
  | .str _ _ => true
  | _ => false

namespace Lexer

/-- Tokens that stand for themselves: no layout, no bracket and no string literal. -/
def isOrdinary : Token.Kind → Bool
  | .name _ | .number _ => true
  | .symbol s => s.opens?.isNone && s.closes?.isNone
  | _ => false

/-- One change of the tokens that have been read, of the open blocks or of the open brackets. -/
inductive Move (s t : Lexer) : Prop where
  /-- A blank, a comment or the end of a line that counts for nothing. -/
  | skip (done : t.done = s.done) (indents : t.indents = s.indents)
      (brackets : t.brackets = s.brackets)
      (start : t.lineStart = true → s.lineStart = true ∨ s.brackets = [] ∧ s.lineIsEmpty = true)
  | token (kind : Token.Kind) (line : Nat) (ordinary : isOrdinary kind = true)
      (done : t.done = ⟨kind, line⟩ :: s.done) (indents : t.indents = s.indents)
      (brackets : t.brackets = s.brackets) (start : t.lineStart = false)
  | literal (value : List Char) (plain : Bool) (line : Nat)
      (done : t.done = pushString s.done value plain line) (indents : t.indents = s.indents)
      (brackets : t.brackets = s.brackets) (start : t.lineStart = false)
  | opens (symbol : Symbol) (b : Bracket) (line : Nat) (opening : symbol.opens? = some b)
      (done : t.done = ⟨.symbol symbol, line⟩ :: s.done) (indents : t.indents = s.indents)
      (brackets : t.brackets = (b, line) :: s.brackets) (start : t.lineStart = false)
  | closes (symbol : Symbol) (b : Bracket) (line opened : Nat) (closing : symbol.closes? = some b)
      (plain : symbol.opens? = none) (done : t.done = ⟨.symbol symbol, line⟩ :: s.done)
      (indents : t.indents = s.indents) (brackets : s.brackets = (b, opened) :: t.brackets)
      (start : t.lineStart = false)
  | newline (line : Nat) (outside : s.brackets = []) (begun : s.lineIsEmpty = false)
      (done : t.done = ⟨.newline, line⟩ :: s.done) (indents : t.indents = s.indents)
      (brackets : t.brackets = [])
  | indent (width line : Nat) (outside : s.brackets = []) (empty : s.lineIsEmpty = true)
      (done : t.done = ⟨.indent, line⟩ :: s.done) (indents : t.indents = width :: s.indents)
      (brackets : t.brackets = []) (start : t.lineStart = false)
  | dedent (width line : Nat) (outside : s.brackets = []) (empty : s.lineIsEmpty = true)
      (done : t.done = ⟨.dedent, line⟩ :: s.done) (indents : s.indents = width :: t.indents)
      (brackets : t.brackets = []) (start : t.lineStart = false)

/-- Any number of moves. -/
abbrev Moves : Lexer → Lexer → Prop := Relation.ReflTransGen Move

variable {s t : Lexer}

/-! ## One token -/

/-- A literal is a token of its own, if none stands before it, or takes the place of that one. -/
theorem pushString_cases (done : List Token) (value : List Char) (plain : Bool) (line : Nat) :
    (pushString done value plain line = ⟨.str (String.ofList value) plain, line⟩ :: done ∧
        ∀ u ∈ done.head?, u.isString = false) ∨
      ∃ before p first rest value' q, done = ⟨.str before p, first⟩ :: rest ∧
        pushString done value plain line = ⟨.str value' q, first⟩ :: rest := by
  unfold pushString
  split
  · exact .inr ⟨_, _, _, _, _, _, rfl, rfl⟩
  · next hnone =>
      refine .inl ⟨rfl, ?_⟩
      rintro ⟨kind, first⟩ hu
      cases kind with
      | str before p =>
          obtain ⟨rest, rfl⟩ := List.head?_eq_some_iff.mp hu
          exact absurd rfl (hnone before p first rest)
      | _ => rfl


section Reading

variable (begun : s.lineStart = false)
include begun

omit begun in
/-- Nothing but the place in the text changes. -/
theorem Move.onward (rest : List Char) (line : Nat) : Move s { s with rest, line } :=
  .skip rfl rfl rfl fun h => .inl h

theorem move_readString {how : StringPrefix} {quote : Char} {cs : List Char}
    (h : s.readString how quote cs = .ok t) : Move s t := by
  rw [readString_eq] at h
  split at h
  · cases h
  · next b _ =>
      cases h
      exact .literal b.value _ s.line rfl rfl rfl begun

theorem move_readWord {cs : List Char} (h : s.readWord cs = .ok t) : Move s t := by
  have hplain : Move s { s.push (.name (String.ofList (cs.takeWhile isWordPart))) s.line with
      rest := cs.dropWhile isWordPart } := .token _ s.line rfl rfl rfl rfl begun
  unfold readWord at h
  dsimp only at h
  split at h
  · split at h
    · exact move_readString begun h
    · cases h
      exact hplain
  · cases h
    exact hplain

theorem move_readSymbol {c : Char} {cs : List Char} (h : s.readSymbol c cs = .ok t) :
    Move s t := by
  unfold readSymbol at h
  split at h
  · cases h
  next symbol _ =>
  dsimp only at h
  split at h
  · next b hopens =>
      cases h
      exact .opens symbol b s.line hopens rfl rfl rfl begun
  · next b hopens hcloses =>
      split at h
      · cases h
      · next opened n outer hbrackets =>
          split at h
          · next heq =>
              cases h
              exact .closes symbol b s.line n hcloses hopens rfl rfl (heq ▸ hbrackets) begun
          · cases h
  · next hopens hcloses =>
      cases h
      exact .token _ s.line (by simp [isOrdinary, hopens, hcloses]) rfl rfl rfl begun

omit begun in
theorem move_endLine (rest : List Char) : Move s (s.endLine rest) := by
  unfold endLine
  by_cases hbrackets : s.brackets = []
  · by_cases hempty : s.lineIsEmpty = true
    · exact .skip (by simp [hempty]) (by simp [hempty]) (by simp [hempty]) fun _ =>
        .inr ⟨hbrackets, hempty⟩
    · rw [Bool.not_eq_true] at hempty
      refine .newline s.line hbrackets hempty ?_ ?_ ?_ <;> simp [hbrackets, hempty, push]
  · refine .skip ?_ ?_ ?_ fun hstart => ?_
    all_goals simp_all [List.isEmpty_iff]

theorem move_readOne {c : Char} {cs : List Char} (h : s.readOne c cs = .ok t) : Move s t := by
  unfold readOne at h
  split at h
  · cases h
    exact .onward _ _
  split at h
  · cases h
    exact .onward _ _
  split at h
  · cases h
    exact move_endLine _
  split at h
  · cases h
    exact .token _ s.line rfl rfl rfl rfl begun
  split at h
  · exact move_readWord begun h
  split at h
  · exact move_readString begun h
  split at h
  · cases h
    exact .onward _ _
  · exact move_readSymbol begun h

end Reading

/-! ## The beginning of a line -/

theorem lineIsEmpty_of_layout {token : Token} {rest : List Token} (hdone : s.done = token :: rest)
    (h : token.isLayout = true) : s.lineIsEmpty = true := by
  rw [lineIsEmpty, hdone]
  exact h

/-- By induction on the open blocks: each that is closed is a move of its own. -/
theorem moves_closeBlocks {line width : Nat} {indents : List Nat} {done : List Token}
    (outside : s.brackets = []) (empty : s.lineIsEmpty = true) (begun : s.lineStart = false)
    (hindents : s.indents = indents) (hdone : s.done = done) :
    Moves s { s with
      indents := (closeBlocks line width indents done).1
      done := (closeBlocks line width indents done).2 } := by
  induction indents generalizing s done with
  | nil =>
      exact .single (.skip hdone.symm hindents.symm rfl fun h => .inl h)
  | cons w ws ih =>
      unfold closeBlocks
      split
      · let closed : Lexer := { s with indents := ws, done := ⟨.dedent, line⟩ :: done }
        have hclosed : Move s closed :=
          .dedent w line outside empty (hdone ▸ rfl) hindents outside begun
        exact .head hclosed (ih (s := closed) outside rfl begun rfl rfl)
      · exact .single (.skip hdone.symm hindents.symm rfl fun h => .inl h)

theorem moves_shiftBlocks {width : Nat} (outside : s.brackets = []) (empty : s.lineIsEmpty = true)
    (begun : s.lineStart = false) (h : s.shiftBlocks width = .ok t) :
    Moves s t ∧ t.lineStart = false := by
  unfold shiftBlocks at h
  dsimp only at h
  split at h
  · cases h
    exact ⟨.single (.indent width s.line outside empty rfl rfl outside begun), begun⟩
  split at h
  · split at h
    · cases h
      exact ⟨moves_closeBlocks outside empty begun rfl rfl, begun⟩
    · cases h
  · cases h
    exact ⟨.refl, begun⟩

/-- Where a line begins no bracket is open, and nothing of it has been read. -/
def AtRest (s : Lexer) : Prop :=
  s.lineStart = true → s.brackets = [] ∧ s.lineIsEmpty = true

theorem moves_readLineStart (outside : s.brackets = []) (empty : s.lineIsEmpty = true)
    (h : s.readLineStart = .ok t) : Moves s t := by
  have hskip (rest : List Char) (n : Nat) (start : Bool) :
      Move s { s with rest, line := n, lineStart := start } :=
    .skip rfl rfl rfl fun _ => .inr ⟨outside, empty⟩
  unfold readLineStart at h
  dsimp only at h
  split at h
  · cases h
    exact .single (hskip _ _ _)
  · cases h
    exact .single (hskip _ _ _)
  · cases h
    exact .single (hskip _ _ _)
  · cases h
    exact .single (hskip _ _ _)
  · split at h
    · cases h
    · next u hshift =>
        obtain ⟨hmoves, hbegun⟩ := moves_shiftBlocks (s := { s with lineStart := false, rest := _ }) outside empty rfl hshift
        exact .head (hskip _ s.line false) (hmoves.tail (move_readOne hbegun h))

theorem moves_of_step (hs : s.AtRest) (h : s.step = .ok t) : Moves s t := by
  unfold step at h
  split at h
  · next hstart =>
      simp only [Bool.and_eq_true] at hstart
      obtain ⟨houtside, hempty⟩ := hs hstart.1
      exact moves_readLineStart houtside hempty h
  · next hstart =>
      have hbegun : s.lineStart = false := by
        rw [Bool.eq_false_iff]
        intro hs'
        exact hstart (by rw [hs', (hs hs').1]; rfl)
      split at h
      · cases h
        exact .refl
      · exact .single (move_readOne hbegun h)

/-! ## Whole texts -/

theorem Move.atRest (h : Move s t) (hs : s.AtRest) : t.AtRest := by
  intro hstart
  cases h with
  | skip done _ brackets start =>
      have hempty : t.lineIsEmpty = s.lineIsEmpty := by rw [lineIsEmpty, lineIsEmpty, done]
      rw [brackets, hempty]
      exact (start hstart).elim hs id
  | newline line _ _ done _ brackets => exact ⟨brackets, lineIsEmpty_of_layout done rfl⟩
  | token _ _ _ _ _ _ start | literal _ _ _ _ _ _ start | opens _ _ _ _ _ _ _ start
  | closes _ _ _ _ _ _ _ _ _ start | indent _ _ _ _ _ _ _ start | dedent _ _ _ _ _ _ _ start =>
      rw [start] at hstart
      cases hstart

theorem Moves.atRest (h : Moves s t) (hs : s.AtRest) : t.AtRest := by
  induction h with
  | refl => exact hs
  | tail _ hmove ih => exact hmove.atRest ih

theorem moves_of_run (hs : s.AtRest) (h : s.run = .ok t) : Moves s t := by
  fun_induction run s with
  | case1 s _ =>
      cases h
      exact .refl
  | case2 s _ e _ => cases h
  | case3 s _ u hstep ih =>
      have hmoves := moves_of_step hs hstep
      exact hmoves.trans (ih (hmoves.atRest hs) h)

theorem atRest_start (cs : List Char) : (start cs).AtRest := fun _ => ⟨rfl, rfl⟩

/-- All blocks are closed behind the last line. -/
theorem moves_closeAll (outside : s.brackets = []) (empty : s.lineIsEmpty = true)
    (line : Nat) : ∃ t, Moves s t ∧ t.brackets = [] ∧ t.indents = [] ∧ t.lineIsEmpty = true ∧
      t.done = (s.indents.map fun _ => (⟨.dedent, line⟩ : Token)) ++ s.done := by
  generalize hindents : s.indents = indents
  induction indents generalizing s with
  | nil => exact ⟨s, .refl, outside, hindents, empty, rfl⟩
  | cons w ws ih =>
      let closed : Lexer :=
        { s with indents := ws, done := ⟨.dedent, line⟩ :: s.done, lineStart := false }
      have hclosed : Move s closed := .dedent w line outside empty rfl hindents outside rfl
      obtain ⟨t, hmoves, hbrackets, hdone, hempty, htokens⟩ :=
        ih (s := closed) outside rfl rfl
      refine ⟨t, .head hclosed hmoves, hbrackets, hdone, hempty, ?_⟩
      rw [htokens, List.map_const', List.map_const', List.length_cons, List.replicate_succ',
        List.append_assoc]
      rfl

/-- The tokens of a text are what moves have made of none, with everything closed, and the mark of
the end behind them. -/
theorem moves_of_tokenize {text : String} {ts : List Token} (h : tokenize text = .ok ts) :
    ∃ t last, Moves (start text.toList) t ∧ t.brackets = [] ∧ t.indents = [] ∧
      t.lineIsEmpty = true ∧ ts = t.done.reverse ++ [⟨.endMarker, last⟩] := by
  unfold tokenize at h
  cases hrun : (start text.toList).run with
  | error e =>
      rw [hrun] at h
      cases h
  | ok s =>
      rw [hrun] at h
      change s.finish = .ok ts at h
      have hmoves := moves_of_run (atRest_start _) hrun
      unfold finish at h
      split at h
      · cases h
      next houtside =>
      -- The end of the last line is the only move that its tokens may still lack.
      obtain ⟨u, hended, hu, hempty, hindents, hdone⟩ : ∃ u, Moves s u ∧ u.brackets = [] ∧
          u.lineIsEmpty = true ∧ u.indents = s.indents ∧
          u.done = (if s.lineIsEmpty then s else s.push .newline s.line).done := by
        cases hempty : s.lineIsEmpty with
        | true => exact ⟨s, .refl, houtside, hempty, rfl, rfl⟩
        | false =>
            exact ⟨s.push .newline s.line,
              Relation.ReflTransGen.single (.newline s.line houtside hempty rfl rfl houtside), houtside, rfl, rfl, rfl⟩
      obtain ⟨t, hclosed, hbrackets, hblocks, hlast, htokens⟩ := moves_closeAll hu hempty s.line
      refine ⟨t, s.line, (hmoves.trans hended).trans hclosed, hbrackets, hblocks, hlast, ?_⟩
      cases h
      rw [htokens, hindents, hdone, List.reverse_append, List.map_const', List.reverse_replicate]

end Lexer

end DeclaredSchema.Source
