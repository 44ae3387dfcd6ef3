import DeclaredSchema.Proofs.Source.Lexing

/-! # String literals take up room

Nothing that the lexer reads is longer than what it is read from. A literal takes at least the
characters of its value and two quotes of the text, so all literals of a text together fit into it
(`stringSizes_tokenize`), and what is read from a value in turn has shorter values in it.
-/

namespace DeclaredSchema.Source

/-- The characters of a literal's value and its two quotes. -/
def Token.stringSize (t : Token) : Nat :=
  match t.kind with
  | .str value _ => value.length + 2
  | _ => 0

def stringSizes : List Token → Nat
  | [] => 0
  | t :: ts => t.stringSize + stringSizes ts

@[simp] theorem stringSizes_nil : stringSizes [] = 0 := rfl

@[simp] theorem stringSizes_cons (t : Token) (ts : List Token) :
    stringSizes (t :: ts) = t.stringSize + stringSizes ts := rfl

theorem stringSizes_append (ts us : List Token) :
    stringSizes (ts ++ us) = stringSizes ts + stringSizes us := by
  induction ts with
  | nil => exact (Nat.zero_add _).symm
  | cons t ts ih => rw [List.cons_append, stringSizes_cons, ih, stringSizes_cons, Nat.add_assoc]

theorem stringSizes_reverse (ts : List Token) : stringSizes ts.reverse = stringSizes ts := by
  induction ts with
  | nil => rfl
  | cons t ts ih =>
      rw [List.reverse_cons, stringSizes_append, ih, stringSizes_cons, stringSizes_cons,
        stringSizes_nil, Nat.add_zero, Nat.add_comm]

theorem stringSize_le_of_mem {ts : List Token} {t : Token} (h : t ∈ ts) :
    t.stringSize ≤ stringSizes ts := by
  induction ts with
  | nil => cases h
  | cons u ts ih =>
      rw [stringSizes_cons]
      rcases List.mem_cons.mp h with rfl | h
      · exact Nat.le_add_right _ _
      · exact Nat.le_trans (ih h) (Nat.le_add_left _ _)

namespace Lexer

/-! ## One literal -/

theorem length_hexEscape_le (mark : Char) (count : Nat) (cs : List Char) :
    (hexEscape mark count cs).1.length + (hexEscape mark count cs).2.length ≤ cs.length + 2 := by
  unfold hexEscape
  split
  · simp only [List.length_singleton, List.length_drop]
    omega
  · simp only [List.length_cons, List.length_nil]
    omega

/-- An escape stands for no more characters than it has. -/
theorem length_image_le (raw : Bool) (next : Char) (cs : List Char) :
    (escapeOrRaw raw next cs).1.length + (escapeOrRaw raw next cs).2.length ≤ cs.length + 2 := by
  obtain ⟨image, himage, hread⟩ | ⟨count, -, hread⟩ := escapeOrRaw_cases raw next
  · rewrite [hread, Nat.add_comm]
    exact Nat.add_le_add_left himage _
  · rewrite [hread]
    exact length_hexEscape_le next count cs

/-- A body is no longer than what stands in front of its last closing quote. -/
theorem length_value_lt {quote : Char} {triple raw : Bool} {cs : List Char} {b : StringBody}
    (h : stringBody? quote triple raw cs = some b) :
    b.value.length + b.rest.length < cs.length := by
  fun_induction stringBody? quote triple raw cs generalizing b with
  | case1 cs rest hclosing =>
      cases h
      simpa using length_closing?_lt hclosing
  | case2 => cases h
  | case3 => cases h
  | case4 next more _ ih =>
      obtain ⟨inner, hinner, rfl⟩ := Option.map_eq_some_iff.mp h
      have hbehind := ih hinner
      have himage := length_image_le raw next more
      simp only [StringBody.after, List.length_append, List.length_cons]
      omega
  | case5 => cases h
  | case6 =>
      rename_i ih
      obtain ⟨inner, hinner, rfl⟩ := Option.map_eq_some_iff.mp h
      have hbehind := ih hinner
      simp only [StringBody.after, List.length_append, List.length_cons, List.length_nil]
      omega

theorem stringSizes_pushString_le (done : List Token) (value : List Char) (plain : Bool)
    (line : Nat) :
    stringSizes (pushString done value plain line) ≤ stringSizes done + (value.length + 2) := by
  unfold pushString
  split
  · simp only [stringSizes_cons, Token.stringSize, String.length_append, String.length_ofList]
    omega
  · simp only [stringSizes_cons, Token.stringSize, String.length_ofList]
    omega

/-! ## One step -/

/-- The room that the literals so far and the rest of the text take up. -/
def room (s : Lexer) : Nat := stringSizes s.done + s.rest.length

variable {s t : Lexer} {c : Char} {cs : List Char}

theorem room_readString_le {how : StringPrefix} {quote : Char}
    (h : s.readString how quote cs = .ok t) : t.room ≤ stringSizes s.done + (cs.length + 1) := by
  rw [readString_eq] at h
  split at h
  · cases h
  · next b hbody =>
      cases h
      have hvalue := length_value_lt hbody
      have hdone := stringSizes_pushString_le s.done b.value (!how.formatted && !how.bytes) s.line
      have hbehind : (bodyBehind quote cs).length ≤ cs.length := by
        rw [bodyBehind]
        split
        · rw [List.length_drop]
          omega
        · exact Nat.le_refl _
      rw [room]
      dsimp only
      omega

theorem room_readSymbol_le (h : s.readSymbol c cs = .ok t) :
    t.room ≤ stringSizes s.done + (cs.length + 1) := by
  have hrest := length_readSymbol_lt h
  have hdone : stringSizes t.done = stringSizes s.done := by
    unfold readSymbol fail at h
    split at h
    · cases h
    dsimp only at h
    split at h
    · cases h
      exact Nat.zero_add _
    · split at h
      · cases h
      · split at h
        · cases h
          exact Nat.zero_add _
        · cases h
    · cases h
      exact Nat.zero_add _
  rw [List.length_cons] at hrest
  rw [room]
  omega

theorem room_readWord_le (hc : isWordStart c = true) (h : s.readWord (c :: cs) = .ok t) :
    t.room ≤ stringSizes s.done + (cs.length + 1) := by
  have hrest := length_readWord_lt hc h
  have hplain (hdone : stringSizes t.done = stringSizes s.done) :
      t.room ≤ stringSizes s.done + (cs.length + 1) := by
    rw [List.length_cons] at hrest
    rw [room]
    omega
  unfold readWord at h
  dsimp only at h
  split at h
  · next how quote more _ hbehind =>
      split at h
      · have hmore : more.length < (c :: cs).length := by
          have hsuffix := (List.dropWhile_suffix (l := c :: cs) isWordPart).length_le
          rw [hbehind, List.length_cons] at hsuffix
          exact hsuffix
        refine Nat.le_trans (room_readString_le h) ?_
        rw [List.length_cons] at hmore
        omega
      · cases h
        exact hplain (Nat.zero_add _)
  · cases h
    exact hplain (Nat.zero_add _)

theorem room_readOne_le (h : s.readOne c cs = .ok t) :
    t.room ≤ stringSizes s.done + (cs.length + 1) := by
  have hrest := length_readOne_lt h
  rw [List.length_cons] at hrest
  have hroom (hdone : stringSizes t.done = stringSizes s.done) :
      t.room ≤ stringSizes s.done + (cs.length + 1) := by
    rw [room]
    omega
  unfold readOne at h
  split at h
  · cases h
    exact hroom rfl
  split at h
  · cases h
    exact hroom rfl
  split at h
  · cases h
    refine hroom ?_
    unfold endLine
    split
    · exact Nat.zero_add _
    · rfl
  split at h
  · cases h
    exact hroom (Nat.zero_add _)
  split at h
  · next hword => exact room_readWord_le hword h
  split at h
  · exact room_readString_le h
  split at h
  · cases h
    exact hroom rfl
  · exact room_readSymbol_le h

theorem stringSizes_closeBlocks (line width : Nat) (indents : List Nat) (done : List Token) :
    stringSizes (closeBlocks line width indents done).2 = stringSizes done := by
  induction indents generalizing done with
  | nil => rfl
  | cons w ws ih =>
      rw [closeBlocks]
      split
      · exact (ih _).trans (Nat.zero_add _)
      · rfl

theorem stringSizes_shiftBlocks {width : Nat} (h : s.shiftBlocks width = .ok t) :
    stringSizes t.done = stringSizes s.done := by
  unfold shiftBlocks fail at h
  dsimp only at h
  split at h
  · cases h
    exact Nat.zero_add _
  split at h
  · split at h
    · cases h
      exact stringSizes_closeBlocks _ _ _ _
    · cases h
  · cases h
    rfl

theorem room_readLineStart_le (h : s.readLineStart = .ok t) : t.room ≤ s.room := by
  have hblanks := length_indentation_le 0 s.rest
  have hroom (hdone : stringSizes t.done = stringSizes s.done)
      (hrest : t.rest.length ≤ s.rest.length) : t.room ≤ s.room :=
    Nat.add_le_add (Nat.le_of_eq hdone) hrest
  unfold readLineStart at h
  dsimp only at h
  split at h
  · next hrest =>
      cases h
      exact hroom rfl hblanks
  · next more hrest =>
      cases h
      rw [hrest, List.length_cons] at hblanks
      exact hroom rfl (Nat.le_trans (length_skipComment_le more) (Nat.le_of_succ_le hblanks))
  · next more hrest =>
      cases h
      rw [hrest, List.length_cons] at hblanks
      exact hroom rfl (Nat.le_of_succ_le hblanks)
  · next more hrest =>
      cases h
      rw [hrest, List.length_cons, List.length_cons] at hblanks
      exact hroom rfl (Nat.le_of_succ_le (Nat.le_of_succ_le hblanks))
  · next c more _ _ _ hrest =>
      rw [hrest, List.length_cons] at hblanks
      split at h
      · cases h
      · next u hshift =>
          refine Nat.le_trans (room_readOne_le h) ?_
          rw [stringSizes_shiftBlocks hshift]
          exact Nat.add_le_add_left hblanks _

/-- No step takes up more room. -/
theorem room_step_le (h : s.step = .ok t) : t.room ≤ s.room := by
  unfold step at h
  split at h
  · exact room_readLineStart_le h
  · split at h
    · cases h
      exact Nat.le_refl _
    · next c cs hrest =>
        rw [room.eq_1 s, hrest, List.length_cons]
        exact room_readOne_le h

/-! ## Whole texts -/

theorem room_run_le (h : s.run = .ok t) : t.room ≤ s.room := by
  fun_induction run s with
  | case1 s _ =>
      cases h
      exact Nat.le_refl _
  | case2 s _ e _ => cases h
  | case3 s _ u hstep ih => exact Nat.le_trans (ih h) (room_step_le hstep)

end Lexer

open Lexer in
/-- All literals of a text fit into it, with two quotes for each. -/
theorem stringSizes_tokenize {text : String} {ts : List Token} (h : tokenize text = .ok ts) :
    stringSizes ts ≤ text.length := by
  unfold tokenize at h
  cases hrun : (start text.toList).run with
  | error e =>
      rw [hrun] at h
      cases h
  | ok s =>
      rw [hrun] at h
      change s.finish = .ok ts at h
      have hroom := room_run_le hrun
      have hstart : (start text.toList).room ≤ text.length := by
        rw [← String.length_toList]
        exact Nat.le_trans (Nat.le_of_eq (Nat.zero_add _)) (length_start_le text.toList)
      have hdone : stringSizes s.done ≤ text.length :=
        Nat.le_trans (Nat.le_add_right _ _) (Nat.le_trans hroom hstart)
      have hdedents : stringSizes (s.indents.map fun _ => (⟨.dedent, s.line⟩ : Token)) = 0 := by
        induction s.indents with
        | nil => rfl
        | cons _ _ ih => exact (Nat.zero_add _).trans ih
      unfold finish at h
      split at h
      · cases h
      · cases h
        rw [stringSizes_append, stringSizes_append, stringSizes_reverse, hdedents]
        split
        · exact hdone
        · simpa [push, Token.stringSize] using hdone

end DeclaredSchema.Source
