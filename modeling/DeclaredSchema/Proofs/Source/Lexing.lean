import DeclaredSchema.Source.Lexer

/-! # What the lexer does with a piece of text

Every lemma takes one piece off the front of a text and says what the rest of the run starts from. A
piece is read alone when what comes after it cannot continue it: a word or a number has to end, and
a symbol must not be the beginning of a longer one.
-/

namespace DeclaredSchema.Source

/-- A word of ASCII letters, digits and underscores that does not begin with a digit. -/
def isAsciiName (word : String) : Bool :=
  match word.toList with
  | [] => false
  | c :: cs => (c = '_' || Text.isAsciiLetter c) &&
      cs.all fun d => d = '_' || Text.isAsciiLetter d || Text.isAsciiDigit d

namespace Lexer

/-! ## Characters -/

theorem isAscii_of_isAsciiLetter {c : Char} (h : Text.isAsciiLetter c) : Text.isAscii c := by
  simp only [Text.isAsciiLetter, Text.isAscii, Bool.or_eq_true, Bool.and_eq_true,
    decide_eq_true_eq, Char.le_def, UInt32.le_iff_toNat_le] at *
  have : c.toNat = c.val.toNat := rfl
  rcases h with h | h <;> simp at h <;> omega

theorem isAscii_of_isAsciiDigit {c : Char} (h : Text.isAsciiDigit c) : Text.isAscii c := by
  simp only [Text.isAsciiDigit, Text.isAscii, Bool.and_eq_true,
    decide_eq_true_eq, Char.le_def, UInt32.le_iff_toNat_le] at *
  have : c.toNat = c.val.toNat := rfl
  simp at h
  omega

theorem isWordStart_of_isAsciiLetter {c : Char} (h : Text.isAsciiLetter c) : isWordStart c := by
  simp [isWordStart, Text.isAlphabetic, isAscii_of_isAsciiLetter h, h]

theorem isWordPart_of_isAsciiDigit {c : Char} (h : Text.isAsciiDigit c) : isWordPart c := by
  simp [isWordPart, Text.isAlphanumeric, isAscii_of_isAsciiDigit h, h]

/-- Each of them ends every word and every number. -/
def delimiters : List Char := [' ', ',', ':', '=', '(', ')', '[', ']', '\n']

def isDelimiter (c : Char) : Bool := delimiters.contains c

/-- A test that no delimiter passes. -/
theorem of_isDelimiter {p : Char → Bool} (hall : delimiters.all (!p ·) = true) {c : Char}
    (h : isDelimiter c) : p c = false :=
  (Bool.not_eq_true' _).mp (List.all_eq_true.mp hall c (List.contains_iff_mem.mp h))

theorem isWordPart_of_isDelimiter {c : Char} (h : isDelimiter c) : isWordPart c = false :=
  of_isDelimiter (by decide) h

theorem not_isQuote_of_isDelimiter {c : Char} (h : isDelimiter c) : isQuote c = false :=
  of_isDelimiter (by decide) h

/-- What comes next is nothing or a delimiter. -/
def Delimited (rest : List Char) : Prop := ∀ c, rest.head? = some c → isDelimiter c

theorem delimited_cons {c : Char} (h : isDelimiter c) (rest : List Char) :
    Delimited (c :: rest) := by
  intro d hd
  rwa [← Option.some.inj hd]

/-- What a test lets through ends where a text that it does not let through begins. -/
theorem span_delimited {p : Char → Bool} (hp : ∀ c, isDelimiter c → p c = false)
    {word rest : List Char} (hword : ∀ c ∈ word, p c = true) (hrest : Delimited rest) :
    (word ++ rest).takeWhile p = word ∧ (word ++ rest).dropWhile p = rest := by
  rw [List.takeWhile_append_of_pos hword, List.dropWhile_append_of_pos hword]
  cases rest with
  | nil => simp
  | cons c cs =>
      have hc : p c = false := hp c (hrest c rfl)
      simp [hc]

/-! ## Runs within a line -/

/-- A lexer that has begun a line. -/
def within (line : Nat) (done : List Token) (indents : List Nat) (brackets : List (Bracket × Nat))
    (rest : List Char) : Lexer :=
  { rest, line, done, indents, brackets, lineStart := false }

/-- A run is its first step and the run from there. -/
theorem run_eq {s : Lexer} (hs : s.rest ≠ []) : s.run =
    match s.step with
    | .error e => .error e
    | .ok t => t.run := by
  rw [run, dif_neg hs]
  split
  · next e he => rw [he]
  · next t ht => rw [ht]

theorem run_of_nil {s : Lexer} (hs : s.rest = []) : s.run = .ok s := by
  rw [run, dif_pos hs]

theorem run_of_step {s t : Lexer} (hs : s.rest ≠ []) (h : s.step = .ok t) : s.run = t.run := by
  rw [run_eq hs, h]

/-- At most so many steps, none once the text has ended. -/
def steps : Nat → Lexer → Except SyntaxError Lexer
  | 0, s => .ok s
  | n + 1, s => if s.rest = [] then .ok s else s.step.bind (steps n)

/-- A run takes no more steps than there are characters. -/
theorem run_eq_steps {n : Nat} {s : Lexer} (h : s.rest.length ≤ n) : s.run = steps n s := by
  induction n generalizing s with
  | zero => exact run_of_nil (List.eq_nil_of_length_eq_zero (Nat.le_zero.mp h))
  | succ n ih =>
      rw [steps]
      split
      · next hs => exact run_of_nil hs
      · next hs =>
          rw [run_eq hs]
          cases hstep : s.step with
          | error e => rfl
          | ok t => exact ih (Nat.le_of_lt_succ (Nat.lt_of_lt_of_le (length_step_lt hstep hs) h))

variable {line : Nat} {done : List Token} {indents : List Nat} {brackets : List (Bracket × Nat)}
  {rest : List Char}

theorem run_of_readOne {c : Char} {cs : List Char} {t : Lexer}
    (h : (within line done indents brackets (c :: cs)).readOne c cs = .ok t) :
    (within line done indents brackets (c :: cs)).run = t.run :=
  run_of_step (List.cons_ne_nil _ _) h

theorem run_blank (rest : List Char) : (within line done indents brackets (' ' :: rest)).run =
    (within line done indents brackets rest).run :=
  run_of_readOne rfl

/-! ### Words -/

theorem isWordStart_ne {c d : Char} (hc : isWordStart c) (hd : isWordStart d = false) : c ≠ d := by
  rintro rfl
  rw [hc] at hd
  cases hd

theorem startsNumber_of_isWordStart {c : Char} (hc : isWordStart c) (cs : List Char) :
    startsNumber c cs = false := by
  have hdigit : Text.isAsciiDigit c = false := by
    rw [Bool.eq_false_iff]
    intro hd
    have hne : c ≠ '_' := by
      rintro rfl
      exact absurd hd (by decide)
    have hletter : Text.isAsciiLetter c := by
      simpa [isWordStart, hne, Text.isAlphabetic, isAscii_of_isAsciiDigit hd] using hc
    simp only [Text.isAsciiLetter, Text.isAsciiDigit, Bool.or_eq_true, Bool.and_eq_true,
      decide_eq_true_eq, Char.le_def, UInt32.le_iff_toNat_le] at hd hletter
    simp at hd hletter
    omega
  have hpoint : c ≠ '.' := isWordStart_ne hc (by decide)
  simp [startsNumber, hdigit, hpoint]

theorem readOne_of_isWordStart {s : Lexer} {c : Char} (hc : isWordStart c) (cs : List Char) :
    s.readOne c cs = s.readWord (c :: cs) := by
  have hne (d : Char) (hd : isWordStart d = false) : c ≠ d := isWordStart_ne hc hd
  simp [readOne, startsNumber_of_isWordStart hc, hc, hne ' ' (by decide), hne '\t' (by decide),
    hne '\x0c' (by decide), hne '\r' (by decide), hne '#' (by decide), hne '\n' (by decide)]

/-- An ASCII name begins as a word does. -/
theorem exists_wordStart {word : String} (h : isAsciiName word) :
    ∃ c cs, word.toList = c :: cs ∧ isWordStart c := by
  unfold isAsciiName at h
  split at h
  · simp at h
  · next c cs hw =>
      refine ⟨c, cs, hw, ?_⟩
      simp only [Bool.and_eq_true, Bool.or_eq_true, decide_eq_true_eq] at h
      rcases h.1 with rfl | hc
      · decide
      · exact isWordStart_of_isAsciiLetter hc

theorem isWordPart_of_mem {word : String} (h : isAsciiName word) :
    ∀ c ∈ word.toList, isWordPart c = true := by
  unfold isAsciiName at h
  split at h
  · simp at h
  · next c cs hw =>
      simp only [Bool.and_eq_true, Bool.or_eq_true, decide_eq_true_eq, List.all_eq_true] at h
      have hletter (d : Char) (hd : Text.isAsciiLetter d) : isWordPart d = true :=
        isWordPart_of_isWordStart (isWordStart_of_isAsciiLetter hd)
      rw [hw]
      intro d hd
      rcases List.mem_cons.mp hd with rfl | hd
      · rcases h.1 with rfl | hd
        · decide
        · exact hletter d hd
      · rcases h.2 d hd with (rfl | hd) | hd
        · decide
        · exact hletter d hd
        · exact isWordPart_of_isAsciiDigit hd

/-- A name is read as a whole. -/
theorem run_name {word : String} (h : isAsciiName word) (hrest : Delimited rest) :
    (within line done indents brackets (word.toList ++ rest)).run =
      (within line (⟨.name word, line⟩ :: done) indents brackets rest).run := by
  obtain ⟨htake, hdrop⟩ :=
    span_delimited (fun _ => isWordPart_of_isDelimiter) (isWordPart_of_mem h) hrest
  obtain ⟨c, cs, hw, hc⟩ := exists_wordStart h
  rw [hw, List.cons_append] at htake hdrop ⊢
  apply run_of_readOne
  have hname : String.ofList (c :: cs) = word := by rw [← hw, String.ofList_toList]
  rw [readOne_of_isWordStart hc, readWord, htake, hdrop, hname]
  dsimp only
  split
  · rename_i quote more _
    rw [not_isQuote_of_isDelimiter (hrest quote rfl)]
    rfl
  · rfl

/-! ### Symbols -/

/-- The symbols that declarations are written with. Each is one character. -/
def plainSymbols : List Symbol :=
  [.openParen, .closeParen, .openSquare, .closeSquare, .comma, .colon, .assign, .minus]

/-- A bracket or a comma is no beginning of a longer symbol. -/
theorem atFront?_alone {symbol : Symbol}
    (hs : symbol ∈ [.openParen, .closeParen, .openSquare, .closeSquare, .comma]) {c : Char}
    (hc : symbol.chars = [c]) (rest : List Char) :
    Symbol.atFront? (c :: rest) = some symbol := by
  rw [← List.singleton_append, ← hc]
  simp only [List.mem_cons, List.not_mem_nil, or_false] at hs
  rcases hs with rfl | rfl | rfl | rfl | rfl <;>
    simp [Symbol.atFront?, Symbol.all, Symbol.chars, Symbol.text, List.isPrefixOf]

/-- A longer symbol goes on with one of two characters. -/
theorem atFront?_apart {symbol : Symbol} (hs : symbol ∈ [.colon, .assign, .minus]) {c d : Char}
    (hc : symbol.chars = [c]) (hassign : d ≠ '=') (hgreater : d ≠ '>') (rest : List Char) :
    Symbol.atFront? (c :: d :: rest) = some symbol := by
  have hassign : ('=' == d) = false := beq_false_of_ne (Ne.symm hassign)
  have hgreater : ('>' == d) = false := beq_false_of_ne (Ne.symm hgreater)
  rw [← List.singleton_append, ← hc]
  simp only [List.mem_cons, List.not_mem_nil, or_false] at hs
  rcases hs with rfl | rfl | rfl <;>
    simp [Symbol.atFront?, Symbol.all, Symbol.chars, Symbol.text, List.isPrefixOf, hassign,
      hgreater]

theorem readOne_plain {s : Lexer} {symbol : Symbol} (hs : symbol ∈ plainSymbols) {c : Char}
    (hc : symbol.chars = [c]) (cs : List Char) : s.readOne c cs = s.readSymbol c cs := by
  have hall : ∀ t ∈ plainSymbols,
      t.chars.all ['(', ')', '[', ']', ',', ':', '=', '-'].contains = true := by decide
  have hmem := List.all_eq_true.mp (hall symbol hs) c (by rw [hc]; exact List.mem_singleton_self c)
  simp only [List.contains_iff_mem, List.mem_cons, List.not_mem_nil, or_false] at hmem
  rcases hmem with rfl | rfl | rfl | rfl | rfl | rfl | rfl | rfl <;> rfl

/-- What a symbol does to the brackets. -/
theorem readSymbol_plain {s : Lexer} {symbol : Symbol} {c : Char} (hc : symbol.chars = [c])
    (hfront : Symbol.atFront? (c :: rest) = some symbol) :
    s.readSymbol c rest =
      match symbol.opens?, symbol.closes? with
      | some b, _ =>
        .ok { s.push (.symbol symbol) s.line with rest, brackets := (b, s.line) :: s.brackets }
      | none, some b => match s.brackets with
        | [] => s.fail (.unmatchedClose b)
        | (opened, _) :: outer =>
          if opened = b then .ok { s.push (.symbol symbol) s.line with rest, brackets := outer }
          else s.fail (.mismatchedClose b opened)
      | none, none => .ok { s.push (.symbol symbol) s.line with rest } := by
  rw [readSymbol, hfront]
  simp only [hc]
  rfl

/-- A symbol that is no bracket. -/
theorem run_symbol {symbol : Symbol} (hs : symbol ∈ [.colon, .assign, .minus, .comma]) {c : Char}
    (hc : symbol.chars = [c]) (hfront : Symbol.atFront? (c :: rest) = some symbol) :
    (within line done indents brackets (c :: rest)).run =
      (within line (⟨.symbol symbol, line⟩ :: done) indents brackets rest).run := by
  have hall : ∀ t ∈ [Symbol.colon, .assign, .minus, .comma],
      t ∈ plainSymbols ∧ t.opens? = none ∧ t.closes? = none := by decide
  obtain ⟨hplain, hopens, hcloses⟩ := hall symbol hs
  apply run_of_readOne
  rw [readOne_plain hplain hc, readSymbol_plain hc hfront, hopens, hcloses]
  rfl

theorem run_comma (rest : List Char) : (within line done indents brackets (',' :: rest)).run =
    (within line (⟨.symbol .comma, line⟩ :: done) indents brackets rest).run :=
  run_symbol (by decide) rfl (atFront?_alone (by decide) rfl rest)

/-- A colon, an assignment or a minus that nothing makes longer. -/
theorem run_apart {symbol : Symbol} (hs : symbol ∈ [.colon, .assign, .minus]) {c d : Char}
    (hc : symbol.chars = [c]) (hassign : d ≠ '=') (hgreater : d ≠ '>') (rest : List Char) :
    (within line done indents brackets (c :: d :: rest)).run =
      (within line (⟨.symbol symbol, line⟩ :: done) indents brackets (d :: rest)).run :=
  run_symbol (List.mem_append_left [.comma] hs) hc (atFront?_apart hs hc hassign hgreater rest)

theorem run_colon {d : Char} (hassign : d ≠ '=') (hgreater : d ≠ '>') (rest : List Char) :
    (within line done indents brackets (':' :: d :: rest)).run =
      (within line (⟨.symbol .colon, line⟩ :: done) indents brackets (d :: rest)).run :=
  run_apart (by decide) rfl hassign hgreater rest

theorem run_assign {d : Char} (hassign : d ≠ '=') (hgreater : d ≠ '>') (rest : List Char) :
    (within line done indents brackets ('=' :: d :: rest)).run =
      (within line (⟨.symbol .assign, line⟩ :: done) indents brackets (d :: rest)).run :=
  run_apart (by decide) rfl hassign hgreater rest

theorem run_minus {d : Char} (hassign : d ≠ '=') (hgreater : d ≠ '>') (rest : List Char) :
    (within line done indents brackets ('-' :: d :: rest)).run =
      (within line (⟨.symbol .minus, line⟩ :: done) indents brackets (d :: rest)).run :=
  run_apart (by decide) rfl hassign hgreater rest

theorem run_open {symbol : Symbol} (hs : symbol ∈ [.openParen, .openSquare]) {c : Char}
    (hc : symbol.chars = [c]) {b : Bracket} (hopens : symbol.opens? = some b) (rest : List Char) :
    (within line done indents brackets (c :: rest)).run =
      (within line (⟨.symbol symbol, line⟩ :: done) indents ((b, line) :: brackets) rest).run := by
  have hall : ∀ t ∈ [Symbol.openParen, .openSquare], t ∈ plainSymbols ∧
      t ∈ [Symbol.openParen, .closeParen, .openSquare, .closeSquare, .comma] := by decide
  obtain ⟨hplain, halone⟩ := hall symbol hs
  apply run_of_readOne
  rw [readOne_plain hplain hc, readSymbol_plain hc (atFront?_alone halone hc rest), hopens]
  rfl

/-- The innermost bracket is closed. -/
theorem run_close {symbol : Symbol} (hs : symbol ∈ [.closeParen, .closeSquare]) {c : Char}
    (hc : symbol.chars = [c]) {b : Bracket} (hcloses : symbol.closes? = some b) {opened : Nat}
    (rest : List Char) :
    (within line done indents ((b, opened) :: brackets) (c :: rest)).run =
      (within line (⟨.symbol symbol, line⟩ :: done) indents brackets rest).run := by
  have hall : ∀ t ∈ [Symbol.closeParen, .closeSquare], t ∈ plainSymbols ∧ t.opens? = none ∧
      t ∈ [Symbol.openParen, .closeParen, .openSquare, .closeSquare, .comma] := by decide
  obtain ⟨hplain, hopens, halone⟩ := hall symbol hs
  apply run_of_readOne
  rw [readOne_plain hplain hc, readSymbol_plain hc (atFront?_alone halone hc rest), hopens, hcloses]
  simp [within, push]

theorem run_openParen (rest : List Char) : (within line done indents brackets ('(' :: rest)).run =
    (within line (⟨.symbol .openParen, line⟩ :: done) indents ((.paren, line) :: brackets)
      rest).run :=
  run_open (by decide) rfl rfl rest

theorem run_openSquare (rest : List Char) : (within line done indents brackets ('[' :: rest)).run =
    (within line (⟨.symbol .openSquare, line⟩ :: done) indents ((.square, line) :: brackets)
      rest).run :=
  run_open (by decide) rfl rfl rest

theorem run_closeParen {opened : Nat} (rest : List Char) :
    (within line done indents ((.paren, opened) :: brackets) (')' :: rest)).run =
      (within line (⟨.symbol .closeParen, line⟩ :: done) indents brackets rest).run :=
  run_close (by decide) rfl rfl rest

theorem run_closeSquare {opened : Nat} (rest : List Char) :
    (within line done indents ((.square, opened) :: brackets) (']' :: rest)).run =
      (within line (⟨.symbol .closeSquare, line⟩ :: done) indents brackets rest).run :=
  run_close (by decide) rfl rfl rest

/-! ### Numbers -/

theorem decimalTail_digits (last : Char) {digits : List Char}
    (hdigits : ∀ c ∈ digits, Text.isAsciiDigit c = true) (hrest : Delimited rest) :
    decimalTail last (digits ++ rest) = (digits, rest) := by
  induction digits generalizing last with
  | nil =>
      cases rest with
      | nil => rfl
      | cons c cs =>
          have hplain := of_isDelimiter
            (p := fun d => Text.isAsciiDigit d || d = '_' || d = '.' || d = 'e' || d = 'E')
            (by decide) (hrest c rfl)
          have hsign := of_isDelimiter (p := fun d => d = '+' || d = '-') (by decide) (hrest c rfl)
          rw [List.nil_append, decimalTail, hsign, hplain]
          rfl
  | cons c cs ih =>
      have hc : Text.isAsciiDigit c = true := hdigits c List.mem_cons_self
      rw [List.cons_append, decimalTail, ih c fun d hd => hdigits d (List.mem_cons_of_mem _ hd), hc]
      rfl

theorem isRadixMark_of_isAsciiDigit {c : Char} (h : Text.isAsciiDigit c = true) :
    isRadixMark c = false := by
  rw [Bool.eq_false_iff]
  intro hc
  simp only [isRadixMark, Bool.or_eq_true, decide_eq_true_eq] at hc
  rcases hc with ((((rfl | rfl) | rfl) | rfl) | rfl) | rfl <;> exact absurd h (by decide)

theorem isRadixMark_of_isDelimiter {c : Char} (h : isDelimiter c) : isRadixMark c = false :=
  of_isDelimiter (by decide) h

theorem imaginaryTail_delimited (hrest : Delimited rest) : imaginaryTail rest = ([], rest) := by
  cases rest with
  | nil => rfl
  | cons c cs =>
      have hc := hrest c rfl
      have hlower : c ≠ 'j' := by
        rintro rfl
        exact absurd hc (by decide)
      have hupper : c ≠ 'J' := by
        rintro rfl
        exact absurd hc (by decide)
      simp [imaginaryTail, hlower, hupper]

theorem number_digits {c : Char} {digits : List Char}
    (hdigits : ∀ d ∈ digits, Text.isAsciiDigit d = true) (hrest : Delimited rest) :
    number c (digits ++ rest) = (c :: digits, rest) := by
  have hdecimal : decimal c (digits ++ rest) = (c :: digits, rest) := by
    simp [decimal, decimalTail_digits c hdigits hrest, imaginaryTail_delimited hrest]
  cases hcs : digits ++ rest with
  | nil =>
      obtain ⟨rfl, rfl⟩ := List.append_eq_nil_iff.mp hcs
      rfl
  | cons mark more =>
      have hmark : isRadixMark mark = false := by
        cases digits with
        | nil =>
            exact isRadixMark_of_isDelimiter (hrest mark (by rw [← List.nil_append rest, hcs]; rfl))
        | cons d ds =>
            obtain ⟨rfl, -⟩ := List.cons.inj hcs
            exact isRadixMark_of_isAsciiDigit (hdigits d List.mem_cons_self)
      rw [number, hmark, Bool.and_false, if_neg Bool.false_ne_true, ← hcs, hdecimal]

theorem isAsciiDigit_of_mem_toDigits {n : Nat} {c : Char} (h : c ∈ Nat.toDigits 10 n) :
    Text.isAsciiDigit c = true := by
  have hdigit := Nat.isDigit_of_mem_toDigits (b := 10) (by decide) (by decide) h
  simpa [Text.isAsciiDigit, Char.isDigit, Char.le_def] using hdigit

theorem readOne_of_isAsciiDigit {s : Lexer} {c : Char} (hc : Text.isAsciiDigit c = true)
    (cs : List Char) : s.readOne c cs =
      .ok { s.push (.number (String.ofList (number c cs).1)) s.line with
        rest := (number c cs).2 } := by
  have hne (d : Char) (hd : Text.isAsciiDigit d = false) : c ≠ d := by
    rintro rfl
    rw [hc] at hd
    cases hd
  simp [readOne, startsNumber, hc, hne ' ' (by decide), hne '\t' (by decide),
    hne '\x0c' (by decide), hne '\r' (by decide), hne '#' (by decide), hne '\n' (by decide)]

/-- The digits of a number are read as a whole. -/
theorem run_number (n : Nat) (hrest : Delimited rest) :
    (within line done indents brackets (Nat.toDigits 10 n ++ rest)).run =
      (within line (⟨.number (String.ofList (Nat.toDigits 10 n)), line⟩ :: done) indents brackets
        rest).run := by
  obtain ⟨c, digits, hn⟩ : ∃ c digits, Nat.toDigits 10 n = c :: digits :=
    List.exists_cons_of_ne_nil Nat.toDigits_ne_nil
  have hall : ∀ d ∈ c :: digits, Text.isAsciiDigit d = true := by
    rw [← hn]
    exact fun d hd => isAsciiDigit_of_mem_toDigits hd
  rw [hn, List.cons_append]
  apply run_of_readOne
  rw [readOne_of_isAsciiDigit (hall c List.mem_cons_self),
    number_digits (fun d hd => hall d (List.mem_cons_of_mem _ hd)) hrest]
  rfl

/-! ### Strings -/

theorem escape_cases (next : Char) :
    (∃ image, image.length ≤ 2 ∧ ∀ cs, escape next cs = (image, cs)) ∨
      ∃ count, next ≠ '\n' ∧ ∀ cs, escape next cs = hexEscape next count cs := by
  by_cases hcode : next = 'x' ∨ next = 'u' ∨ next = 'U'
  · right
    rcases hcode with rfl | rfl | rfl
    · exact ⟨2, by decide, fun _ => rfl⟩
    · exact ⟨4, by decide, fun _ => rfl⟩
    · exact ⟨8, by decide, fun _ => rfl⟩
  · obtain ⟨hx, hu, hU⟩ : next ≠ 'x' ∧ next ≠ 'u' ∧ next ≠ 'U' := by simpa using hcode
    refine .inl ⟨(escape next []).1, ?_, fun cs => ?_⟩
    all_goals
      simp only [escape, if_neg hx, if_neg hu, if_neg hU]
      repeat' split
    all_goals simp

/-- What a backslash and the character behind it stand for is told by the code that follows, or it
is the same whatever follows, and no longer than they are. -/
theorem escapeOrRaw_cases (raw : Bool) (next : Char) :
    (∃ image, image.length ≤ 2 ∧ ∀ cs, escapeOrRaw raw next cs = (image, cs)) ∨
      ∃ count, next ≠ '\n' ∧ ∀ cs, escapeOrRaw raw next cs = hexEscape next count cs := by
  cases raw with
  | true => exact .inl ⟨['\\', next], Nat.le_refl 2, fun _ => rfl⟩
  | false => exact escape_cases next

theorem closing?_self (quote : Char) (rest : List Char) :
    closing? quote false (quote :: rest) = some rest := by
  cases rest with
  | nil => simp [closing?]
  | cons a more => cases more <;> simp [closing?]

theorem closing?_of_ne {quote c : Char} {triple : Bool} (h : c ≠ quote) (rest : List Char) :
    closing? quote triple (c :: rest) = none := by
  cases rest with
  | nil => simp [closing?, h]
  | cons a more => cases more <;> simp [closing?, h]

theorem stringBody?_of_closing? {quote : Char} {triple : Bool} {cs rest : List Char}
    (hclose : closing? quote triple cs = some rest) (raw : Bool) :
    stringBody? quote triple raw cs = some ⟨[], 0, rest⟩ := by
  rw [stringBody?.eq_def, hclose]

/-- A backslash takes the character behind it along. -/
theorem stringBody?_backslash {quote : Char} {triple : Bool} {next : Char} {rest : List Char}
    (hopen : closing? quote triple ('\\' :: next :: rest) = none) (raw : Bool) :
    stringBody? quote triple raw ('\\' :: next :: rest) =
      (stringBody? quote triple raw (escapeOrRaw raw next rest).2).map
        (·.after (escapeOrRaw raw next rest).1 next) := by
  rw [stringBody?.eq_def, hopen]
  rfl

theorem stringBody?_char {quote c : Char} {triple : Bool} {rest : List Char}
    (hopen : closing? quote triple (c :: rest) = none) (hslash : c ≠ '\\') (raw : Bool) :
    stringBody? quote triple raw (c :: rest) =
      if c = '\n' && !triple then none
      else (stringBody? quote triple raw rest).map (·.after [c] c) := by
  rw [stringBody?.eq_def, hopen]
  simp [hslash]

theorem stringBody?_close (quote : Char) (rest : List Char) :
    stringBody? quote false false (quote :: rest) = some ⟨[], 0, rest⟩ :=
  stringBody?_of_closing? (closing?_self quote rest) false

theorem stringBody?_escape {quote : Char} (hquote : quote ≠ '\\') (next : Char)
    (rest : List Char) :
    stringBody? quote false false ('\\' :: next :: rest) =
      (stringBody? quote false false (escape next rest).2).map
        (·.after (escape next rest).1 next) :=
  stringBody?_backslash (closing?_of_ne (Ne.symm hquote) _) false

theorem stringBody?_plain {quote c : Char} (hquote : c ≠ quote) (hslash : c ≠ '\\')
    (hline : c ≠ '\n') (rest : List Char) :
    stringBody? quote false false (c :: rest) =
      (stringBody? quote false false rest).map (·.after [c] c) := by
  rw [stringBody?_char (closing?_of_ne hquote rest) hslash]
  simp [hline]

def isTriple (quote : Char) (cs : List Char) : Bool := [quote, quote].isPrefixOf cs

/-- The body of a literal and what follows it. -/
def bodyBehind (quote : Char) (cs : List Char) : List Char :=
  if isTriple quote cs then cs.drop 2 else cs

theorem readString_eq (s : Lexer) (how : StringPrefix) (quote : Char) (cs : List Char) :
    s.readString how quote cs =
      match stringBody? quote (isTriple quote cs) how.raw (bodyBehind quote cs) with
      | none => s.fail .unterminatedString
      | some b => .ok { s with
          rest := b.rest
          line := s.line + b.lines
          done := pushString s.done b.value (!how.formatted && !how.bytes) s.line } := by
  rcases cs with _ | ⟨a, _ | ⟨b, more⟩⟩
  · rfl
  · have htriple : isTriple quote [a] = false := by simp [isTriple, List.isPrefixOf]
    simp only [readString, htriple, bodyBehind]
    rfl
  · by_cases h : a = quote ∧ b = quote
    · obtain ⟨rfl, rfl⟩ := h
      have htriple : isTriple b (b :: b :: more) = true := by simp [isTriple, List.isPrefixOf]
      simp only [readString, htriple, bodyBehind, decide_true, Bool.and_self]
      rfl
    · have htriple : isTriple quote (a :: b :: more) = false := by
        rw [Bool.eq_false_iff]
        intro ht
        simp only [isTriple, List.isPrefixOf, Bool.and_true, Bool.and_eq_true, beq_iff_eq] at ht
        exact h ⟨ht.1.symm, ht.2.symm⟩
      have hsingle : (decide (a = quote) && decide (b = quote)) = false := by simpa using h
      simp only [readString, hsingle, htriple, bodyBehind]
      rfl

theorem readString_single {s : Lexer} {how : StringPrefix} {quote : Char} {cs : List Char}
    {b : StringBody} (hquote : ¬ [quote, quote] <+: cs)
    (hbody : stringBody? quote false how.raw cs = some b) :
    s.readString how quote cs = .ok { s with
      rest := b.rest
      line := s.line + b.lines
      done := pushString s.done b.value (!how.formatted && !how.bytes) s.line } := by
  unfold readString
  match cs with
  | [] => simp only [hbody]
  | [a] => simp only [hbody]
  | a :: c :: more =>
      have hac : ¬ (a = quote ∧ c = quote) := by
        rintro ⟨rfl, rfl⟩
        exact hquote ⟨more, rfl⟩
      have hfalse : (decide (a = quote) && decide (c = quote)) = false := by simpa using hac
      simp only [hfalse, Bool.false_eq_true, if_false, hbody]

/-- A literal in double quotes that is not triple and does not continue another one. -/
theorem run_string {symbol : Symbol} {opened : Nat} {cs value : List Char}
    (hquote : ¬ ['"', '"'] <+: cs)
    (hbody : stringBody? '"' false false cs = some ⟨value, 0, rest⟩) :
    (within line (⟨.symbol symbol, opened⟩ :: done) indents brackets ('"' :: cs)).run =
      (within line (⟨.str (String.ofList value) true, line⟩ :: ⟨.symbol symbol, opened⟩ :: done)
        indents brackets rest).run := by
  apply run_of_readOne
  show readString _ ⟨false, false, false⟩ '"' cs = _
  rw [readString_single hquote hbody]
  rfl

/-! ## Lines -/

/-- A lexer at the beginning of a line. -/
def atLine (line : Nat) (done : List Token) (indents : List Nat) (rest : List Char) : Lexer :=
  { rest, line, done, indents, brackets := [], lineStart := true }

/-- A line that holds a token ends. -/
theorem run_newline {t : Token} (ht : t.isLayout = false) (rest : List Char) :
    (within line (t :: done) indents [] ('\n' :: rest)).run =
      (atLine (line + 1) (⟨.newline, line⟩ :: t :: done) indents rest).run := by
  apply run_of_readOne
  show Except.ok (endLine _ rest) = _
  simp [endLine, lineIsEmpty, within, atLine, push, ht]

theorem indentation_replicate {c : Char} (hc : isWordStart c) (width indent : Nat)
    (cs : List Char) : indentation width (List.replicate indent ' ' ++ c :: cs) =
      (width + indent, c :: cs) := by
  induction indent generalizing width with
  | zero =>
      have hne (d : Char) (hd : isWordStart d = false) : c ≠ d := isWordStart_ne hc hd
      simp [indentation, hne ' ' (by decide), hne '\t' (by decide), hne '\x0c' (by decide)]
  | succ n ih =>
      rw [List.replicate_succ, List.cons_append, indentation, ih, Nat.add_right_comm, Nat.add_assoc]

/-- A line that begins with a word opens or closes blocks first. -/
theorem step_atLine {c : Char} (hc : isWordStart c) {indent : Nat} {after : List Token}
    {indents' : List Nat} {cs : List Char}
    (hshift : (within line done indents [] (c :: cs)).shiftBlocks indent =
      .ok (within line after indents' [] (c :: cs))) :
    (atLine line done indents (List.replicate indent ' ' ++ c :: cs)).step =
      (within line after indents' [] (c :: cs)).step := by
  have hne (d : Char) (hd : isWordStart d = false) : c ≠ d := isWordStart_ne hc hd
  have hindent :
      indentation 0 (atLine line done indents (List.replicate indent ' ' ++ c :: cs)).rest =
        (indent, c :: cs) := by
    have h := indentation_replicate hc 0 indent cs
    rwa [Nat.zero_add] at h
  show readLineStart _ = readOne _ c cs
  rw [readLineStart, hindent]
  dsimp only
  split
  · next h => cases h
  · next more h => exact absurd (List.cons.inj h).1 (hne '#' (by decide))
  · next more h => exact absurd (List.cons.inj h).1 (hne '\n' (by decide))
  · next more h => exact absurd (List.cons.inj h).1 (hne '\r' (by decide))
  · next d more _ _ _ h =>
      obtain ⟨rfl, rfl⟩ := List.cons.inj h
      show (match (within line done indents [] (c :: cs)).shiftBlocks indent with
        | .error e => Except.error e
        | .ok s => s.readOne c cs) = _
      rw [hshift]

theorem run_atLine {word : String} (h : isAsciiName word) (indent : Nat) {after : List Token}
    {indents' : List Nat}
    (hshift : ∀ cs, (within line done indents [] cs).shiftBlocks indent =
      .ok (within line after indents' [] cs)) :
    (atLine line done indents (List.replicate indent ' ' ++ (word.toList ++ rest))).run =
      (within line after indents' [] (word.toList ++ rest)).run := by
  obtain ⟨c, cs, hw, hc⟩ := exists_wordStart h
  rw [hw, List.cons_append]
  have hne (indent : List Char) : indent ++ c :: (cs ++ rest) ≠ [] := by simp
  rw [run_eq (hne _), run_eq (List.cons_ne_nil _ _), step_atLine hc (hshift _)]

theorem length_start_le (cs : List Char) : (start cs).rest.length ≤ cs.length := by
  unfold start
  split <;> simp

end Lexer

theorem tokenize_eq_steps (text : String) :
    tokenize text = (Lexer.steps text.toList.length (.start text.toList)).bind Lexer.finish := by
  rw [← Lexer.run_eq_steps (Lexer.length_start_le _)]
  rfl

end DeclaredSchema.Source
