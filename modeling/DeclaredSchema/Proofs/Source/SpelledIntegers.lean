import DeclaredSchema.Proofs.Source.LineEndings
import DeclaredSchema.Proofs.Source.PrintedExprs
import Mathlib.Data.List.TakeWhile

/-! # Integers as they are written

The spellings of a natural number in the four bases, with letters in either case and underscores
between the digits, and the value that is read from them, with a minus in front or without. The
minus is read apart from the digits, which have to fit 64 bits without it: the least integer of 64
bits has no literal.
-/

namespace DeclaredSchema.Source

/-- A digit of a base up to sixteen, in either case. -/
def IsDigit (base : Nat) (c : Char) (d : Nat) : Prop :=
  d < base ∧ Text.asciiLower c = Nat.digitChar d

/-- Digits with underscores between them, and the number that they spell. -/
inductive Digits (base : Nat) : List Char → Nat → Prop
  | single {c : Char} {d : Nat} (digit : IsDigit base c d) : Digits base [c] d
  | concat {cs : List Char} {n : Nat} {c : Char} {d : Nat} (before : Digits base cs n)
      (underscores : Nat) (digit : IsDigit base c d) :
      Digits base (cs ++ (List.replicate underscores '_' ++ [c])) (base * n + d)

/-- The letters that stand for the bases other than ten. -/
def radixLetters : List (Char × Nat) := [('x', 16), ('o', 8), ('b', 2)]

/-- The spellings of a natural number. -/
inductive Spells : List Char → Nat → Prop
  | decimal {cs : List Char} {n : Nat} (digits : Digits 10 cs n) : Spells cs n
  | radix {mark letter : Char} {base : Nat} (known : (letter, base) ∈ radixLetters)
      (either : Text.asciiLower mark = letter) (underscores : Nat) {cs : List Char} {n : Nat}
      (digits : Digits base cs n) :
      Spells ('0' :: mark :: (List.replicate underscores '_' ++ cs)) n

/-! ## Digits -/

theorem ascii_digits : ∀ n < 128, ∀ d < 16, Text.asciiLower (Char.ofNat n) = Nat.digitChar d →
    Text.isHexDigit (Char.ofNat n) = true ∧ (d < 10 → Text.isAsciiDigit (Char.ofNat n) = true) := by
  decide +kernel

theorem toNat_lt_of_asciiLower {c : Char} (h : (Text.asciiLower c).toNat < 128) :
    c.toNat < 128 := by
  unfold Text.asciiLower at h
  split at h
  · next hupper =>
      rw [Bool.and_eq_true, decide_eq_true_eq, decide_eq_true_eq] at hupper
      have hle : c.toNat ≤ 90 := hupper.2
      omega
  · exact h

namespace IsDigit

variable {base d : Nat} {c : Char}

theorem toNat_lt (h : IsDigit base c d) (hbase : base ≤ 16) : c.toNat < 128 := by
  have hascii : ∀ d < 16, (Nat.digitChar d).toNat < 128 := by decide
  apply toNat_lt_of_asciiLower
  rw [h.2]
  exact hascii d (Nat.lt_of_lt_of_le h.1 hbase)

theorem isHexDigit (h : IsDigit base c d) (hbase : base ≤ 16) : Text.isHexDigit c = true := by
  rw [← Char.ofNat_toNat c]
  exact (ascii_digits c.toNat (h.toNat_lt hbase) d (Nat.lt_of_lt_of_le h.1 hbase)
    (by rw [Char.ofNat_toNat, h.2])).1

theorem isAsciiDigit (h : IsDigit base c d) (hbase : base ≤ 10) : Text.isAsciiDigit c = true := by
  have hd := h.1
  rw [← Char.ofNat_toNat c]
  exact (ascii_digits c.toNat (h.toNat_lt (by omega)) d (by omega)
    (by rw [Char.ofNat_toNat, h.2])).2 (by omega)

theorem ne_underscore (h : IsDigit base c d) (hbase : base ≤ 16) : c ≠ '_' := by
  rintro rfl
  exact absurd (h.isHexDigit hbase) (by decide)

end IsDigit

/-- The characters of a number that count, in lower case. -/
def counted (cs : List Char) : List Char := (cs.filter (· != '_')).map Text.asciiLower

theorem counted_append (cs ds : List Char) : counted (cs ++ ds) = counted cs ++ counted ds := by
  rw [counted, List.filter_append, List.map_append]
  rfl

theorem counted_replicate (n : Nat) : counted (List.replicate n '_') = [] := by
  induction n with
  | zero => rfl
  | succ n ih => rw [List.replicate_succ]; exact ih

theorem counted_singleton {c : Char} (h : c ≠ '_') : counted [c] = [Text.asciiLower c] := by
  rw [counted, List.filter_cons_of_pos (by simpa using h), List.map_cons]
  rfl

theorem IsDigit.counted_singleton {base d : Nat} {c : Char} (h : IsDigit base c d)
    (hbase : base ≤ 16) : counted [c] = [Nat.digitChar d] := by
  rw [Source.counted_singleton (h.ne_underscore hbase), h.2]

theorem natOfRadix?_concat {base d n : Nat} {ds : List Char} (hbase : base ≤ 16) (hd : d < base)
    (h : ds = [] ∧ n = 0 ∨ natOfRadix? base ds = some n) :
    natOfRadix? base (ds ++ [Nat.digitChar d]) = some (base * n + d) := by
  have hvalue : ∀ d < 16, Text.isHexDigit (Nat.digitChar d) = true ∧
      Text.hexDigitValue (Nat.digitChar d) = d := by decide
  obtain ⟨hhex, hdigit⟩ := hvalue d (by omega)
  obtain ⟨hall, hsum⟩ : ds.all (fun c => Text.isHexDigit c && Text.hexDigitValue c < base) = true ∧
      ds.foldl (fun n c => base * n + Text.hexDigitValue c) 0 = n := by
    rcases h with ⟨rfl, rfl⟩ | h
    · exact ⟨rfl, rfl⟩
    · unfold natOfRadix? at h
      split at h
      · cases h
      · next hdigits =>
          simp only [Bool.or_eq_true, not_or, Bool.not_eq_true, Bool.not_eq_false'] at hdigits
          exact ⟨hdigits.2, Option.some.inj h⟩
  rw [natOfRadix?, List.all_append, hall, List.foldl_append, hsum]
  simp [hhex, hdigit, hd]

namespace Digits

variable {base n : Nat} {cs : List Char}

/-- What counts in the digits of a number is read as the number. -/
theorem natOfRadix?_counted (h : Digits base cs n) (hbase : base ≤ 16) :
    natOfRadix? base (counted cs) = some n := by
  induction h with
  | single digit =>
      have := natOfRadix?_concat hbase digit.1 (.inl ⟨rfl, rfl⟩)
      simpa [digit.counted_singleton hbase] using this
  | concat before underscores digit ih =>
      rw [counted_append, counted_append, counted_replicate, List.nil_append,
        digit.counted_singleton hbase]
      exact natOfRadix?_concat hbase digit.1 (.inr ih)

theorem all_mem (h : Digits base cs n) {p : Char → Prop} (underscore : p '_')
    (digit : ∀ {c d}, IsDigit base c d → p c) : ∀ c ∈ cs, p c := by
  induction h with
  | single hd => simpa using digit hd
  | concat before underscores hd ih =>
      intro c hc
      rw [List.mem_append, List.mem_append, List.mem_replicate, List.mem_singleton] at hc
      rcases hc with hc | ⟨-, rfl⟩ | rfl
      · exact ih c hc
      · exact underscore
      · exact digit hd

/-- Digits begin with a digit. -/
theorem exists_cons (h : Digits base cs n) :
    ∃ c d more, cs = c :: more ∧ IsDigit base c d := by
  induction h with
  | single digit => exact ⟨_, _, [], rfl, digit⟩
  | concat before underscores _ ih =>
      obtain ⟨c, d, more, rfl, digit⟩ := ih
      exact ⟨c, d, _, rfl, digit⟩

theorem mem_counted (h : Digits base cs n) (hbase : base ≤ 16) :
    ∀ c ∈ counted cs, ∃ d < base, c = Nat.digitChar d := by
  induction h with
  | single digit =>
      rw [digit.counted_singleton hbase]
      simpa using ⟨_, digit.1, rfl⟩
  | concat before underscores digit ih =>
      rw [counted_append, counted_append, counted_replicate, List.nil_append,
        digit.counted_singleton hbase]
      intro c hc
      rcases List.mem_append.mp hc with hc | hc
      · exact ih c hc
      · exact ⟨_, digit.1, List.mem_singleton.mp hc⟩

/-- No digit is the mark of an imaginary number. -/
theorem j_not_mem_counted (h : Digits base cs n) (hbase : base ≤ 16) : 'j' ∉ counted cs := by
  have hdigit : ∀ d < 16, 'j' ≠ Nat.digitChar d := by decide
  intro hj
  obtain ⟨d, hd, he⟩ := h.mem_counted hbase 'j' hj
  exact hdigit d (by omega) he

/-- Every number is spelled by its digits. -/
theorem toDigits (n : Nat) : Digits 10 (Nat.toDigits 10 n) n := by
  have hself : ∀ d < 10, Text.asciiLower (Nat.digitChar d) = Nat.digitChar d := by decide
  induction n using Nat.strongRecOn with
  | _ n ih =>
      by_cases hn : n < 10
      · rw [Nat.toDigits_of_lt_base hn]
        exact .single ⟨hn, hself n hn⟩
      · have hlast : n % 10 < 10 := Nat.mod_lt n (by decide)
        have hsplit : Nat.toDigits 10 n = Nat.toDigits 10 (n / 10) ++ [Nat.digitChar (n % 10)] := by
          rw [← Nat.toDigits_of_lt_base hlast,
            Nat.toDigits_append_toDigits (by decide) (by omega) hlast, Nat.div_add_mod]
        have hdigits := Digits.concat (ih (n / 10) (by omega)) 0 ⟨hlast, hself _ hlast⟩
        rwa [Nat.div_add_mod, List.replicate_zero, List.nil_append, ← hsplit] at hdigits

end Digits

/-! ## The value of a spelling -/

theorem radixLetters_le {letter : Char} {base : Nat} (h : (letter, base) ∈ radixLetters) :
    base ≤ 16 := by
  simp [radixLetters] at h
  omega

theorem ascii_radixMarks : ∀ n < 128, Text.asciiLower (Char.ofNat n) ∈ radixLetters.map (·.1) →
    Lexer.isRadixMark (Char.ofNat n) = true := by
  decide +kernel

/-- The letter of a base in either case. -/
theorem isRadixMark_of_mem {mark : Char} (h : Text.asciiLower mark ∈ radixLetters.map (·.1)) :
    Lexer.isRadixMark mark = true := by
  have hascii : ∀ letter ∈ radixLetters.map (·.1), letter.toNat < 128 := by simp [radixLetters]
  rw [← Char.ofNat_toNat mark]
  refine ascii_radixMarks mark.toNat (toNat_lt_of_asciiLower (hascii _ h)) ?_
  rwa [Char.ofNat_toNat]

theorem numberLiteral?_eq (cs : List Char) : numberLiteral? (String.ofList cs) =
    if (counted cs).getLast? = some 'j' then none
    else match radix? (counted cs) with
      | some (base, digits) => (natOfRadix? base digits).bind fun n => (int64? n).map .int
      | none =>
        if (counted cs).contains '.' || (counted cs).contains 'e' then
          (Binary64.ofDecimalText? (counted cs)).map .float
        else (natOfRadix? 10 (counted cs)).bind fun n => (int64? n).map .int := by
  simp only [numberLiteral?, String.toList_ofList, Option.map_eq_bind]
  rfl

/-- Decimal digits and underscores are read up to the end. -/
theorem Lexer.decimalTail_of_decimal (last : Char) {cs : List Char}
    (h : ∀ c ∈ cs, Text.isAsciiDigit c = true ∨ c = '_') : decimalTail last cs = (cs, []) := by
  induction cs generalizing last with
  | nil => rfl
  | cons c cs ih =>
      have hkept : (Text.isAsciiDigit c || c = '_') = true := by
        rw [Bool.or_eq_true, decide_eq_true_eq]
        exact h c List.mem_cons_self
      rw [decimalTail, ih c fun d hd => h d (List.mem_cons_of_mem c hd), hkept]
      rfl

theorem Lexer.number_of_decimal {c : Char} {cs : List Char}
    (h : ∀ c ∈ cs, Text.isAsciiDigit c = true ∨ c = '_') : number c cs = (c :: cs, []) := by
  cases cs with
  | nil => rfl
  | cons mark more =>
      have hmark : isRadixMark mark = false := by
        rcases h mark List.mem_cons_self with hd | rfl
        · exact isRadixMark_of_isAsciiDigit hd
        · rfl
      rw [number, hmark, Bool.and_false, if_neg Bool.false_ne_true, decimal,
        decimalTail_of_decimal c h]
      simp [imaginaryTail]

namespace Spells

variable {cs : List Char} {n : Nat}

/-- Every spelling of a number has the number for its value, if that has 64 bits. -/
theorem numberLiteral?_eq (h : Spells cs n) :
    numberLiteral? (String.ofList cs) = (int64? n).map .int := by
  rw [Source.numberLiteral?_eq]
  cases h with
  | decimal digits =>
      have hdigit : ∀ c ∈ counted cs, Text.isAsciiDigit c = true := by
        have hall : ∀ d < 10, Text.isAsciiDigit (Nat.digitChar d) = true := by decide
        intro c hc
        obtain ⟨d, hd, rfl⟩ := digits.mem_counted (by decide) c hc
        exact hall d hd
      have hnot (c : Char) (hc : Text.isAsciiDigit c = false) : c ∉ counted cs := fun hmem =>
        Bool.false_ne_true (hc.symm.trans (hdigit c hmem))
      rw [if_neg fun hlast => hnot 'j' (by decide) (List.mem_of_getLast? hlast),
        Printed.radix?_digits hdigit]
      have hpoint : (counted cs).contains '.' = false := by simpa using hnot '.' (by decide)
      have hexponent : (counted cs).contains 'e' = false := by simpa using hnot 'e' (by decide)
      simp only [hpoint, hexponent, Bool.or_self, Bool.false_eq_true, if_false,
        digits.natOfRadix?_counted (by decide), Option.bind_some]
  | @radix mark letter base known either underscores cs n digits =>
      have hbase := radixLetters_le known
      have hmark : mark ≠ '_' := by
        rintro rfl
        rw [← either] at known
        exact absurd known (by simp [radixLetters, Text.asciiLower])
      have hcounted : counted ('0' :: mark :: (List.replicate underscores '_' ++ cs)) =
          '0' :: letter :: counted cs := by
        calc counted (['0'] ++ ([mark] ++ (List.replicate underscores '_' ++ cs)))
            = counted ['0'] ++ (counted [mark] ++ (counted (List.replicate underscores '_') ++
                counted cs)) := by simp only [counted_append]
          _ = '0' :: letter :: counted cs := by
                rw [counted_replicate, counted_singleton hmark, either]
                rfl
      have hj : 'j' ∉ '0' :: letter :: counted cs := by
        rw [List.mem_cons, List.mem_cons, not_or, not_or]
        refine ⟨by decide, ?_, digits.j_not_mem_counted hbase⟩
        rintro rfl
        exact absurd known (by simp [radixLetters])
      have hradix : radix? ('0' :: letter :: counted cs) = some (base, counted cs) := by
        simp only [radixLetters, List.mem_cons, Prod.mk.injEq, List.not_mem_nil, or_false] at known
        rcases known with ⟨rfl, rfl⟩ | ⟨rfl, rfl⟩ | ⟨rfl, rfl⟩ <;> rfl
      rw [hcounted, if_neg fun hlast => hj (List.mem_of_getLast? hlast), hradix]
      simp only [digits.natOfRadix?_counted hbase, Option.bind_some]

/-- A spelling begins with a digit and is read as one number. -/
theorem number_eq (h : Spells cs n) :
    ∃ c more, cs = c :: more ∧ Text.isAsciiDigit c = true ∧ Lexer.number c more = (cs, []) := by
  cases h with
  | decimal digits =>
      have hkept := digits.all_mem (p := fun c => Text.isAsciiDigit c = true ∨ c = '_') (.inr rfl)
        fun hd => .inl (hd.isAsciiDigit (Nat.le_refl 10))
      obtain ⟨c, d, more, rfl, digit⟩ := digits.exists_cons
      refine ⟨c, more, rfl, digit.isAsciiDigit (Nat.le_refl 10), ?_⟩
      exact Lexer.number_of_decimal (fun e he => hkept e (List.mem_cons_of_mem c he))
  | @radix mark letter base known either underscores cs n digits =>
      have hmark : Lexer.isRadixMark mark = true :=
        isRadixMark_of_mem (either ▸ List.mem_map_of_mem known)
      have hkept : ∀ c ∈ List.replicate underscores '_' ++ cs,
          (Text.isHexDigit c || c = '_') = true := by
        have hdigits := digits.all_mem (p := fun c => (Text.isHexDigit c || c = '_') = true) rfl
          fun hd => by rw [hd.isHexDigit (radixLetters_le known)]; rfl
        intro c hc
        rcases List.mem_append.mp hc with hc | hc
        · rw [List.eq_of_mem_replicate hc]
          rfl
        · exact hdigits c hc
      refine ⟨'0', _, rfl, rfl, ?_⟩
      rw [Lexer.number, hmark]
      simp [List.takeWhile_eq_self_iff.mpr hkept, List.dropWhile_eq_nil_iff.mpr hkept]

end Spells

/-! ## From the text to the literal -/

namespace Lexer

/-- A text that begins with something else than a blank, a comment, a line end or a byte order mark
begins with a line of width zero. -/
theorem run_start {c : Char} (hc : c ∉ [' ', '\t', '\x0c', '#', '\n', '\r', '\ufeff'])
    (cs : List Char) : (start (c :: cs)).run = (within 1 [] [] [] (c :: cs)).run := by
  simp only [List.mem_cons, List.not_mem_nil, or_false, not_or] at hc
  obtain ⟨hblank, htab, hfeed, hcomment, hlf, hcr, hmark⟩ := hc
  have hstart : start (c :: cs) = atLine 1 [] [] (c :: cs) := by
    simp [start, atLine, hmark]
  have hindent : indentation 0 (atLine 1 [] [] (c :: cs)).rest = (0, c :: cs) := by
    simp [atLine, indentation, hblank, htab, hfeed]
  have hstep : (atLine 1 [] [] (c :: cs)).step = (within 1 [] [] [] (c :: cs)).step :=
    readLineStart_of_ne hindent hcomment hlf fun h => hcr h.1
  rw [hstart, run_eq (List.cons_ne_nil c cs), run_eq (List.cons_ne_nil c cs), hstep]

end Lexer

/-- A minus in front of a negative number. -/
def signed (n : Int) (cs : List Char) : List Char := if n < 0 then '-' :: cs else cs

/-- The tokens of a spelled integer. -/
def integerTokens (n : Int) (cs : List Char) : List Token :=
  (if n < 0 then [⟨.symbol .minus, 1⟩] else []) ++ [⟨.number (String.ofList cs), 1⟩]

theorem run_spelled {cs : List Char} {n : Nat} (h : Spells cs n) (done : List Token) :
    (Lexer.within 1 done [] [] cs).run =
      .ok (Lexer.within 1 (⟨.number (String.ofList cs), 1⟩ :: done) [] [] []) := by
  obtain ⟨c, more, rfl, hc, hnumber⟩ := h.number_eq
  rw [Lexer.run_of_readOne (Lexer.readOne_of_isAsciiDigit hc more), hnumber]
  exact Lexer.run_of_nil rfl

theorem tokenize_spelled {n : Int} {cs : List Char} (h : Spells cs n.natAbs) :
    tokenize (String.ofList (signed n cs)) =
      .ok (integerTokens n cs ++ [⟨.newline, 1⟩, ⟨.endMarker, 1⟩]) := by
  obtain ⟨c, more, hcs, hc, -⟩ := h.number_eq
  have hne (d : Char) (hd : Text.isAsciiDigit d = false) : c ≠ d := by
    rintro rfl
    exact Bool.false_ne_true (hd.symm.trans hc)
  rw [tokenize_eq, String.toList_ofList, signed, integerTokens]
  by_cases hn : n < 0
  · rw [if_pos hn, if_pos hn, Lexer.run_start (by decide), hcs,
      Lexer.run_minus (hne '=' (by decide)) (hne '>' (by decide)), ← hcs, run_spelled h]
    rfl
  · have hfirst : c ∉ [' ', '\t', '\x0c', '#', '\n', '\r', '\ufeff'] := by
      intro hmem
      have hall : [' ', '\t', '\x0c', '#', '\n', '\r', '\ufeff'].all (!Text.isAsciiDigit ·) =
          true := by decide
      have hnot := List.all_eq_true.mp hall c hmem
      rw [hc] at hnot
      exact Bool.false_ne_true hnot
    rw [if_neg hn, if_neg hn, hcs, Lexer.run_start hfirst, ← hcs, run_spelled h]
    rfl

theorem readFuel_number (fuel line : Nat) (text : String) :
    Expr.readFuel (fuel + 1) [⟨.number text, line⟩] =
      (numberLiteral? text).elim .unmodelled .literal := by
  have hmatched : Printed.Matched [.minus] [.number text] :=
    fun line => .plain rfl rfl rfl (show Printed.Plain _ ⟨.number text, line⟩ from trivial) .nil
  refine Printed.readFuel_single hmatched (by simp) (by simp) ?_ fuel line
  intro sub line
  simp only [Expr.atomWith]
  cases numberLiteral? text <;> rfl

theorem readFuel_minus_number (fuel line : Nat) (text : String) :
    Expr.readFuel (fuel + 2) [⟨.symbol .minus, line⟩, ⟨.number text, line⟩] =
      (numberLiteral? text).elim .unmodelled fun l => .negate (.literal l) := by
  have hmatched : Printed.Matched [.minus] [.symbol .minus, .number text] := fun line =>
    .plain rfl rfl rfl (show Printed.Plain _ ⟨.symbol .minus, line⟩ from List.mem_singleton_self _)
      (.plain rfl rfl rfl (show Printed.Plain _ ⟨.number text, line⟩ from trivial) .nil)
  refine (Printed.readWith_matched (List.cons_ne_nil _ _) hmatched).trans ?_
  simp only [Printed.onLine, List.map_cons, List.map_nil, readFuel_number]
  cases numberLiteral? text <;> rfl

theorem int64?_of_le {n : Int} (least : -2 ^ 63 ≤ n) (greatest : n ≤ 2 ^ 63 - 1) :
    int64? n = some (.ofInt n) := by
  rw [int64?, if_pos (by omega)]

theorem literal?_integerTokens {n : Int} {cs : List Char} (h : Spells cs n.natAbs) :
    (Expr.ofTokens (integerTokens n cs)).literal? =
      if -2 ^ 63 < n ∧ n ≤ 2 ^ 63 - 1 then some (.int (.ofInt n)) else none := by
  rw [integerTokens]
  by_cases hn : n < 0
  · rw [if_pos hn]
    change (Expr.readFuel 2 [⟨.symbol .minus, 1⟩, ⟨.number (String.ofList cs), 1⟩]).literal? = _
    rw [readFuel_minus_number, h.numberLiteral?_eq]
    by_cases hfits : -2 ^ 63 < n ∧ n ≤ 2 ^ 63 - 1
    · have hword : (Int64.ofInt n.natAbs).toInt = n.natAbs :=
        Int64.toInt_ofInt_of_le (by omega) (by omega)
      have hopposite : -(n.natAbs : Int) = n := by omega
      rw [if_pos hfits, int64?_of_le (by omega) (by omega)]
      change (int64? (-(Int64.ofInt n.natAbs).toInt)).map Literal.int = _
      rw [hword, hopposite, int64?_of_le (by omega) (by omega)]
      rfl
    · rw [if_neg hfits, int64?, if_neg (by omega)]
      rfl
  · rw [if_neg hn]
    change (Expr.readFuel 1 [⟨.number (String.ofList cs), 1⟩]).literal? = _
    rw [readFuel_number, h.numberLiteral?_eq]
    have hsame : (n.natAbs : Int) = n := by omega
    by_cases hfits : -2 ^ 63 < n ∧ n ≤ 2 ^ 63 - 1
    · rw [if_pos hfits, hsame, int64?_of_le (by omega) (by omega)]
      rfl
    · rw [if_neg hfits, int64?, if_neg (by omega)]
      rfl

/-- A spelled integer stands for itself exactly if its digits fit 64 bits without their sign: the
least integer of 64 bits has no literal, and neither has any beyond them. -/
theorem literal_of_spelled {n : Int} {cs : List Char} (h : Spells cs n.natAbs) :
    ∃ tokens, tokenize (String.ofList (signed n cs)) =
        .ok (tokens ++ [⟨.newline, 1⟩, ⟨.endMarker, 1⟩]) ∧
      (Expr.ofTokens tokens).literal? =
        if -2 ^ 63 < n ∧ n ≤ 2 ^ 63 - 1 then some (.int (.ofInt n)) else none :=
  ⟨integerTokens n cs, tokenize_spelled h, literal?_integerTokens h⟩

/-- Minus 255 with letters of either case and an underscore. -/
theorem literal_of_spelled_hexadecimal :
    Spells "0XF_f".toList (-255 : Int).natAbs ∧
      ∃ tokens, tokenize (String.ofList (signed (-255) "0XF_f".toList)) =
          .ok (tokens ++ [⟨.newline, 1⟩, ⟨.endMarker, 1⟩]) ∧
        (Expr.ofTokens tokens).literal? = some (.int (.ofInt (-255))) := by
  have hspells : Spells "0XF_f".toList (-255 : Int).natAbs :=
    .radix (by decide : ('x', 16) ∈ radixLetters) rfl 0
      (.concat (.single (d := 15) ⟨by decide, by decide⟩) 1 (d := 15) ⟨by decide, by decide⟩)
  obtain ⟨tokens, htokens, hliteral⟩ := literal_of_spelled hspells
  exact ⟨hspells, tokens, htokens, hliteral⟩

/-- The least integer of 64 bits is spelled, but it has no literal. -/
theorem least_integer_has_no_literal :
    Spells "9223372036854775808".toList (-2 ^ 63 : Int).natAbs ∧
      ∃ tokens, tokenize "-9223372036854775808" =
          .ok (tokens ++ [⟨.newline, 1⟩, ⟨.endMarker, 1⟩]) ∧
        (Expr.ofTokens tokens).literal? = none := by
  have hspells : Spells "9223372036854775808".toList (-2 ^ 63 : Int).natAbs := by
    have hdigits : "9223372036854775808".toList = Nat.toDigits 10 (-2 ^ 63 : Int).natAbs := by
      decide +kernel
    rw [hdigits]
    exact .decimal (.toDigits _)
  have htext : "-9223372036854775808" =
      String.ofList (signed (-2 ^ 63) "9223372036854775808".toList) := by decide +kernel
  refine ⟨hspells, integerTokens (-2 ^ 63) "9223372036854775808".toList, ?_, ?_⟩
  · rw [htext, tokenize_spelled hspells]
  · rw [literal?_integerTokens hspells, if_neg (by decide)]

end DeclaredSchema.Source
