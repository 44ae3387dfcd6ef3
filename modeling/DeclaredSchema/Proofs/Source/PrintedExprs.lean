import DeclaredSchema.Proofs.Schema.LiteralJson
import DeclaredSchema.Proofs.Source.PrintedBrackets

/-! # Printed literals are read back

The tokens of a printed literal stand for an expression with that value.
-/

namespace DeclaredSchema.Printed

open Source

variable {symbols : List Symbol}

/-! ## Numbers -/

theorem asciiLower_digit {c : Char} (h : Text.isAsciiDigit c = true) : Text.asciiLower c = c := by
  rw [Text.isAsciiDigit, Bool.and_eq_true, decide_eq_true_eq, decide_eq_true_eq] at h
  rw [Text.asciiLower, if_neg]
  rw [Bool.and_eq_true, decide_eq_true_eq, decide_eq_true_eq]
  rintro ⟨hupper, -⟩
  exact absurd (Char.le_trans hupper h.2) (by decide)

theorem natOfRadix?_digits (n : Nat) : natOfRadix? 10 (Nat.toDigits 10 n) = some n := by
  have hdigit : ∀ c ∈ Nat.toDigits 10 n, Text.isAsciiDigit c = true :=
    fun c hc => Lexer.isAsciiDigit_of_mem_toDigits hc
  have hvalue : ∀ c ∈ Nat.toDigits 10 n, Text.hexDigitValue c = c.toNat - '0'.toNat := by
    intro c hc
    rw [Text.hexDigitValue, if_pos (hdigit c hc)]
    rfl
  have hall : (Nat.toDigits 10 n).all
      (fun c => Text.isHexDigit c && Text.hexDigitValue c < 10) = true := by
    rw [List.all_eq_true]
    intro c hc
    rw [hvalue c hc, Text.isHexDigit, hdigit c hc]
    have h := hdigit c hc
    rw [Text.isAsciiDigit, Bool.and_eq_true, decide_eq_true_eq, decide_eq_true_eq] at h
    have hle : c.toNat ≤ '9'.toNat := h.2
    have : '9'.toNat = 57 := rfl
    have : '0'.toNat = 48 := rfl
    simp
    omega
  have hne : (Nat.toDigits 10 n).isEmpty = false := by
    rw [List.isEmpty_eq_false_iff]
    exact Nat.toDigits_ne_nil
  have hsum : (Nat.toDigits 10 n).foldl (fun m c => 10 * m + Text.hexDigitValue c) 0 = n := by
    calc (Nat.toDigits 10 n).foldl (fun m c => 10 * m + Text.hexDigitValue c) 0
        = (Nat.toDigits 10 n).foldl (fun m c => 10 * m + (c.toNat - '0'.toNat)) 0 :=
          List.foldl_ext _ _ _ fun m c hc => by rw [hvalue c hc]
      _ = Nat.ofDigitChars 10 (Nat.toDigits 10 n) 0 := Nat.ofDigitChars_eq_foldl.symm
      _ = n := Nat.ofDigitChars_ten_toDigits
  rw [natOfRadix?, hne, hall]
  simp [hsum]

theorem radix?_digits {cs : List Char} (h : ∀ c ∈ cs, Text.isAsciiDigit c = true) :
    radix? cs = none := by
  rw [radix?.eq_def]
  split
  · exact absurd (h 'x' (by simp)) (by decide)
  · exact absurd (h 'o' (by simp)) (by decide)
  · exact absurd (h 'b' (by simp)) (by decide)
  · rfl

/-- Decimal digits are the integer that they were written for, if it has 64 bits. -/
theorem numberLiteral?_digits (n : Nat) :
    numberLiteral? (String.ofList (Nat.toDigits 10 n)) = (int64? n).map .int := by
  have hdigit : ∀ c ∈ Nat.toDigits 10 n, Text.isAsciiDigit c = true :=
    fun c hc => Lexer.isAsciiDigit_of_mem_toDigits hc
  have hnot (d : Char) (hd : Text.isAsciiDigit d = false) : d ∉ Nat.toDigits 10 n := by
    intro hmem
    rw [hdigit d hmem] at hd
    cases hd
  have hfilter : (Nat.toDigits 10 n).filter (· != '_') = Nat.toDigits 10 n := by
    rw [List.filter_eq_self]
    intro c hc
    rw [bne_iff_ne]
    rintro rfl
    exact hnot _ (by decide) hc
  have hlower : (Nat.toDigits 10 n).map Text.asciiLower = Nat.toDigits 10 n := by
    conv_rhs => rw [← List.map_id (Nat.toDigits 10 n)]
    exact List.map_congr_left fun c hc => asciiLower_digit (hdigit c hc)
  have himaginary : (Nat.toDigits 10 n).getLast? ≠ some 'j' := fun hlast =>
    hnot _ (by decide) (List.mem_of_getLast? hlast)
  have hpoint : (Nat.toDigits 10 n).contains '.' = false := by
    simpa using hnot '.' (by decide)
  have hexponent : (Nat.toDigits 10 n).contains 'e' = false := by
    simpa using hnot 'e' (by decide)
  rw [numberLiteral?, String.toList_ofList, hfilter, hlower]
  simp only [if_neg himaginary, radix?_digits hdigit, hpoint, hexponent, Bool.or_self,
    Bool.false_eq_true, if_false, natOfRadix?_digits]
  exact Option.map_eq_bind.symm

/-! ## Expressions -/

/-- Tokens without operators between their operands are an operand, with a sign or without. -/
theorem readWith_undivided {sub : List Token → Expr} {ts : List Token} (hne : ts ≠ [])
    (h : Balanced (Plain symbols) ts) (hcomma : .comma ∉ symbols) (hbar : .bar ∉ symbols) :
    Expr.readWith sub ts = match ts with
      | ⟨.symbol .minus, _⟩ :: rest => match sub rest with
        | .unmodelled => .unmodelled
        | e => .negate e
      | ⟨.symbol .plus, _⟩ :: rest => sub rest
      | _ => Expr.operandWith sub ts := by
  have hempty : ts.isEmpty = false := by simpa using hne
  have hkeyword := h.anyTopLevel_eq_false fun t ht => ht.isOperatorKeyword
  have hitems := h.splitTopLevel_eq fun t ht => ht.isSymbol hcomma
  have hmembers := h.splitTopLevel_eq fun t ht => ht.isSymbol hbar
  simp only [Expr.readWith, hempty, hkeyword, hitems, hmembers]
  rfl

theorem readWith_matched {sub : List Token → Expr} {kinds : List Token.Kind} {line : Nat}
    (hne : kinds ≠ []) (h : Matched [.minus] kinds) :
    Expr.readWith sub (onLine line kinds) = match onLine line kinds with
      | ⟨.symbol .minus, _⟩ :: rest => match sub rest with
        | .unmodelled => .unmodelled
        | e => .negate e
      | ⟨.symbol .plus, _⟩ :: rest => sub rest
      | _ => Expr.operandWith sub (onLine line kinds) :=
  readWith_undivided (by simpa [onLine] using hne) (h line) (by decide) (by decide)

/-- Tokens that do not begin with a sign are an operand. -/
theorem readWith_operand {sub : List Token → Expr} {k : Token.Kind} {ks : List Token.Kind}
    {line : Nat} (h : Matched [.minus] (k :: ks)) (hminus : k ≠ .symbol .minus)
    (hplus : k ≠ .symbol .plus) :
    Expr.readWith sub (onLine line (k :: ks)) = Expr.operandWith sub (onLine line (k :: ks)) := by
  rw [readWith_matched (List.cons_ne_nil _ _) h]
  split
  · rename_i heq
    exact absurd (congrArg Token.kind (List.cons.inj heq).1) hminus
  · rename_i heq
    exact absurd (congrArg Token.kind (List.cons.inj heq).1) hplus
  · rfl

/-- An operand with nothing behind it. -/
theorem operandWith_atom {sub : List Token → Expr} {ts : List Token} {e : Expr}
    (h : Expr.atomWith sub ts = some (e, [])) : Expr.operandWith sub ts = e := by
  rw [Expr.operandWith, h]
  simp [Expr.postfixWith]

theorem readFuel_single {k : Token.Kind} {e : Expr} (hk : Matched [.minus] [k])
    (hminus : k ≠ .symbol .minus) (hplus : k ≠ .symbol .plus)
    (hatom : ∀ sub line, Expr.atomWith sub [⟨k, line⟩] = some (e, [])) (n line : Nat) :
    Expr.readFuel (n + 1) (onLine line [k]) = e := by
  rw [Expr.readFuel, readWith_operand hk hminus hplus]
  exact operandWith_atom (hatom _ line)

theorem atomWith_name {n : String} (h : isKeyword n = false) (sub : List Token → Expr)
    (line : Nat) (rest : List Token) :
    Expr.atomWith sub (⟨.name n, line⟩ :: rest) = some (.name n, rest) := by
  have hne (w : String) (hw : isKeyword w = true) : n ≠ w := ne_of_not_isKeyword h hw
  simp only [Expr.atomWith]
  split
  · rename_i hn
    exact absurd (Token.Kind.name.inj hn) (hne "None" (by decide))
  · rename_i hn
    exact absurd (Token.Kind.name.inj hn) (hne "True" (by decide))
  · rename_i hn
    exact absurd (Token.Kind.name.inj hn) (hne "False" (by decide))
  · rename_i hn
    rw [← Token.Kind.name.inj hn]
  any_goals
    rename_i hn
    cases hn
  rename_i hname _ _ _ _ _
  exact absurd rfl (hname n)

/-- The elements of a list whose parts are printed. -/
theorem atomWith_list (hcomma : .comma ∉ symbols) {parts : List (List Token.Kind)}
    (h : ∀ part ∈ parts, Matched symbols part) (hne : ∀ part ∈ parts, part ≠ [])
    (sub : List Token → Expr) (line : Nat) :
    Expr.atomWith sub (onLine line
      (.symbol .openSquare :: (commaJoined parts ++ [.symbol .closeSquare]))) =
        some (.list (parts.map fun part => sub (onLine line part)), []) := by
  have hinside := Matched.commaJoined h line
  have hbracketed := (Matched.commaJoined h).bracketed?_close
    (show Symbol.closeSquare.closes?.isSome from rfl) line
  have hfor : anyTopLevel (·.isName "for") (onLine line (commaJoined parts)) = false :=
    hinside.anyTopLevel_eq_false fun t ht => ht.isName (by decide)
  have hlist : Expr.listWith sub (onLine line (commaJoined parts)) =
      .list (parts.map fun part => sub (onLine line part)) := by
    rw [Expr.listWith, hfor, parts_commaJoined hcomma h hne, List.map_map]
    rfl
  show Expr.atomWith sub (⟨.symbol .openSquare, line⟩ ::
    onLine line (commaJoined parts ++ [.symbol .closeSquare])) = _
  simp only [Expr.atomWith, hbracketed, Option.map_some, hlist]
  cases parts with
  | nil => rfl
  | cons part parts =>
      have hsome : (onLine line (commaJoined (part :: parts))).isEmpty = false := by
        rw [commaJoined_cons]
        simp [onLine, hne part List.mem_cons_self]
      rw [hsome]
      rfl

theorem literalKinds_ne_nil {l : Literal} (h : l.isPlain) : literalKinds l ≠ [] := by
  cases l with
  | bool b => cases b <;> simp [literalKinds]
  | int i =>
      rw [literalKinds]
      split <;> simp
  | float x => cases h
  | _ => simp [literalKinds]

theorem literalsKinds_ne_nil {ls : List Literal} (h : Literal.arePlain ls) :
    ∀ part ∈ literalsKinds ls, part ≠ [] := by
  induction ls with
  | nil => exact List.forall_mem_nil _
  | cons l rest ih =>
      rw [Literal.arePlain, Bool.and_eq_true] at h
      exact List.forall_mem_cons.mpr ⟨literalKinds_ne_nil h.1, ih h.2⟩

/-- The digits of a printed integer are its distance from zero. -/
theorem readFuel_digits {i : Int64} (h : -0x8000000000000000 < i.toInt) (n line : Nat) :
    Expr.readFuel (n + 1) (onLine line [digits i.toInt]) =
      .literal (.int (.ofInt i.toInt.natAbs)) := by
  have hbound := i.toInt_lt
  have hnumber : numberLiteral? (String.ofList (Nat.toDigits 10 i.toInt.natAbs)) =
      some (.int (.ofInt i.toInt.natAbs)) := by
    rw [numberLiteral?_digits, int64?, if_pos (by omega)]
    rfl
  refine readFuel_single (matched_digits _) (by simp [digits]) (by simp [digits]) ?_ n line
  intro sub line
  simp only [digits, Expr.atomWith, hnumber]

theorem readFuel_integer {i : Int64} (h : -0x8000000000000000 < i.toInt) {n : Nat}
    (hn : (literalKinds (.int i)).length ≤ n) (line : Nat) :
    (Expr.readFuel n (onLine line (literalKinds (.int i)))).literal? = some (.int i) := by
  have hmatched : Matched [.minus] (literalKinds (.int i)) :=
    matched_literal (by simpa [Literal.isPlain] using h)
  rw [literalKinds] at hn hmatched ⊢
  split at hn
  · rename_i hneg
    rw [if_pos hneg] at hmatched ⊢
    obtain ⟨m, rfl⟩ : ∃ m, n = m + 2 := ⟨n - 2, by simp at hn; omega⟩
    have habs : (Int64.ofInt i.toInt.natAbs).toInt = i.toInt.natAbs :=
      Int64.toInt_ofInt_of_le (by omega) (by omega)
    rw [Expr.readFuel, readWith_matched (List.cons_ne_nil _ _) hmatched]
    show (match Expr.readFuel (m + 1) (onLine line [digits i.toInt]) with
      | .unmodelled => .unmodelled
      | e => .negate e : Expr).literal? = _
    rw [readFuel_digits h]
    show (int64? (-(Int64.ofInt i.toInt.natAbs).toInt)).map Literal.int = _
    rw [habs, show -(i.toInt.natAbs : Int) = i.toInt by omega, Literal.int64?_toInt]
    rfl
  · rename_i hpos
    rw [if_neg hpos]
    obtain ⟨m, rfl⟩ : ∃ m, n = m + 1 := ⟨n - 1, by simp at hn; omega⟩
    rw [readFuel_digits h, show (i.toInt.natAbs : Int) = i.toInt by omega, Int64.ofInt_toInt]
    rfl

mutual

theorem readFuel_literal {l : Literal} (h : l.isPlain) {n : Nat}
    (hn : (literalKinds l).length ≤ n) (line : Nat) :
    (Expr.readFuel n (onLine line (literalKinds l))).literal? = some l := by
  have hmatched := matched_literal h
  obtain ⟨m, rfl⟩ : ∃ m, n = m + 1 := by
    have := List.length_pos_iff.mpr (literalKinds_ne_nil h)
    exact ⟨n - 1, by omega⟩
  cases l with
  | null =>
      rw [literalKinds, readFuel_single hmatched (by simp) (by simp) fun _ _ => rfl]
      rfl
  | bool b =>
      cases b <;>
      · rw [literalKinds, readFuel_single hmatched (by simp) (by simp) fun _ _ => rfl]
        rfl
  | int i =>
      rw [Literal.isPlain, decide_eq_true_eq] at h
      exact readFuel_integer h hn line
  | float x => cases h
  | str s =>
      rw [literalKinds, readFuel_single hmatched (by simp) (by simp) fun _ _ => rfl]
      rfl
  | list items =>
      rw [Literal.isPlain] at h
      have hlength : ∀ part ∈ literalsKinds items, part.length ≤ m := by
        intro part hpart
        have := length_le_commaJoined_of_mem hpart
        simp [literalKinds] at hn
        omega
      rw [literalKinds] at hmatched ⊢
      rw [Expr.readFuel, readWith_operand hmatched (by simp) (by simp),
        operandWith_atom (atomWith_list (by simp) (matched_literals h)
          (literalsKinds_ne_nil h) _ line), Expr.literal?,
        readFuel_literals h hlength]
      rfl

theorem readFuel_literals {ls : List Literal} (h : Literal.arePlain ls) {n : Nat}
    (hn : ∀ part ∈ literalsKinds ls, part.length ≤ n) (line : Nat) :
    Expr.literals? ((literalsKinds ls).map fun part => Expr.readFuel n (onLine line part)) =
      some ls := by
  cases ls with
  | nil => rfl
  | cons l rest =>
      rw [Literal.arePlain, Bool.and_eq_true] at h
      obtain ⟨hl, hrest⟩ := List.forall_mem_cons.mp hn
      rw [literalsKinds, List.map_cons, Expr.literals?, readFuel_literal h.1 hl,
        readFuel_literals h.2 hrest]
      rfl

end

end DeclaredSchema.Printed
