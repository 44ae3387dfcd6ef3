import DeclaredSchema.Proofs.Source.Brackets
import DeclaredSchema.Proofs.Source.PrintedTokens

/-! # The brackets of printed tokens

The brackets of every printed part match. Outside of them stand only words that are no operators,
numbers, strings and a few symbols, which is what tells the parts of a list and of a field apart.
-/

namespace DeclaredSchema.Printed

open Source

/-! ## Tokens outside brackets -/

/-- No word between operands, and no symbol but those of a list. -/
def Plain (symbols : List Symbol) (t : Token) : Prop :=
  match t.kind with
  | .name n => n ∉ Expr.operatorKeywords
  | .number _ => True
  | .str _ _ => True
  | .symbol s => s ∈ symbols
  | _ => False

namespace Plain

variable {symbols : List Symbol} {t : Token} (h : Plain symbols t)
include h

theorem isSymbol {s : Symbol} (hs : s ∉ symbols) : t.isSymbol s = false := by
  obtain ⟨kind, line⟩ := t
  cases kind with
  | symbol u =>
      have hne : u ≠ s := by
        rintro rfl
        exact hs h
      simp [Token.isSymbol, hne]
  | _ => rfl

theorem isName {n : String} (hn : n ∈ Expr.operatorKeywords) : t.isName n = false := by
  obtain ⟨kind, line⟩ := t
  cases kind with
  | name m =>
      have hne : m ≠ n := by
        rintro rfl
        exact h hn
      simp [Token.isName, hne]
  | _ => rfl

theorem isOperatorKeyword : Expr.isOperatorKeyword t = false := by
  rw [Expr.isOperatorKeyword, List.any_eq_false]
  intro n hn
  rw [h.isName hn]
  exact Bool.false_ne_true

theorem mono {more : List Symbol} (hmore : symbols ⊆ more) : Plain more t := by
  obtain ⟨kind, line⟩ := t
  cases kind with
  | symbol s => exact hmore h
  | _ => exact h

end Plain

variable {symbols : List Symbol}

/-- Printed tokens whose brackets match, with some symbols outside of them. -/
abbrev Matched (symbols : List Symbol) (kinds : List Token.Kind) : Prop :=
  ∀ line, Balanced (Plain symbols) (onLine line kinds)

namespace Matched

variable {kinds : List Token.Kind}

theorem nil : Matched symbols [] := fun _ => .nil

theorem word {n : String} (hn : n ∉ Expr.operatorKeywords)
    (h : Matched symbols kinds) : Matched symbols (.name n :: kinds) :=
  fun line => .plain rfl rfl rfl hn (h line)

theorem symbol {s : Symbol} (hs : s ∈ symbols) (hopens : s.opens? = none)
    (hcloses : s.closes? = none) (h : Matched symbols kinds) :
    Matched symbols (.symbol s :: kinds) :=
  fun line => .plain (by simp [Token.opens, Token.opens?, hopens])
    (by simp [Token.closes, Token.closes?, hcloses]) rfl hs (h line)

theorem group {opening closing : Symbol} (hopens : opening.opens?.isSome)
    (hcloses : closing.closes?.isSome) {inner : List Symbol} {inside : List Token.Kind}
    (hinside : Matched inner inside) (h : Matched symbols kinds) :
    Matched symbols (.symbol opening :: (inside ++ .symbol closing :: kinds)) := by
  intro line
  rw [onLine_bracketed]
  exact .group hopens hcloses (hinside line) (h line)

theorem mono {more : List Symbol} (h : Matched symbols kinds)
    (hmore : symbols ⊆ more) : Matched more kinds :=
  fun line => (h line).mono fun _ ht => ht.mono hmore

theorem append {more : List Token.Kind} (h : Matched symbols kinds)
    (hmore : Matched symbols more) : Matched symbols (kinds ++ more) := by
  intro line
  rw [onLine_append]
  exact (h line).append (hmore line)

/-- What stands before the bracket that closes printed tokens. -/
theorem bracketed?_close (h : Matched symbols kinds) {closing : Symbol}
    (hcloses : closing.closes?.isSome) (line : Nat) :
    bracketed? (onLine line (kinds ++ [.symbol closing])) = some (onLine line kinds, []) := by
  have hlast : Token.closes ⟨.symbol closing, line⟩ = true := hcloses
  rw [onLine_append]
  exact (h line).bracketed?_close hlast []

/-- Parts with commas between them. -/
theorem commaJoined {parts : List (List Token.Kind)} (h : ∀ part ∈ parts, Matched symbols part) :
    Matched (.comma :: symbols) (commaJoined parts) := by
  induction parts with
  | nil => exact nil
  | cons part parts ih =>
      obtain ⟨hpart, hparts⟩ := List.forall_mem_cons.mp h
      have hfirst := hpart.mono (List.subset_cons_self .comma symbols)
      cases parts with
      | nil =>
          rw [commaJoined_singleton]
          exact hfirst
      | cons next parts =>
          rw [commaJoined_cons_cons]
          exact hfirst.append (symbol List.mem_cons_self rfl rfl (ih hparts))

end Matched

theorem not_operatorKeyword {n : String} (h : isKeyword n = false) :
    n ∉ Expr.operatorKeywords :=
  not_mem_of_not_isKeyword h (by decide)

theorem matched_digits (n : Int) : Matched [.minus] [digits n] :=
  fun line => .plain rfl rfl rfl (show Plain _ ⟨.number _, line⟩ from trivial) .nil

mutual

theorem matched_literal {l : Literal} (h : l.isPlain) : Matched [.minus] (literalKinds l) := by
  cases l with
  | null => exact .word (by decide) .nil
  | bool b => cases b <;> exact .word (by decide) .nil
  | int i =>
      rw [literalKinds]
      split
      · exact .symbol (by decide) rfl rfl (matched_digits i.toInt)
      · exact matched_digits i.toInt
  | float x => cases h
  | str s => exact fun line => .plain rfl rfl rfl trivial .nil
  | list items =>
      rw [Literal.isPlain] at h
      exact .group rfl rfl (.commaJoined (matched_literals h)) .nil

theorem matched_literals {ls : List Literal} (h : Literal.arePlain ls) :
    ∀ part ∈ literalsKinds ls, Matched [.minus] part := by
  cases ls with
  | nil => exact List.forall_mem_nil _
  | cons l rest =>
      rw [Literal.arePlain, Bool.and_eq_true] at h
      exact List.forall_mem_cons.mpr ⟨matched_literal h.1, matched_literals h.2⟩

end

variable {bare : String}

theorem matched_value (hbare : isFreeName bare) {value? : Option Literal}
    (h : value?.all (·.isPlain)) : Matched [.minus] (valueKinds bare value?) := by
  cases value? with
  | none => exact .word (not_operatorKeyword (not_isKeyword_of_isFreeName hbare)) .nil
  | some l => exact matched_literal h

theorem matched_argument (hbare : isFreeName bare) {a : Argument} (h : a.isPrintable) :
    Matched [.assign, .minus] (argumentKinds bare a) := by
  obtain ⟨hname, hvalue⟩ := Argument.of_isPrintable h
  exact .word (not_operatorKeyword (not_isKeyword_of_isFreeName hname))
    (.symbol (by decide) rfl rfl ((matched_value hbare hvalue).mono (by decide)))

theorem matched_arguments (hbare : isFreeName bare) {args : List Argument}
    (h : args.all (·.isPrintable)) :
    ∀ part ∈ args.map (argumentKinds bare), Matched [.assign, .minus] part := by
  rw [List.forall_mem_map]
  intro a ha
  exact matched_argument hbare (List.all_eq_true.mp h a ha)

theorem matched_call (hbare : isFreeName bare) {f : FieldDeclaration} (h : f.isPrintable) :
    Matched [] (callKinds bare f) := by
  obtain ⟨-, hdeclarator, hargs⟩ := FieldDeclaration.of_isPrintable h
  exact .word (not_operatorKeyword (not_isKeyword_of_isDeclaratorName hdeclarator))
    (.group rfl rfl (.commaJoined (matched_arguments hbare hargs)) .nil)

theorem matched_typeHint (optional : Bool) : Matched [] (typeHintKinds optional) := by
  cases optional with
  | false => exact .word (by decide) .nil
  | true =>
      have hinside : Matched [] [.name "str"] := .word (by decide) .nil
      exact .word (by decide) (.group rfl rfl hinside .nil)

theorem matched_field (hbare : isFreeName bare) {f : FieldDeclaration} (h : f.isPrintable) :
    Matched [.colon, .assign] (fieldKinds bare f) := by
  have hname := not_isKeyword_of_isFreeName (FieldDeclaration.of_isPrintable h).1
  have hhint := (matched_typeHint f.optional).mono (List.nil_subset [.colon, .assign])
  have hcall := (matched_call hbare h).mono (List.nil_subset [.colon, .assign])
  exact .word (not_operatorKeyword hname) (.symbol (by decide) rfl rfl
    (hhint.append (.symbol (by decide) rfl rfl hcall)))

/-! ## Lists -/

theorem splitTopLevel_commaJoined (hcomma : .comma ∉ symbols) {parts : List (List Token.Kind)}
    (hne : parts ≠ []) (h : ∀ part ∈ parts, Matched symbols part) (line : Nat) :
    splitTopLevel .comma (onLine line (commaJoined parts)) = parts.map (onLine line) := by
  induction parts with
  | nil => exact absurd rfl hne
  | cons part parts ih =>
      obtain ⟨hpart, hparts⟩ := List.forall_mem_cons.mp h
      have hnone : ∀ t, Plain symbols t → t.isSymbol .comma = false :=
        fun t ht => ht.isSymbol hcomma
      cases parts with
      | nil =>
          rw [commaJoined_singleton]
          exact (hpart line).splitTopLevel_eq hnone
      | cons next parts =>
          have htext : onLine line (commaJoined (part :: next :: parts)) = onLine line part ++
              ⟨.symbol .comma, line⟩ :: onLine line (commaJoined (next :: parts)) := by
            simp [commaJoined_cons_cons, onLine]
          rw [htext, (hpart line).splitTopLevel_separator hnone rfl rfl rfl,
            ih (List.cons_ne_nil _ _) hparts]
          rfl

/-- The parts of a printed list, none of which is empty. -/
theorem parts_commaJoined (hcomma : .comma ∉ symbols) {parts : List (List Token.Kind)}
    (h : ∀ part ∈ parts, Matched symbols part) (hne : ∀ part ∈ parts, part ≠ []) (line : Nat) :
    (splitTopLevel .comma (onLine line (commaJoined parts))).filter (!·.isEmpty) =
      parts.map (onLine line) := by
  cases parts with
  | nil => rfl
  | cons part parts =>
      rw [splitTopLevel_commaJoined hcomma (List.cons_ne_nil _ _) h, List.filter_eq_self]
      intro ts hts
      obtain ⟨p, hp, rfl⟩ := List.mem_map.mp hts
      simpa [onLine] using hne p hp

end DeclaredSchema.Printed
