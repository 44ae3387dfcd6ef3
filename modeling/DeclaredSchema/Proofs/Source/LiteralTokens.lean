import DeclaredSchema.Proofs.Source.ExprTree
import Mathlib.Data.List.Chain

/-! # The tokens of literals

Which tokens are a literal, and with which value: constants, numbers and plain strings, with signs
and parentheses around them, and tuples and lists of such. Nothing else stands in a literal, and no
token in it goes on with the operand before it as a call, a subscript or a binary operator does.
-/

namespace DeclaredSchema.Source

open Printed (commaJoined commaTail)

/-- The value of a token that is a literal by itself. -/
def Token.Kind.literal? : Token.Kind → Option Literal
  | .name "None" => some .null
  | .name "True" => some (.bool true)
  | .name "False" => some (.bool false)
  | .number text => numberLiteral? text
  | .str value true => some (.str value)
  | _ => none

/-- A literal among others: its tokens and its value. -/
structure LiteralItem where
  kinds : List Token.Kind
  value : Literal

/-- The tokens of items with commas between them, and perhaps one behind the last. -/
def series (items : List LiteralItem) (trailing : Bool) : List Token.Kind :=
  commaJoined (items.map (·.kinds)) ++ if trailing then [.symbol .comma] else []

theorem series_false (items : List LiteralItem) :
    series items false = commaJoined (items.map (·.kinds)) :=
  List.append_nil _

/-- Nothing stands behind a comma at the end. -/
theorem series_eq {items : List LiteralItem} {trailing : Bool}
    (behind : trailing = true → items ≠ []) :
    series items trailing =
      commaJoined (items.map (·.kinds) ++ if trailing then [[]] else []) := by
  cases trailing with
  | false => rw [series_false, if_neg Bool.false_ne_true, List.append_nil]
  | true =>
      obtain ⟨i, items, rfl⟩ := List.exists_cons_of_ne_nil (behind rfl)
      simp [series, Printed.commaJoined_cons, commaTail]

/-- The value of several items. -/
def listed (items : List LiteralItem) : Literal := .list (items.map (·.value))

/-- The tokens are a literal with that value. A comma may stand behind the last item of a list or a
tuple, and has to behind the only item of a tuple. -/
inductive Denotes : List Token.Kind → Literal → Prop
  | token {k : Token.Kind} {l : Literal} (h : k.literal? = some l) : Denotes [k] l
  | minus {ks : List Token.Kind} {l m : Literal} (h : Denotes ks l)
      (opposite : l.negate? = some m) : Denotes (.symbol .minus :: ks) m
  | plus {ks : List Token.Kind} {l : Literal} (h : Denotes ks l) : Denotes (.symbol .plus :: ks) l
  | enclosed {ks : List Token.Kind} {l : Literal} (h : Denotes ks l) :
      Denotes (Tree.bracketed .paren ks) l
  | tuple {items : List LiteralItem} {trailing : Bool} (h : ∀ i ∈ items, Denotes i.kinds i.value)
      (alone : items.length = 1 → trailing = true) (behind : trailing = true → items ≠ []) :
      Denotes (Tree.bracketed .paren (series items trailing)) (listed items)
  | list {items : List LiteralItem} {trailing : Bool} (h : ∀ i ∈ items, Denotes i.kinds i.value)
      (behind : trailing = true → items ≠ []) :
      Denotes (Tree.bracketed .square (series items trailing)) (listed items)

/-- The tokens are a tuple without parentheses, whose items have a property. -/
inductive BareTuple (P : List Token.Kind → Literal → Prop) : List Token.Kind → Literal → Prop
  | mk {items : List LiteralItem} {trailing : Bool} (h : ∀ i ∈ items, P i.kinds i.value)
      (some : items ≠ []) (alone : items.length = 1 → trailing = true) :
      BareTuple P (series items trailing) (listed items)

/-- The tokens are a literal with that value where a tuple needs no parentheses. -/
def DenotesValue (ks : List Token.Kind) (l : Literal) : Prop :=
  Denotes ks l ∨ BareTuple Denotes ks l

/-! ## What stands in a literal -/

/-- The tokens that literals are made of. -/
def Token.Kind.isOfLiteral : Token.Kind → Bool
  | .name n => n = "None" || n = "True" || n = "False"
  | .number _ => true
  | .str _ plain => plain
  | .symbol s =>
    [Symbol.plus, .minus, .openParen, .closeParen, .openSquare, .closeSquare, .comma].contains s
  | _ => false

/-- An operand ends with the token. -/
def Token.Kind.endsOperand : Token.Kind → Bool
  | .symbol s => s.closes?.isSome
  | _ => true

/-- The token behind an operand makes a call, a subscript or a binary operation of it. -/
def Token.Kind.continuesOperand : Token.Kind → Bool
  | .symbol s => [Symbol.plus, .minus, .openParen, .openSquare].contains s
  | _ => false

/-- The second token does not go on with an operand that ends with the first. -/
def Parted (k j : Token.Kind) : Prop := k.endsOperand = true → j.continuesOperand = false

/-- Only tokens of literals, none of which goes on with an operand. -/
structure LiteralTokens (ks : List Token.Kind) : Prop where
  alphabet : ∀ k ∈ ks, k.isOfLiteral = true
  parted : ks.IsChain Parted

namespace LiteralTokens

variable {ks js : List Token.Kind} {k : Token.Kind}

theorem nil : LiteralTokens [] := ⟨nofun, .nil⟩

theorem single (h : k.isOfLiteral = true) : LiteralTokens [k] :=
  ⟨List.forall_mem_singleton.mpr h, .singleton k⟩

/-- In front of tokens stands one that does not end an operand. -/
theorem cons (hk : k.isOfLiteral = true) (front : k.endsOperand = false) (h : LiteralTokens ks) :
    LiteralTokens (k :: ks) where
  alphabet := List.forall_mem_cons.mpr ⟨hk, h.alphabet⟩
  parted := by
    refine h.parted.cons fun j _ hends => ?_
    rw [front] at hends
    cases hends

/-- Two runs of tokens, the second of which begins with one that goes on with nothing. -/
theorem append (h : LiteralTokens ks) (hj : LiteralTokens (k :: js))
    (behind : k.continuesOperand = false) : LiteralTokens (ks ++ k :: js) where
  alphabet := List.forall_mem_append.mpr ⟨h.alphabet, hj.alphabet⟩
  parted := by
    refine h.parted.append hj.parted fun i _ j hhead _ => ?_
    obtain rfl := Option.some.inj hhead
    exact behind

theorem bracketed (h : LiteralTokens ks) {b : Bracket} (hb : b ≠ .brace) :
    LiteralTokens (Tree.bracketed b ks) := by
  refine .cons (by revert hb; cases b <;> decide) (by cases b <;> rfl) (h.append (.single ?_) ?_)
  · revert hb
    cases b <;> decide
  · cases b <;> rfl

theorem commaJoined {parts : List (List Token.Kind)} (h : ∀ part ∈ parts, LiteralTokens part) :
    LiteralTokens (commaJoined parts) := by
  induction parts with
  | nil => exact nil
  | cons part parts ih =>
      obtain ⟨hpart, hparts⟩ := List.forall_mem_cons.mp h
      cases parts with
      | nil =>
          rw [Printed.commaJoined_singleton]
          exact hpart
      | cons next parts =>
          rw [Printed.commaJoined_cons_cons]
          exact hpart.append (.cons rfl rfl (ih hparts)) rfl

theorem series {items : List LiteralItem} (h : ∀ i ∈ items, LiteralTokens i.kinds)
    (trailing : Bool) : LiteralTokens (series items trailing) := by
  have hitems : LiteralTokens (Printed.commaJoined (items.map (·.kinds))) :=
    commaJoined (List.forall_mem_map.mpr h)
  cases trailing with
  | false =>
      rw [series_false]
      exact hitems
  | true => exact hitems.append (.single rfl) rfl

end LiteralTokens

theorem Token.Kind.isOfLiteral_of_literal? {k : Token.Kind} {l : Literal}
    (h : k.literal? = some l) : k.isOfLiteral = true := by
  rw [literal?.eq_def] at h
  split at h <;> first | rfl | cases h

theorem Denotes.tokens {ks : List Token.Kind} {l : Literal} (h : Denotes ks l) :
    LiteralTokens ks := by
  induction h with
  | token h => exact .single (Token.Kind.isOfLiteral_of_literal? h)
  | minus _ _ ih => exact .cons rfl rfl ih
  | plus _ ih => exact .cons rfl rfl ih
  | enclosed _ ih => exact ih.bracketed nofun
  | tuple _ _ _ ih => exact (LiteralTokens.series ih _).bracketed nofun
  | list _ _ ih => exact (LiteralTokens.series ih _).bracketed nofun

/-- So there are no names, no operators between operands and no displays but lists and tuples in a
value, and none of its strings is formatted or of bytes. -/
theorem DenotesValue.tokens {ks : List Token.Kind} {l : Literal} (h : DenotesValue ks l) :
    LiteralTokens ks := by
  rcases h with h | ⟨h, -, -⟩
  · exact h.tokens
  · exact .series (fun i hi => (h i hi).tokens) _

end DeclaredSchema.Source
