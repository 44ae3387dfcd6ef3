import DeclaredSchema.Proofs.Declaration.OptionalSpellings
import Mathlib.Data.Prod.Lex
import Mathlib.Logic.Relation

/-! # Strings within strings end

Whether an annotation is optional turns on its parts, and on what the strings among them are written
for, in which there may be strings again. One look is `optionalStep`, and `Asks` says what it may
ask next. Every text that is asked is shorter than the text it was found in, so the questions come
to an end, on every expression, and the looks have one answer (`isOptional`).
-/

namespace DeclaredSchema

open Source Printed Relation

/-! ## One look, and what it asks -/

/-- Whether an annotation is optional, given the answers for its parts and for what the strings
among them are written for. -/
def optionalStep (ask : Expr → Bool) : Expr → Bool
  | .subscript value index => match value.tailName? with
    | some "Optional" => true
    | some "Union" => match index with
      | .tuple members => members.any fun e => e.isNone || ask e
      | other => other.isNone
    | some "Annotated" => match index with
      | .tuple members => members.head?.any ask
      | other => ask other
    | _ => false
  | .union members => members.any fun e => e.isNone || ask e
  | .literal (.str text) => (forwardTokens? text).any fun tokens => ask (.ofTokens tokens)
  | _ => false

/-- A part of an annotation that is asked next. -/
inductive AsksPart : Expr → Expr → Prop where
  | member {members : List Expr} {e : Expr} (mem : e ∈ members) : AsksPart (.union members) e
  | unionMember {value : Expr} {members : List Expr} {e : Expr}
      (union : value.tailName? = some "Union") (mem : e ∈ members) :
      AsksPart (.subscript value (.tuple members)) e
  | annotatedFirst {value e : Expr} {others : List Expr}
      (annotated : value.tailName? = some "Annotated") :
      AsksPart (.subscript value (.tuple (e :: others))) e
  | annotatedAlone {value index : Expr} (annotated : value.tailName? = some "Annotated")
      (alone : ∀ members, index ≠ .tuple members) : AsksPart (.subscript value index) index

/-- An expression that is asked next: a part, or what a string is written for. -/
inductive Asks : Expr → Expr → Prop where
  | part {e f : Expr} (h : AsksPart e f) : Asks e f
  | text {text : String} {tokens : List Token} (h : forwardTokens? text = some tokens) :
      Asks (.literal (.str text)) (.ofTokens tokens)

theorem optionalStep_subscript (ask : Expr → Bool) (value : Expr) {index : Expr}
    (alone : ∀ members, index ≠ .tuple members) :
    optionalStep ask (.subscript value index) = match value.tailName? with
      | some "Optional" => true
      | some "Union" => index.isNone
      | some "Annotated" => ask index
      | _ => false := by
  cases index with
  | tuple members => exact absurd rfl (alone members)
  | _ => rfl

/-- A look turns on the answers to what it asks, and on nothing else. -/
theorem optionalStep_congr {f g : Expr → Bool} {e : Expr} (h : ∀ e', Asks e e' → f e' = g e') :
    optionalStep f e = optionalStep g e := by
  have hany {members : List Expr} (hmembers : ∀ m ∈ members, Asks e m) :
      (members.any fun m => m.isNone || f m) = members.any fun m => m.isNone || g m := by
    rw [Bool.eq_iff_iff, List.any_eq_true, List.any_eq_true]
    exact exists_congr fun m => and_congr_right fun hm => by rw [h m (hmembers m hm)]
  cases e with
  | subscript value index =>
      by_cases htuple : ∃ members, index = .tuple members
      · obtain ⟨members, rfl⟩ := htuple
        rw [optionalStep, optionalStep]
        split
        · rfl
        · next hunion => exact hany fun m hm => .part (.unionMember hunion hm)
        · next hannotated =>
            cases members with
            | nil => rfl
            | cons m others => exact h m (.part (.annotatedFirst hannotated))
        · rfl
      · have halone := not_exists.mp htuple
        rw [optionalStep_subscript f value halone, optionalStep_subscript g value halone]
        split
        · rfl
        · rfl
        · next hannotated => exact h index (.part (.annotatedAlone hannotated halone))
        · rfl
  | union members => exact hany fun m hm => .part (.member hm)
  | literal l =>
      cases l with
      | str text =>
          rw [optionalStep, optionalStep]
          cases htext : forwardTokens? text with
          | none => rfl
          | some tokens => exact h _ (.text htext)
      | _ => rfl
  | _ => rfl

theorem anyOptionalWith_eq (forward : String → Bool) (es : List Expr) :
    anyOptionalWith forward es = es.any fun e => e.isNone || isOptionalWith forward e := by
  induction es with
  | nil => rfl
  | cons e es ih => rw [anyOptionalWith, ih, List.any_cons]

theorem firstOptionalWith_eq (forward : String → Bool) (es : List Expr) :
    firstOptionalWith forward es = es.head?.any (isOptionalWith forward) := by
  cases es <;> rfl

/-- Whether an annotation is optional is told by one look at it. -/
theorem isOptional_eq_step (e : Expr) : isOptional e = optionalStep isOptional e := by
  have hask : isOptional = isOptionalWith isOptionalText := funext isOptional_eq
  cases e with
  | subscript value index =>
      by_cases htuple : ∃ members, index = .tuple members
      · obtain ⟨members, rfl⟩ := htuple
        rewrite [hask, isOptionalWith, optionalStep, anyOptionalWith_eq, firstOptionalWith_eq]
        rfl
      · have halone := not_exists.mp htuple
        rewrite [hask, isOptionalWith_subscript _ value halone,
          optionalStep_subscript _ value halone]
        rfl
  | union members => rw [hask, isOptionalWith, optionalStep, anyOptionalWith_eq]
  | literal l =>
      cases l with
      | str text =>
          rw [isOptional_eq, isOptionalWith, isOptionalText, optionalStep]
          cases forwardTokens? text <;> rfl
      | _ => rfl
  | _ => rfl

/-! ## Why the questions end -/

theorem longestText_le_of_mem {es : List Expr} {e : Expr} (h : e ∈ es) :
    e.longestText ≤ longestTextOf es := by
  induction es with
  | nil => simp at h
  | cons f es ih =>
      rw [longestTextOf]
      rcases List.mem_cons.mp h with rfl | h
      · exact Nat.le_max_left _ _
      · exact Nat.le_trans (ih h) (Nat.le_max_right _ _)

namespace AsksPart

variable {e f : Expr}

/-- No string in a part is longer than those of the whole. -/
theorem longestText_le (h : AsksPart e f) : f.longestText ≤ e.longestText := by
  cases h with
  | member mem => exact longestText_le_of_mem mem
  | unionMember _ mem => exact Nat.le_trans (longestText_le_of_mem mem) (Nat.le_max_right _ _)
  | annotatedFirst =>
      exact Nat.le_trans (longestText_le_of_mem List.mem_cons_self) (Nat.le_max_right _ _)
  | annotatedAlone => exact Nat.le_max_right _ _

theorem sizeOf_lt (h : AsksPart e f) : sizeOf f < sizeOf e := by
  cases h with
  | member mem =>
      have hsize := List.sizeOf_lt_of_mem mem
      rw [Expr.union.sizeOf_spec]
      omega
  | unionMember _ mem =>
      have hsize := List.sizeOf_lt_of_mem mem
      rw [Expr.subscript.sizeOf_spec, Expr.tuple.sizeOf_spec]
      omega
  | annotatedFirst =>
      rw [Expr.subscript.sizeOf_spec, Expr.tuple.sizeOf_spec, List.cons.sizeOf_spec]
      omega
  | annotatedAlone =>
      rw [Expr.subscript.sizeOf_spec]
      omega

theorem longestText_le_of_reaches (h : ReflTransGen AsksPart e f) :
    f.longestText ≤ e.longestText := by
  induction h with
  | refl => exact Nat.le_refl _
  | tail _ hpart ih => exact Nat.le_trans hpart.longestText_le ih

theorem eq_of_reaches_unmodelled (h : ReflTransGen AsksPart .unmodelled f) : f = .unmodelled := by
  rcases h.cases_head with rfl | ⟨_, hpart, _⟩
  · rfl
  · cases hpart

end AsksPart

/-- A string that is found among the parts of what a text is written for is shorter than it. -/
theorem length_lt_of_reaches {text inner : String} {tokens : List Token}
    (h : forwardTokens? text = some tokens)
    (hreaches : ReflTransGen AsksPart (.ofTokens tokens) (.literal (.str inner))) :
    inner.length < text.length := by
  rcases longestText_forward h with hshorter | hnothing
  · exact Nat.lt_of_le_of_lt (AsksPart.longestText_le_of_reaches hreaches) hshorter
  · rw [hnothing] at hreaches
    cases AsksPart.eq_of_reaches_unmodelled hreaches

/-- What is asked has shorter strings in it, or it is smaller and its strings are no longer. -/
theorem Asks.decreases {e f : Expr} (h : Asks e f) :
    Prod.Lex (· < ·) (· < ·) (f.longestText, sizeOf f) (e.longestText, sizeOf e) := by
  have hsmaller (hle : f.longestText ≤ e.longestText) (hlt : sizeOf f < sizeOf e) :
      Prod.Lex (· < ·) (· < ·) (f.longestText, sizeOf f) (e.longestText, sizeOf e) := by
    rcases Nat.lt_or_eq_of_le hle with hshorter | hsame
    · exact .left _ _ hshorter
    · rw [hsame]
      exact .right _ hlt
  cases h with
  | part h => exact hsmaller h.longestText_le h.sizeOf_lt
  | text h =>
      rcases longestText_forward h with hshorter | hnothing
      · exact .left _ _ hshorter
      · refine hsmaller (hnothing ▸ Nat.zero_le _) ?_
        rw [hnothing, Expr.unmodelled.sizeOf_spec, Expr.literal.sizeOf_spec,
          Literal.str.sizeOf_spec]
        omega

/-- Every sequence of questions ends. -/
theorem wellFounded_asks : WellFounded fun f e => Asks e f :=
  Subrelation.wf Asks.decreases
    (InvImage.wf (fun e : Expr => (e.longestText, sizeOf e))
      (WellFounded.prod_lex Nat.lt_wfRel.wf Nat.lt_wfRel.wf))

/-- The looks at all expressions have one answer together. -/
theorem eq_isOptional_of_step {f : Expr → Bool} (h : ∀ e, f e = optionalStep f e) :
    f = isOptional := by
  funext e
  induction e using wellFounded_asks.induction with
  | _ e ih => rw [h e, isOptional_eq_step e, optionalStep_congr ih]

/-- Quoted annotations end within each other. The values of the strings of a text, with two quotes
for each, are no longer than the text. So a string that is found in the reading of a string is
shorter than that one; the questions that looks at annotations ask come to an end on every
expression; and taking the looks as a recursion determines all answers. -/
theorem quoted_annotations_end :
    (∀ text tokens, tokenize text = .ok tokens → stringSizes tokens ≤ text.length) ∧
    (∀ text tokens inner, forwardTokens? text = some tokens →
      ReflTransGen AsksPart (.ofTokens tokens) (.literal (.str inner)) →
      inner.length < text.length) ∧
    WellFounded (fun f e => Asks e f) ∧
    (∀ (f g : Expr → Bool) (e : Expr), (∀ e', Asks e e' → f e' = g e') →
      optionalStep f e = optionalStep g e) ∧
    ∀ f : Expr → Bool, (∀ e, f e = optionalStep f e) ↔ f = isOptional := by
  refine ⟨fun _ _ => stringSizes_tokenize, fun _ _ _ => length_lt_of_reaches, wellFounded_asks,
    fun _ _ _ => optionalStep_congr, fun f => ⟨eq_isOptional_of_step, ?_⟩⟩
  rintro rfl
  exact isOptional_eq_step

/-- An optional type in quotes beside another one, in quotes again. -/
theorem quoted_annotations_end_union :
    let tokens := onLine 1 [.name "int", .symbol .bar, .str "Optional[str]" true]
    forwardTokens? "int | 'Optional[str]'" = some tokens ∧
      ReflTransGen AsksPart (.ofTokens tokens) (.literal (.str "Optional[str]")) ∧
      "Optional[str]".length < "int | 'Optional[str]'".length := by
  intro tokens
  have htokens : forwardTokens? "int | 'Optional[str]'" = some tokens := by
    rw [forwardTokens?, tokenize_eq_steps]
    with_unfolding_all rfl
  have hint : TypeForm [.name "int"] := .name (by decide) .nil
  have hform : TypeForm ([.name "int"] ++ [.symbol .bar, .str "Optional[str]" true]) :=
    .union hint (.text "Optional[str]")
  have hread : Expr.ofTokens tokens = .union [hintOf [.name "int"],
      hintOf [.str "Optional[str]" true]] := hintOf_members hform (by decide)
  have hreaches : ReflTransGen AsksPart (.ofTokens tokens) (.literal (.str "Optional[str]")) := by
    rw [hread, hintOf_text]
    exact .single (.member (by simp))
  exact ⟨htokens, hreaches, quoted_annotations_end.2.1 _ _ _ htokens hreaches⟩

end DeclaredSchema
