import DeclaredSchema.Proofs.Source.ExprTree

/-! # What can be assigned to

Names, attributes and subscripts can be assigned to, and tuples and lists of what can be. The shape
of a tree is what the grammar is meant to find out about it while it reads its tokens.
-/

namespace DeclaredSchema.Source

namespace Shape

theorem assignable_ofItems (fit : Bool) : (ofItems fit).assignable = fit := by
  cases fit <;> rfl

theorem single_ofItems (fit : Bool) : (ofItems fit).single = false := by
  cases fit <;> rfl

theorem fitsSequence_behindStar (s : Shape) : s.behindStar.fitsSequence = s.assignable := by
  cases s <;> rfl

theorem fitsSequence_of_ne {s : Shape} (h : s ≠ .starred) : s.fitsSequence = s.assignable := by
  rw [fitsSequence, decide_eq_false h, Bool.or_false]

end Shape

namespace Tree

/-! ## Expressions -/

def Item.operand : Item → Expr
  | .plain e => e
  | .star e => e

namespace Expr

/-- The expression can be assigned to. -/
inductive Assignable : Expr → Prop where
  | name (n : Identifier) : Assignable (.name n)
  | member (value : Expr) (field : Identifier) : Assignable (.member value field)
  | subscript (value : Expr) (first : Slice) (rest : List Slice) :
      Assignable (.subscript value first rest)
  | tuple {items : List Item} (h : ∀ i ∈ items, Assignable i.operand) : Assignable (.tuple items)
  | list {items : List Item} (h : ∀ i ∈ items, Assignable i.operand) : Assignable (.list items)
  | group {e : Expr} (h : Assignable e) : Assignable (.group e)

/-- The expression can be assigned to with an operator or an annotation. -/
inductive Single : Expr → Prop where
  | name (n : Identifier) : Single (.name n)
  | member (value : Expr) (field : Identifier) : Single (.member value field)
  | subscript (value : Expr) (first : Slice) (rest : List Slice) :
      Single (.subscript value first rest)
  | group {e : Expr} (h : Single e) : Single (.group e)

end Expr

mutual

def Expr.shape : Expr → Shape
  | .name _ => .name
  | .member _ _ => .member
  | .subscript _ _ _ => .member
  | .tuple items => .ofItems ((items.map (·.shape)).all (·.fitsSequence))
  | .list items => .ofItems ((items.map (·.shape)).all (·.fitsSequence))
  | .group e => e.shape
  | .constant _ | .number _ | .string _ _ | .ellipsis | .call _ _ | .set _ _ | .dict _
  | .comprehension _ _ _ _ | .dictComprehension _ _ _ _ | .unary _ _ | .binary _ _ _ | .power _ _
  | .compare _ _ _ | .negation _ | .conditional _ _ _ | .lambda _ _ | .await _ | .walrus _ _
  | .yield _ | .yieldFrom _ => .value

def Item.shape : Item → Shape
  | .plain e => e.shape
  | .star e => e.shape.behindStar

end

theorem Expr.shape_ne_starred (e : Expr) : e.shape ≠ .starred := by
  cases e with
  | tuple items | list items =>
      rw [shape, Shape.ofItems]
      split <;> decide
  | group e =>
      rw [shape]
      exact e.shape_ne_starred
  | _ => simp [shape]

theorem Item.fitsSequence_shape (i : Item) : i.shape.fitsSequence = i.operand.shape.assignable := by
  cases i with
  | plain e =>
      rw [Item.shape]
      exact Shape.fitsSequence_of_ne e.shape_ne_starred
  | star e =>
      rw [Item.shape]
      exact Shape.fitsSequence_behindStar _

/-- A tuple or list can be assigned to if all that stands in it can be. -/
theorem assignable_ofItems_map {items : List Item} :
    (Shape.ofItems ((items.map (·.shape)).all (·.fitsSequence))).assignable = true ↔
      ∀ i ∈ items, i.operand.shape.assignable = true := by
  rw [Shape.assignable_ofItems, List.all_map, List.all_eq_true]
  simp only [Function.comp_apply, Item.fitsSequence_shape]

mutual

theorem Expr.shape_assignable (e : Expr) : e.shape.assignable = true ↔ e.Assignable := by
  cases e with
  | name n =>
      rw [Expr.shape]
      exact iff_of_true rfl (.name n)
  | member v n =>
      rw [Expr.shape]
      exact iff_of_true rfl (.member v n)
  | subscript v first rest =>
      rw [Expr.shape]
      exact iff_of_true rfl (.subscript v first rest)
  | tuple items =>
      have ih (i : Item) (hi : i ∈ items) := i.shape_assignable
      rw [Expr.shape, assignable_ofItems_map]
      constructor
      · exact fun h => .tuple fun i hi => (ih i hi).mp (h i hi)
      · intro h i hi
        cases h with
        | tuple h => exact (ih i hi).mpr (h i hi)
  | list items =>
      have ih (i : Item) (hi : i ∈ items) := i.shape_assignable
      rw [Expr.shape, assignable_ofItems_map]
      constructor
      · exact fun h => .list fun i hi => (ih i hi).mp (h i hi)
      · intro h i hi
        cases h with
        | list h => exact (ih i hi).mpr (h i hi)
  | group e =>
      rw [Expr.shape, e.shape_assignable]
      constructor
      · exact .group
      · intro h
        cases h with
        | group h => exact h
  | _ => exact iff_of_false (by simp [Expr.shape, Shape.assignable]) (by rintro ⟨⟩)

theorem Item.shape_assignable (i : Item) :
    i.operand.shape.assignable = true ↔ i.operand.Assignable := by
  cases i with
  | plain e => exact e.shape_assignable
  | star e => exact e.shape_assignable

end

theorem Expr.shape_single (e : Expr) : e.shape.single = true ↔ e.Single := by
  cases e with
  | name n =>
      rw [shape]
      exact iff_of_true rfl (.name n)
  | member v n =>
      rw [shape]
      exact iff_of_true rfl (.member v n)
  | subscript v first rest =>
      rw [shape]
      exact iff_of_true rfl (.subscript v first rest)
  | tuple items | list items =>
      rw [shape, Shape.single_ofItems]
      exact iff_of_false Bool.false_ne_true (by rintro ⟨⟩)
  | group e =>
      rw [shape, e.shape_single]
      constructor
      · exact .group
      · intro h
        cases h with
        | group h => exact h
  | _ => exact iff_of_false (by simp [shape, Shape.single]) (by rintro ⟨⟩)

/-! ## Targets of loops -/

def Target.shape : Target → Shape
  | .name _ => .name
  | .member _ _ => .member
  | .subscript _ _ _ => .member
  | .tuple _ => .sequence
  | .list _ => .sequence
  | .group t => t.shape

def TargetItem.shape : TargetItem → Shape
  | .plain t => t.shape
  | .star _ => .starred

theorem Target.shape_assignable (t : Target) : t.shape.assignable = true := by
  cases t with
  | group t => exact t.shape_assignable
  | _ => rfl

theorem Target.shape_ne_starred (t : Target) : t.shape ≠ .starred := by
  intro h
  have hassignable := t.shape_assignable
  rw [h] at hassignable
  cases hassignable

theorem TargetItem.ofItems_shape (items : List TargetItem) :
    Shape.ofItems (items.all fun i => i.shape.fitsSequence) = .sequence := by
  have hall : items.all (fun i => i.shape.fitsSequence) = true := by
    rw [List.all_eq_true]
    intro i _
    cases i with
    | plain t => exact (Shape.fitsSequence_of_ne t.shape_ne_starred).trans t.shape_assignable
    | star t => rfl
  rw [hall]
  rfl

end Tree

end DeclaredSchema.Source
