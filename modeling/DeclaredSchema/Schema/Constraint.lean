import DeclaredSchema.Literal

/-!
# Constraints

The settings that an attribute may carry besides its default. A `Constraints` is a finite map with
one optional literal for each constraint, so two maps with the same entries are equal.
-/

namespace DeclaredSchema

inductive Constraint where
  | size
  | min
  | max
  | elements
  | array
  | relatedCollection
  | relationKind
  | twoWay
  | twoWayKey
  | onDelete
  deriving DecidableEq, Repr

namespace Constraint

def all : List Constraint :=
  [size, min, max, elements, array, relatedCollection, relationKind, twoWay, twoWayKey, onDelete]

theorem mem_all (c : Constraint) : c ∈ all := by cases c <;> decide

/-- The name in descriptions of a schema. -/
def name : Constraint → String
  | size => "size"
  | min => "min"
  | max => "max"
  | elements => "elements"
  | array => "array"
  | relatedCollection => "relatedCollection"
  | relationKind => "relationKind"
  | twoWay => "twoWay"
  | twoWayKey => "twoWayKey"
  | onDelete => "onDelete"

/-- The name in what a store sends and takes. -/
def wireName : Constraint → String
  | relationKind => "relationType"
  | c => c.name

def ofName? (name : String) : Option Constraint := all.find? (·.name == name)

/-- The keyword arguments that set a constraint. -/
def keywords : Constraint → List String
  | size => ["size"]
  | min => ["min"]
  | max => ["max"]
  | elements => ["elements"]
  | array => ["array"]
  | relatedCollection => ["related_collection", "related_collection_id"]
  | relationKind => ["relation_type", "type"]
  | twoWay => ["two_way"]
  | twoWayKey => ["two_way_key"]
  | onDelete => ["on_delete"]

def ofKeyword? (word : String) : Option Constraint := all.find? (·.keywords.contains word)

end Constraint

structure Constraints where
  size : Option Literal := none
  min : Option Literal := none
  max : Option Literal := none
  elements : Option Literal := none
  array : Option Literal := none
  relatedCollection : Option Literal := none
  relationKind : Option Literal := none
  twoWay : Option Literal := none
  twoWayKey : Option Literal := none
  onDelete : Option Literal := none
  deriving Inhabited, Repr

namespace Constraints

def empty : Constraints := {}

def get? (s : Constraints) : Constraint → Option Literal
  | .size => s.size
  | .min => s.min
  | .max => s.max
  | .elements => s.elements
  | .array => s.array
  | .relatedCollection => s.relatedCollection
  | .relationKind => s.relationKind
  | .twoWay => s.twoWay
  | .twoWayKey => s.twoWayKey
  | .onDelete => s.onDelete

/-- The map with the given entries. -/
def ofFn (f : Constraint → Option Literal) : Constraints where
  size := f .size
  min := f .min
  max := f .max
  elements := f .elements
  array := f .array
  relatedCollection := f .relatedCollection
  relationKind := f .relationKind
  twoWay := f .twoWay
  twoWayKey := f .twoWayKey
  onDelete := f .onDelete

/-- Sets an entry, or removes it. -/
def set (s : Constraints) (c : Constraint) (value : Option Literal) : Constraints :=
  ofFn fun d => if d = c then value else s.get? d

/-- Keeps the entries that a test lets through. -/
def filter (p : Constraint → Bool) (s : Constraints) : Constraints :=
  ofFn fun c => if p c then s.get? c else none

/-- The entries of `s`, and those of `other` where `s` has none. -/
def orElse (s other : Constraints) : Constraints := ofFn fun c => (s.get? c).or (other.get? c)

/-- The entries in the order of the constraints. -/
def toList (s : Constraints) : List (Constraint × Literal) :=
  Constraint.all.filterMap fun c => (s.get? c).map (c, ·)

@[simp] theorem get?_empty (c : Constraint) : empty.get? c = none := by cases c <;> rfl

@[simp] theorem get?_ofFn (f : Constraint → Option Literal) (c : Constraint) :
    (ofFn f).get? c = f c := by cases c <;> rfl

theorem ext_get? {s t : Constraints} (h : ∀ c, s.get? c = t.get? c) : s = t := by
  obtain ⟨⟩ := s
  obtain ⟨⟩ := t
  simp only [mk.injEq]
  exact ⟨h .size, h .min, h .max, h .elements, h .array, h .relatedCollection, h .relationKind,
    h .twoWay, h .twoWayKey, h .onDelete⟩

@[simp] theorem get?_set (s : Constraints) (c d : Constraint) (value : Option Literal) :
    (s.set c value).get? d = if d = c then value else s.get? d := get?_ofFn _ _

@[simp] theorem get?_filter (p : Constraint → Bool) (s : Constraints) (c : Constraint) :
    (s.filter p).get? c = if p c then s.get? c else none := get?_ofFn _ _

@[simp] theorem get?_orElse (s other : Constraints) (c : Constraint) :
    (s.orElse other).get? c = (s.get? c).or (other.get? c) := get?_ofFn _ _

end Constraints

end DeclaredSchema
