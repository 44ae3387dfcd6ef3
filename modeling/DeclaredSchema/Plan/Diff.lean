import DeclaredSchema.Plan

/-!
# Planning

The plan for a list of declared collections against what a store holds. Operations follow the
classes and, within a class, its attributes. Of two classes with one name the first counts; of two
declarations of one key the first gives the place and the last the value.
-/

namespace DeclaredSchema

namespace Plan

/-- Puts a declaration in: in the place of an earlier one of the same key, or at the end. -/
def putAttribute (a : Attribute) : List Attribute → List Attribute
  | [] => [a]
  | b :: rest => if b.key = a.key then a :: rest else b :: putAttribute a rest

/-- The attributes with each key once: first place, last value. -/
def collapse (attributes : List Attribute) : List Attribute :=
  attributes.foldl (fun kept a => putAttribute a kept) []

/-- The repeated declarations of a class, with `seen` the keys before position `position`. -/
def supersededFrom (collection : String) (seen : List String) (position : Nat) :
    List Attribute → List Skipped
  | [] => []
  | a :: rest =>
    if seen.contains a.key then
      ⟨collection, some a.key, .superseded position⟩ ::
        supersededFrom collection seen (position + 1) rest
    else supersededFrom collection (a.key :: seen) (position + 1) rest

def superseded (c : Collection) : List Skipped := supersededFrom c.name [] 0 c.attributes

/-- A collection that the store lacks is created with all its attributes. -/
def forNew (c : Collection) : Plan where
  operations := .createCollection { c with attributes := collapse c.attributes } ::
    (collapse c.attributes).map (.createAttribute (.pending c.name))
  skipped := []

/-- What becomes of an attribute of a collection that the store holds. -/
def forAttribute (remote : RemoteCollection) (a : Attribute) : Plan :=
  match remote.attribute? a.key with
  | none => ⟨[.createAttribute (.existing remote.id remote.name) a], []⟩
  | some e =>
    if e.kind = some a.kind then ⟨[.updateAttribute remote.id remote.name a e], []⟩
    else ⟨[], [⟨remote.name, some a.key, .lookup (.kindMismatch a.key e.remoteType a.kind)⟩]⟩

/-- The plan for a collection that the store holds. -/
def forExisting (remote : RemoteCollection) (c : Collection) : Plan :=
  ((collapse c.attributes).map (forAttribute remote)).foldr append empty

/-- A collection that is left out as a whole. -/
def leaveOut (c : Collection) (reason : SkipReason) : Plan := ⟨[], [⟨c.name, none, reason⟩]⟩

/-- The plan for the first class of a collection name, given what the store holds of that name. -/
def forRemotes (c : Collection) (mode : PlanMode) : List RemoteCollection → Plan
  | [] => forNew c
  | remote :: others => match mode with
    | .createOnly => leaveOut c .collectionExists
    | .update =>
      if others.isEmpty then forExisting remote c
      else leaveOut c (.lookup (.ambiguousCollection (others.length + 1)))

/-- The plan for a class, given the classes before it. -/
def forClass (snapshot : Snapshot) (mode : PlanMode) (before : List Collection) (c : Collection) :
    Plan :=
  match before.find? (·.name == c.name) with
  | some first => leaveOut c (.nameCollision first.source c.source)
  | none => append ⟨[], superseded c⟩ (forRemotes c mode (snapshot.named c.name))

/-- The plan for classes that come after others. -/
def after (snapshot : Snapshot) (mode : PlanMode) (before : List Collection) :
    List Collection → Plan
  | [] => empty
  | c :: rest =>
    append (forClass snapshot mode before c) (after snapshot mode (before ++ [c]) rest)

end Plan

/-- The operations that bring a store to what is declared. -/
def plan (collections : List Collection) (snapshot : Snapshot) (mode : PlanMode) : Plan :=
  Plan.after snapshot mode [] collections

end DeclaredSchema
