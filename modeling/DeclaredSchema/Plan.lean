import DeclaredSchema.Schema.Attribute

/-!
# Plans

A plan is a list of operations on a store, with a record of everything that was left out and why.
No operation deletes anything.
-/

namespace DeclaredSchema

inductive PlanMode where
  /-- A collection that exists is left alone. -/
  | createOnly
  /-- An existing collection gets the attributes it lacks, and the others are updated. -/
  | update
  deriving DecidableEq, Repr

namespace PlanMode

def label : PlanMode → String
  | createOnly => "create-only"
  | update => "update"

end PlanMode

/-- The collection that an attribute is created in. -/
inductive CollectionRef where
  | existing (id name : String)
  /-- Created earlier in the same plan; its id is known only when the plan is carried out. -/
  | pending (name : String)
  deriving DecidableEq, Repr

def CollectionRef.name : CollectionRef → String
  | existing _ name => name
  | pending name => name

inductive Operation where
  | createCollection (collection : Collection)
  | createAttribute (collection : CollectionRef) (declared : Attribute)
  | updateAttribute (collectionId collectionName : String) (declared : Attribute)
      (existing : RemoteAttribute)
  deriving Repr

namespace Operation

def collectionName : Operation → String
  | createCollection c => c.name
  | createAttribute c _ => c.name
  | updateAttribute _ name _ _ => name

/-- An attribute with its collection and kind. -/
def attributeText (collection : String) (a : Attribute) : String :=
  collection ++ "." ++ a.key ++ " (" ++ a.kind.name ++ ")"

def text : Operation → String
  | createCollection c => "create collection " ++ c.name
  | createAttribute c a => "create attribute " ++ attributeText c.name a
  | updateAttribute _ name a _ => "update attribute " ++ attributeText name a

def createsCollection : Operation → Bool
  | createCollection _ => true
  | _ => false

def createsAttribute : Operation → Bool
  | createAttribute _ _ => true
  | _ => false

def updatesAttribute : Operation → Bool
  | updateAttribute _ _ _ _ => true
  | _ => false

end Operation

/-- Why the store's schema does not fit a declaration. -/
inductive LookupFault where
  | ambiguousCollection (count : Nat)
  | kindMismatch (key remoteType : String) (declared : Kind)
  deriving DecidableEq, Repr

namespace LookupFault

def reason : LookupFault → String
  | ambiguousCollection count => toString count ++ " remote collections share this name"
  | kindMismatch key remoteType declared =>
    "attribute '" ++ key ++ "' is " ++ remoteType ++ " remotely but declared as " ++ declared.name

/-- The message about a collection. -/
def message (f : LookupFault) (collection : String) : String :=
  "lookup failed for " ++ collection ++ ": " ++ f.reason

end LookupFault

inductive SkipReason where
  /-- In create-only mode an existing collection is never touched. -/
  | collectionExists
  /-- The declaration at this position repeats a key; the last one counts. -/
  | superseded (position : Nat)
  /-- Two classes give one collection name; the first counts. -/
  | nameCollision (first second : String)
  | lookup (fault : LookupFault)
  deriving DecidableEq, Repr

/-- A part of a declaration that a plan leaves out. -/
structure Skipped where
  collection : String
  key : Option String
  reason : SkipReason
  deriving DecidableEq, Repr

namespace Skipped

def reasonText (s : Skipped) : String :=
  match s.reason with
  | .collectionExists => "collection already exists"
  | .superseded position => "superseded by declaration #" ++ toString (position + 1)
  | .nameCollision first second =>
    "name also declared in " ++ first ++ " (kept) and " ++ second
  | .lookup fault => fault.message s.collection

def text (s : Skipped) : String :=
  match s.key with
  | some key => s.collection ++ "." ++ key ++ ": " ++ s.reasonText
  | none => s.collection ++ ": " ++ s.reasonText

end Skipped

structure Plan where
  operations : List Operation
  skipped : List Skipped
  deriving Repr

namespace Plan

def empty : Plan := ⟨[], []⟩

def isEmpty (p : Plan) : Bool := p.operations.isEmpty

/-- One plan after another. -/
def append (p q : Plan) : Plan := ⟨p.operations ++ q.operations, p.skipped ++ q.skipped⟩

def collectionsToCreate (p : Plan) : Nat := p.operations.countP (·.createsCollection)

def attributesToCreate (p : Plan) : Nat := p.operations.countP (·.createsAttribute)

def attributesToUpdate (p : Plan) : Nat := p.operations.countP (·.updatesAttribute)

end Plan

end DeclaredSchema
