import DeclaredSchema.Schema.Attribute

/-!
# Snapshots from JSON

A list of collections as a store sends it: an object with the field `collections`, or the bare list.
A collection without id or name and an attribute without key are left out; fields of the wrong type
count as missing.
-/

namespace DeclaredSchema

/-- The document holds no list of collections. -/
inductive SnapshotFault where
  | noCollections
  deriving DecidableEq, Repr

def SnapshotFault.message : SnapshotFault → String
  | .noCollections => "Invalid snapshot: missing collections array"

namespace Snapshot

/-- A field as a literal, unless it is missing, null or has no literal form. -/
def literalField? (j : Json) (name : String) : Option Literal :=
  ((j.field? name).bind Literal.ofJson?).filter (!·.isNull)

def attributeOfJson? (j : Json) : Option RemoteAttribute := do
  let key ← (← j.field? "key").str?
  let remoteType := ((j.field? "type").bind (·.str?)).getD ""
  let format := (j.field? "format").bind (·.str?)
  some {
    key
    kind := Kind.ofRemote? remoteType format
    remoteType
    required := ((j.field? "required").bind (·.bool?)).getD false
    default := literalField? j "default"
    constraints := .ofFn fun c => literalField? j c.wireName }

def attributesOfJson (j : Json) : List RemoteAttribute :=
  (((j.field? "attributes").bind (·.arr?)).getD []).filterMap attributeOfJson?

def collectionOfJson? (j : Json) : Option RemoteCollection := do
  let id ← (← j.field? "$id").str?
  let name ← (← j.field? "name").str?
  some ⟨id, name, attributesOfJson j⟩

/-- The items of a document, whatever they are. -/
def items? (j : Json) : Option (List Json) := ((j.field? "collections").bind (·.arr?)).or j.arr?

def ofJson (j : Json) : Except SnapshotFault Snapshot :=
  match items? j with
  | some items => .ok (items.filterMap collectionOfJson?)
  | none => .error .noCollections

end Snapshot

end DeclaredSchema
