import DeclaredSchema.Store

/-!
# The store in memory

A store that keeps its collections in a list and every call in a log. Names can be set to fail. A
call that fails changes nothing but the log.
-/

namespace DeclaredSchema

/-- A call as it was made, whether it failed or not. -/
inductive StoreCall where
  | createCollection (name : String)
  | createAttribute (collectionId : String) (sent : ConcreteAttribute)
  | updateAttribute (collectionId : String) (sent : ConcreteAttribute)
  deriving Repr

namespace MemoryStore

inductive Fault where
  /-- The name is set to fail. -/
  | refused (name : String)
  | unknownCollection (id : String)
  | attributeExists (key : String)
  | unknownAttribute (key : String)
  deriving DecidableEq, Repr

def Fault.message : Fault → String
  | .refused name => "rejected by store: " ++ name
  | .unknownCollection id => "collection not found: " ++ id
  | .attributeExists key => "attribute already exists: " ++ key
  | .unknownAttribute key => "attribute not found: " ++ key

end MemoryStore

structure MemoryStore where
  collections : Snapshot
  /-- The calls so far, latest first. -/
  log : List StoreCall := []
  /-- Collection names and attribute keys whose calls fail. -/
  failing : List String := []
  /-- The number of the next collection id. -/
  nextId : Nat := 1
  deriving Repr

namespace MemoryStore

def ofSnapshot (snapshot : Snapshot) : MemoryStore := { collections := snapshot }

def calls (s : MemoryStore) : List StoreCall := s.log.reverse

def failOn (s : MemoryStore) (name : String) : MemoryStore :=
  { s with failing := name :: s.failing }

def record (s : MemoryStore) (call : StoreCall) : MemoryStore := { s with log := call :: s.log }

def generatedId (n : Nat) : String := "col" ++ toString n

/-- An attribute as the store keeps it. -/
def stored (a : ConcreteAttribute) : RemoteAttribute where
  key := a.key
  kind := some a.kind
  remoteType := a.kind.name
  required := a.required
  default := a.default.bind Literal.ofJson?
  constraints := a.constraints

/-- Changes the first collection with an id; fails if there is none or the change fails. -/
def changeCollection (id : String)
    (change : List RemoteAttribute → Except Fault (List RemoteAttribute)) :
    Snapshot → Except Fault Snapshot
  | [] => .error (.unknownCollection id)
  | c :: rest =>
    if c.id = id then
      match change c.attributes with
      | .ok attributes => .ok ({ c with attributes } :: rest)
      | .error e => .error e
    else match changeCollection id change rest with
      | .ok rest => .ok (c :: rest)
      | .error e => .error e

/-- A new attribute comes last; its key must not be taken. -/
def addAttribute (a : ConcreteAttribute) (attributes : List RemoteAttribute) :
    Except Fault (List RemoteAttribute) :=
  if attributes.any (·.key == a.key) then .error (.attributeExists a.key)
  else .ok (attributes ++ [stored a])

/-- The first attribute of the key is replaced. -/
def replaceAttribute (a : ConcreteAttribute) :
    List RemoteAttribute → Except Fault (List RemoteAttribute)
  | [] => .error (.unknownAttribute a.key)
  | e :: rest =>
    if e.key = a.key then .ok (stored a :: rest)
    else match replaceAttribute a rest with
      | .ok rest => .ok (e :: rest)
      | .error f => .error f

/-- Carries a change of the collections out unless the name is set to fail. -/
def attempt (s : MemoryStore) (name : String) (change : Snapshot → Except Fault Snapshot) :
    Except Fault Unit × MemoryStore :=
  if s.failing.contains name then (.error (.refused name), s)
  else match change s.collections with
    | .ok collections => (.ok (), { s with collections })
    | .error e => (.error e, s)

def createCollection (name : String) (s : MemoryStore) : Except Fault String × MemoryStore :=
  let s := s.record (.createCollection name)
  if s.failing.contains name then (.error (.refused name), s)
  else
    let id := generatedId s.nextId
    (.ok id, { s with collections := s.collections ++ [⟨id, name, []⟩], nextId := s.nextId + 1 })

def createAttribute (id : String) (a : ConcreteAttribute) (s : MemoryStore) :
    Except Fault Unit × MemoryStore :=
  (s.record (.createAttribute id a)).attempt a.key (changeCollection id (addAttribute a))

def updateAttribute (id : String) (a : ConcreteAttribute) (s : MemoryStore) :
    Except Fault Unit × MemoryStore :=
  (s.record (.updateAttribute id a)).attempt a.key (changeCollection id (replaceAttribute a))

/-- The name that makes listing fail. -/
def listingName : String := "list_collections"

def list (s : MemoryStore) : Except Fault Snapshot × MemoryStore :=
  if s.failing.contains listingName then (.error (.refused listingName), s)
  else (.ok s.collections, s)

/-- The store in memory as a store. -/
def store : SchemaStore MemoryStore Fault where
  list := list
  createCollection := createCollection
  createAttribute := createAttribute
  updateAttribute := updateAttribute

end MemoryStore

end DeclaredSchema
