import DeclaredSchema.Schema.Instant
import DeclaredSchema.Schema.Kind

/-!
# Attributes and collections

The same attribute appears in three forms: as a model class declares it, with every value fixed and
ready to be sent, and as a store reports it.
-/

namespace DeclaredSchema

/-- The default of a declared attribute. `now` stands for the instant at which it is sent. -/
inductive DefaultValue where
  | literal (value : Literal)
  | now
  deriving Inhabited, Repr

def DefaultValue.resolve (now : Instant) : DefaultValue → Json
  | .literal l => l.toJson
  | .now => .str now.text

/-- An attribute as it is declared. -/
structure Attribute where
  key : String
  kind : Kind
  required : Bool := false
  /-- `required` was written in the declaration. -/
  requiredExplicit : Bool := false
  optional : Bool := false
  default : Option DefaultValue := none
  constraints : Constraints := {}
  deriving Repr

/-- A collection as one model class declares it. -/
structure Collection where
  name : String
  source : String
  attributes : List Attribute
  deriving Repr

/-- An attribute with every value fixed. -/
structure ConcreteAttribute where
  key : String
  kind : Kind
  required : Bool := false
  default : Option Json := none
  constraints : Constraints := {}
  deriving Repr

/-- A declared attribute at an instant. -/
def Attribute.concrete (a : Attribute) (now : Instant) : ConcreteAttribute where
  key := a.key
  kind := a.kind
  required := a.required
  default := a.default.map (·.resolve now)
  constraints := a.constraints

/-- An attribute as a store reports it. A type without a counterpart has no kind. -/
structure RemoteAttribute where
  key : String
  kind : Option Kind
  remoteType : String
  required : Bool := false
  default : Option Literal := none
  constraints : Constraints := {}
  deriving Repr

structure RemoteCollection where
  id : String
  name : String
  attributes : List RemoteAttribute
  deriving Repr

/-- The first attribute with a key. -/
def RemoteCollection.attribute? (c : RemoteCollection) (key : String) : Option RemoteAttribute :=
  c.attributes.find? (·.key == key)

/-- What a store holds at one moment. -/
abbrev Snapshot := List RemoteCollection

def Snapshot.named (s : Snapshot) (name : String) : List RemoteCollection :=
  s.filter (·.name == name)

end DeclaredSchema
