import DeclaredSchema.Schema.Constraint
import DeclaredSchema.Text.Alphabet

/-!
# Kinds of attributes

The nine kinds, with everything that depends on the kind alone: how a model class declares it, how
a store calls it, and which settings it takes.
-/

namespace DeclaredSchema

inductive Kind where
  | string
  | integer
  | float
  | boolean
  | datetime
  | email
  | ip
  | enum
  | relationship
  deriving DecidableEq, Repr

namespace Kind

def all : List Kind :=
  [string, integer, float, boolean, datetime, email, ip, enum, relationship]

theorem mem_all (k : Kind) : k ∈ all := by cases k <;> decide

/-- The name of a kind, which is also its part of a store's addresses. -/
def name : Kind → String
  | string => "string"
  | integer => "integer"
  | float => "float"
  | boolean => "boolean"
  | datetime => "datetime"
  | email => "email"
  | ip => "ip"
  | enum => "enum"
  | relationship => "relationship"

def ofName? (name : String) : Option Kind := all.find? (·.name == name)

/-- The class that declares an attribute of the kind. -/
def declarator : Kind → String
  | string => "StringAttribute"
  | integer => "IntegerAttribute"
  | float => "FloatAttribute"
  | boolean => "BooleanAttribute"
  | datetime => "DatetimeAttribute"
  | email => "EmailAttribute"
  | ip => "IPAddressAttribute"
  | enum => "EnumAttribute"
  | relationship => "RelationshipAttribute"

/-- The labels of the kind in lower case, without the word attribute at their end. -/
def aliases : Kind → List String
  | string => ["string", "str"]
  | integer => ["integer", "int"]
  | float => ["float", "double"]
  | boolean => ["boolean", "bool"]
  | datetime => ["datetime"]
  | email => ["email"]
  | ip => ["ipaddress", "ip"]
  | enum => ["enum"]
  | relationship => ["relationship"]

def constraints : Kind → List Constraint
  | string => [.size, .array]
  | integer => [.min, .max, .array]
  | float => [.min, .max, .array]
  | boolean => [.array]
  | datetime => [.array]
  | email => [.array]
  | ip => [.array]
  | enum => [.elements, .array]
  | relationship => [.relatedCollection, .relationKind, .twoWay, .twoWayKey, .onDelete]

def allows (k : Kind) (c : Constraint) : Bool := k.constraints.contains c

def acceptsDefault : Kind → Bool
  | relationship => false
  | _ => true

/-- The kind of an attribute that a store describes by a type and a format. -/
def ofRemote? (type : String) (format : Option String) : Option Kind :=
  if type = "string" then
    if format = some "email" then some email
    else if format = some "ip" then some ip
    else if format = some "enum" then some enum
    else some string
  else if type = "integer" then some integer
  else if type = "double" || type = "float" then some float
  else if type = "boolean" then some boolean
  else if type = "datetime" then some datetime
  else if type = "relationship" then some relationship
  else none

/-! ## Labels -/

def attributeWord : List Char := "attribute".toList

/-- A text without the given ending, if it has it. -/
def dropEnding (ending cs : List Char) : List Char :=
  if ending.isSuffixOf cs then cs.take (cs.length - ending.length) else cs

/-- The kind that a label means, in any case and with or without the word attribute at its end. -/
def ofLabel? (label : String) : Option Kind :=
  let lower := (Text.trimBlanks label.toList).map Text.asciiLower
  let stem := String.ofList (dropEnding attributeWord lower)
  all.find? (·.aliases.contains stem)

def isDeclarator (name : String) : Bool := all.any (·.declarator == name)

/-- A name that the declaration of an attribute may call: a declarator, or any longer name that ends
in `Attribute`. -/
def looksLikeDeclarator (name : String) : Bool :=
  let ending := "Attribute".toList
  isDeclarator name || (name.utf8ByteSize > ending.length && ending.isSuffixOf name.toList)

/-- Classes that belong to the declaring library and are no models. -/
def isMarkerClass (name : String) : Bool :=
  isDeclarator name || name == "AttributeValidationError"

end Kind

end DeclaredSchema
