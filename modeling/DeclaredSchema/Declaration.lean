import DeclaredSchema.Literal

/-!
# Declarations

What a model class states, as it is written: its fields, the declarator that each field calls and
the keyword arguments of the call, before any of it is checked.
-/

namespace DeclaredSchema

/-- A keyword argument. Its value is missing when it is not a literal. -/
structure Argument where
  name : String
  value : Option Literal
  deriving Repr

/-- An annotated field that is initialised by the call of a declarator. -/
structure FieldDeclaration where
  field : String
  /-- The key in the store. -/
  key : String
  declarator : String
  args : List Argument
  optional : Bool
  line : Nat
  deriving Repr

/-- A class with at least one declared field. -/
structure ClassDeclaration where
  name : String
  source : String
  line : Nat
  fields : List FieldDeclaration
  deriving Repr

/-- The value of the last argument of a name. -/
def lastArgument? (name : String) (args : List Argument) : Option Literal :=
  (args.reverse.find? (·.name == name)).bind (·.value)

end DeclaredSchema
