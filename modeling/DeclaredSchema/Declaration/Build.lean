import DeclaredSchema.Declaration
import DeclaredSchema.Declaration.CamelCase
import DeclaredSchema.Schema.Attribute

/-!
# From declarations to collections

The declarator gives the kind, the last argument of a name counts, and only settings that the kind
takes are kept. Nothing stops the others: what is turned down is reported beside what is built.
-/

namespace DeclaredSchema

/-- Something in a declaration that is turned down. -/
inductive BuildWarning where
  | unsupportedKind (className field label : String)
  | illegalConstraint (className field : String) (kind : Kind) (argument : String)
  deriving DecidableEq, Repr

namespace BuildWarning

def message : BuildWarning → String
  | unsupportedKind className field label =>
    "unsupported attribute kind '" ++ label ++ "' on " ++ className ++ "." ++ field
  | illegalConstraint className field kind argument =>
    "constraint '" ++ argument ++ "' is not valid for " ++ kind.name ++ " attribute " ++
      className ++ "." ++ field

end BuildWarning

/-- Arguments that state no constraint. -/
def reservedArguments : List String := ["attribute_key", "required", "default"]

/-- The constraint that an argument sets on an attribute of a kind. -/
def constraintOf? (kind : Kind) (arg : Argument) : Option Constraint :=
  (Constraint.ofKeyword? arg.name).filter kind.allows

/-- An argument that is neither reserved nor a constraint of the kind. -/
def isIllegal (kind : Kind) (arg : Argument) : Bool :=
  !reservedArguments.contains arg.name && (constraintOf? kind arg).isNone

/-- What an argument does to the constraints: a literal sets one, anything else unsets it. -/
def applyArgument (kind : Kind) (s : Constraints) (arg : Argument) : Constraints :=
  if reservedArguments.contains arg.name then s
  else match constraintOf? kind arg with
    | some c => s.set c (arg.value.filter (!·.isNull))
    | none => s

/-- The default literal, unless it is missing or null. -/
def statedDefault? (args : List Argument) : Option Literal :=
  (lastArgument? "default" args).filter (!·.isNull)

/-- The text that stands for the current instant as the default of a datetime. -/
def nowWord : String := "Now"

def defaultOf? (kind : Kind) (args : List Argument) : Option DefaultValue :=
  if !kind.acceptsDefault then none
  else (statedDefault? args).map fun l =>
    if kind = .datetime && l.str? = some nowWord then .now else .literal l

/-- The attribute that a field declares, if its declarator has a kind, and what is turned down. -/
def buildAttribute (className : String) (f : FieldDeclaration) :
    Option Attribute × List BuildWarning :=
  match Kind.ofLabel? f.declarator with
  | none => (none, [.unsupportedKind className f.field f.declarator])
  | some kind =>
    let required := (lastArgument? "required" f.args).bind (·.bool?)
    let refused := if !kind.acceptsDefault && (statedDefault? f.args).isSome then ["default"] else []
    let illegal := (f.args.filter (isIllegal kind)).map (·.name)
    (some {
      key := f.key
      kind
      required := required.getD false
      requiredExplicit := required.isSome
      optional := f.optional
      default := defaultOf? kind f.args
      constraints := f.args.foldl (applyArgument kind) {} },
    (refused ++ illegal).map (.illegalConstraint className f.field kind))

/-- The collection that a class declares, unless none of its attributes can be built. -/
def buildCollection (c : ClassDeclaration) : Option Collection × List BuildWarning :=
  let built := c.fields.map (buildAttribute c.name)
  let attributes := built.filterMap (·.1)
  (if attributes.isEmpty then none else some ⟨camelCase c.name, c.source, attributes⟩,
    built.flatMap (·.2))

/-- What a list of classes declares, in their order. -/
structure BuildOutcome where
  collections : List Collection
  warnings : List BuildWarning
  deriving Repr

def buildCollections (classes : List ClassDeclaration) : BuildOutcome :=
  let built := classes.map buildCollection
  ⟨built.filterMap (·.1), built.flatMap (·.2)⟩

end DeclaredSchema
