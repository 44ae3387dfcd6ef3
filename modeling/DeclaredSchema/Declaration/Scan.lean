import DeclaredSchema.Declaration
import DeclaredSchema.Declaration.CamelCase
import DeclaredSchema.Declaration.Optional
import DeclaredSchema.Schema.Kind

/-!
# Declarations in a source text

A class is found wherever it stands, before the classes inside it. Its fields are the declarations
that stand directly in its body; those of a conditional or of an inner class are not its own.
Classes of the declaring library and classes without a declaration are left out.
-/

namespace DeclaredSchema

open Source

/-- The keyword arguments of a call. -/
def keywordArguments (args : List (Option String × Expr)) : List Argument :=
  args.filterMap fun (name, value) => name.map fun n => ⟨n, value.literal?⟩

/-- The key that the arguments state, or the field in camel case. -/
def keyOf (field : String) (args : List Argument) : String :=
  ((lastArgument? "attribute_key" args).bind (·.str?)).getD (camelCase field)

/-- The declaration that a statement makes, if it makes one. -/
def fieldDeclaration? (tokens : List Token) : Option FieldDeclaration := do
  let first ← tokens.head?
  let assigned ← annotatedAssignment? tokens
  match assigned.value with
  | .call (.name declarator) args =>
    if Kind.looksLikeDeclarator declarator then
      let args := keywordArguments args
      some {
        field := assigned.target
        key := keyOf assigned.target args
        declarator
        args
        optional := isOptional assigned.typeHint
        line := first.line }
    else none
  | _ => none

/-- The declaration of a class whose body has the given simple statements, if it is a model. -/
def classDeclaration? (path name : String) (line : Nat) (body : List (List Token)) :
    Option ClassDeclaration :=
  let fields := body.filterMap fieldDeclaration?
  if Kind.isMarkerClass name || fields.isEmpty then none else some ⟨name, path, line, fields⟩

/-- The tokens of a simple statement. -/
def simpleTokens? : Statement → Option (List Token)
  | .simple line => some line.tokens
  | .compound _ _ => none

/-- The class that a header opens, with its body as an indented block. -/
def blockClass? (path : String) (header : Line) (body : List Statement) :
    Option ClassDeclaration := do
  let h ← classHeader? header.tokens
  classDeclaration? path h.name header.line (body.filterMap simpleTokens?)

/-- The class that a line opens and closes, with its body behind the colon. -/
def inlineClass? (path : String) (line : Line) : Option ClassDeclaration := do
  let h ← classHeader? line.tokens
  classDeclaration? path h.name line.line (splitTopLevel .semicolon h.inlineBody)

mutual

def classesIn (path : String) : Statement → List ClassDeclaration
  | .simple line => (inlineClass? path line).toList
  | .compound header body => (blockClass? path header body).toList ++ classesInBlock path body

def classesInBlock (path : String) : List Statement → List ClassDeclaration
  | [] => []
  | s :: rest => classesIn path s ++ classesInBlock path rest

end

/-- The declarations of a source text; the path is only noted. -/
def scanSource (path text : String) : Except SyntaxError (List ClassDeclaration) := do
  let tokens ← tokenize text
  let body ← statements tokens
  .ok (classesInBlock path body)

end DeclaredSchema
