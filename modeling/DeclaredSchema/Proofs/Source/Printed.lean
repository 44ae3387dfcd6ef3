import DeclaredSchema.Declaration.Scan
import DeclaredSchema.Proofs.Source.Lexing

/-! # Model classes as source text

The plain way to write a model class: a header line and one indented line for every field, with the
arguments of its declarator in the order in which they are listed. An argument whose value is no
literal is written as a name. Strings stand in double quotes, with a backslash before a backslash, a
quote and the `n` of a line end, and every other character as it is.
-/

namespace DeclaredSchema

open Text Source

/-! ## What can be written -/

/-- An ASCII name that a field, an argument or a class can have. -/
def isFreeName (word : String) : Bool := isAsciiName word && !isKeyword word

/-- An ASCII name that ends in `Attribute` and is longer. -/
def isDeclaratorName (word : String) : Bool :=
  isAsciiName word && "Attribute".length < word.length &&
    "Attribute".toList.isSuffixOf word.toList

theorem isAsciiName_of_isFreeName {word : String} (h : isFreeName word) : isAsciiName word := by
  rw [isFreeName, Bool.and_eq_true] at h
  exact h.1

theorem not_isKeyword_of_isFreeName {word : String} (h : isFreeName word) :
    isKeyword word = false := by
  rw [isFreeName, Bool.and_eq_true, Bool.not_eq_true'] at h
  exact h.2

theorem not_isKeyword_of_isDeclaratorName {word : String} (h : isDeclaratorName word) :
    isKeyword word = false := by
  rw [← Bool.not_eq_true, isKeyword, List.contains_iff_mem]
  intro hw
  have hall : ∀ w ∈ keywords, isDeclaratorName w = false := by decide
  rw [hall word hw] at h
  cases h

theorem isAsciiName_of_isDeclaratorName {word : String} (h : isDeclaratorName word) :
    isAsciiName word := by
  rw [isDeclaratorName, Bool.and_eq_true, Bool.and_eq_true] at h
  exact h.1.1

theorem ne_of_not_isKeyword {word : String} (h : isKeyword word = false) {w : String}
    (hw : isKeyword w = true) : word ≠ w := by
  rintro rfl
  rw [hw] at h
  cases h

theorem not_mem_of_not_isKeyword {word : String} (h : isKeyword word = false)
    {words : List String} (hwords : ∀ w ∈ words, isKeyword w = true) : word ∉ words :=
  fun hmem => ne_of_not_isKeyword h (hwords word hmem) rfl

mutual

/-- No double, and no least integer, which has no opposite to put a minus before. -/
def Literal.isPlain : Literal → Bool
  | .int i => -0x8000000000000000 < i.toInt
  | .float _ => false
  | .list items => Literal.arePlain items
  | _ => true

def Literal.arePlain : List Literal → Bool
  | [] => true
  | l :: rest => l.isPlain && Literal.arePlain rest

end

def Argument.isPrintable (a : Argument) : Bool := isFreeName a.name && a.value.all (·.isPlain)

def FieldDeclaration.isPrintable (f : FieldDeclaration) : Bool :=
  isFreeName f.field && isDeclaratorName f.declarator && f.args.all (·.isPrintable)

def ClassDeclaration.isPrintable (c : ClassDeclaration) : Bool :=
  isFreeName c.name && !Kind.isMarkerClass c.name && !c.fields.isEmpty &&
    c.fields.all (·.isPrintable)

theorem Argument.of_isPrintable {a : Argument} (h : a.isPrintable) :
    isFreeName a.name ∧ a.value.all (·.isPlain) := by
  rwa [Argument.isPrintable, Bool.and_eq_true] at h

theorem FieldDeclaration.of_isPrintable {f : FieldDeclaration} (h : f.isPrintable) :
    isFreeName f.field ∧ isDeclaratorName f.declarator ∧ f.args.all (·.isPrintable) := by
  rwa [FieldDeclaration.isPrintable, Bool.and_eq_true, Bool.and_eq_true, and_assoc] at h

theorem ClassDeclaration.of_isPrintable {c : ClassDeclaration} (h : c.isPrintable) :
    isFreeName c.name ∧ Kind.isMarkerClass c.name = false ∧ c.fields.isEmpty = false ∧
      c.fields.all (·.isPrintable) := by
  simp only [ClassDeclaration.isPrintable, Bool.and_eq_true, Bool.not_eq_true', and_assoc] at h
  exact h

/-! ## The text -/

namespace Printed

/-- What stands for a character between the quotes. -/
def escaped (c : Char) : List Char :=
  if c = '\\' then ['\\', '\\']
  else if c = '"' then ['\\', '"']
  else if c = '\n' then ['\\', 'n']
  else [c]

def quoted (s : String) : List Char := '"' :: (s.toList.flatMap escaped ++ ['"'])

def integer (n : Int) : List Char :=
  if n < 0 then '-' :: Nat.toDigits 10 n.natAbs else Nat.toDigits 10 n.natAbs

/-- Parts with a comma and a blank between them. -/
def commaSeparated (parts : List (List Char)) : List Char := [',', ' '].intercalate parts

mutual

def literal : Literal → List Char
  | .null => "None".toList
  | .bool true => "True".toList
  | .bool false => "False".toList
  | .int i => integer i.toInt
  | .float x => (x.decimalText .plain).toList
  | .str s => quoted s
  | .list items => '[' :: (commaSeparated (literals items) ++ [']'])

def literals : List Literal → List (List Char)
  | [] => []
  | l :: rest => literal l :: literals rest

end

/-- The value of an argument; `bare` is the name that stands for everything but literals. -/
def value (bare : String) : Option Literal → List Char
  | some l => literal l
  | none => bare.toList

def argument (bare : String) (a : Argument) : List Char := a.name.toList ++ '=' :: value bare a.value

def typeHint (optional : Bool) : List Char :=
  if optional then "Optional".toList ++ '[' :: ("str".toList ++ [']']) else "str".toList

/-- A field as it stands in its class, without its indentation and line end. -/
def field (bare : String) (f : FieldDeclaration) : List Char :=
  f.field.toList ++ ':' :: ' ' :: (typeHint f.optional ++ ' ' :: '=' :: ' ' ::
    (f.declarator.toList ++ '(' :: (commaSeparated (f.args.map (argument bare)) ++ [')'])))

def fieldLine (bare : String) (f : FieldDeclaration) : List Char :=
  ' ' :: ' ' :: ' ' :: ' ' :: (field bare f ++ ['\n'])

def header (name : String) : List Char := "class".toList ++ ' ' :: (name.toList ++ [':'])

def classLines (bare : String) (c : ClassDeclaration) : List Char :=
  header c.name ++ '\n' :: c.fields.flatMap (fieldLine bare)

/-- The source text that declares some classes. -/
def source (bare : String) (classes : List ClassDeclaration) : String :=
  String.ofList (classes.flatMap (classLines bare))

/-! ## Where everything stands -/

/-- The last argument that states a key, if it is a string, and otherwise the field in camel case. -/
def key (f : FieldDeclaration) : String :=
  match (f.args.filter (·.name == "attribute_key")).getLast? with
  | some ⟨_, some (.str s)⟩ => s
  | _ => camelCase f.field

/-- A field as it is found on a line. -/
def locatedField (line : Nat) (f : FieldDeclaration) : FieldDeclaration :=
  { f with key := key f, line }

/-- Fields on lines that follow each other. -/
def locatedFields (line : Nat) : List FieldDeclaration → List FieldDeclaration
  | [] => []
  | f :: rest => locatedField line f :: locatedFields (line + 1) rest

/-- Classes that follow each other in a file. -/
def located (path : String) (line : Nat) : List ClassDeclaration → List ClassDeclaration
  | [] => []
  | c :: rest =>
    { c with source := path, line, fields := locatedFields (line + 1) c.fields } ::
      located path (line + 1 + c.fields.length) rest

end Printed

end DeclaredSchema
