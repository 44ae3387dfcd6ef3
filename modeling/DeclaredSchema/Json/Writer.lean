import DeclaredSchema.Json
import DeclaredSchema.Binary64.Decimal
import DeclaredSchema.Text.Escaped

/-!
# Writing JSON text

Two layouts: without any blanks, and over several lines with two spaces a level. Characters beyond
ASCII are written as they are; only quotes, backslashes and controls are escaped.
-/

namespace DeclaredSchema.Json

def escapeChar (c : Char) : List Char :=
  if c = '"' then ['\\', '"']
  else if c = '\\' then ['\\', '\\']
  else if c = '\x08' then ['\\', 'b']
  else if c = '\x0c' then ['\\', 'f']
  else if c = '\n' then ['\\', 'n']
  else if c = '\r' then ['\\', 'r']
  else if c = '\t' then ['\\', 't']
  else if c.toNat < 0x20 then
    ['\\', 'u', '0', '0', Text.hexDigit (c.toNat / 16), Text.hexDigit (c.toNat % 16)]
  else [c]

def writeString (s : String) : List Char := '"' :: s.toList.flatMap escapeChar ++ ['"']

def writeScalar : Json → List Char
  | .null => ['n', 'u', 'l', 'l']
  | .bool true => ['t', 'r', 'u', 'e']
  | .bool false => ['f', 'a', 'l', 's', 'e']
  | .int n => (toString n).toList
  | .float x => (x.decimalText .json).toList
  | .str s => writeString s
  | .arr _ => []
  | .obj _ => []

mutual

def write : Json → List Char
  | .arr items => '[' :: writeItems items ++ [']']
  | .obj fields => '\x7b' :: writeFields fields ++ ['\x7d']
  | .null => writeScalar .null
  | .bool b => writeScalar (.bool b)
  | .int n => writeScalar (.int n)
  | .float x => writeScalar (.float x)
  | .str s => writeScalar (.str s)

def writeItems : List Json → List Char
  | [] => []
  | [v] => write v
  | v :: rest => write v ++ ',' :: writeItems rest

def writeFields : List (String × Json) → List Char
  | [] => []
  | [(name, v)] => writeString name ++ ':' :: write v
  | (name, v) :: rest => writeString name ++ ':' :: write v ++ ',' :: writeFields rest

end

/-- The text without blanks. -/
def compact (v : Json) : String := String.ofList v.write

def newLine (depth : Nat) : List Char := '\n' :: List.replicate (2 * depth) ' '

mutual

def writeLines (depth : Nat) : Json → List Char
  | .arr [] => ['[', ']']
  | .arr (v :: rest) => '[' :: lineItems (depth + 1) (v :: rest) ++ newLine depth ++ [']']
  | .obj [] => ['\x7b', '\x7d']
  | .obj (f :: rest) => '\x7b' :: lineFields (depth + 1) (f :: rest) ++ newLine depth ++ ['\x7d']
  | .null => writeScalar .null
  | .bool b => writeScalar (.bool b)
  | .int n => writeScalar (.int n)
  | .float x => writeScalar (.float x)
  | .str s => writeScalar (.str s)

def lineItems (depth : Nat) : List Json → List Char
  | [] => []
  | [v] => newLine depth ++ writeLines depth v
  | v :: rest => newLine depth ++ writeLines depth v ++ ',' :: lineItems depth rest

def lineFields (depth : Nat) : List (String × Json) → List Char
  | [] => []
  | [(name, v)] => newLine depth ++ writeString name ++ ':' :: ' ' :: writeLines depth v
  | (name, v) :: rest =>
    newLine depth ++ writeString name ++ ':' :: ' ' :: writeLines depth v ++
      ',' :: lineFields depth rest

end

/-- The text over several lines. -/
def pretty (v : Json) : String := String.ofList (writeLines 0 v)

end DeclaredSchema.Json
