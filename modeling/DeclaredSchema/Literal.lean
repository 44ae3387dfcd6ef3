import DeclaredSchema.Json
import DeclaredSchema.Binary64.Decimal
import DeclaredSchema.Text.Escaped

/-!
# Literals

The values that a declaration can state and a store can hold: everything JSON has except objects,
with integers of 64 bits. `ofJson?` and `toJson` go back and forth; a double that JSON cannot write
becomes `null`.
-/

namespace DeclaredSchema

inductive Literal where
  | null
  | bool (value : Bool)
  | int (value : Int64)
  | float (value : Binary64)
  | str (value : String)
  | list (items : List Literal)
  deriving Inhabited, Repr

/-- An integer as a 64-bit word, if it fits. -/
def int64? (n : Int) : Option Int64 :=
  if -0x8000000000000000 ≤ n ∧ n ≤ 0x7fffffffffffffff then some (.ofInt n) else none

namespace Literal

def str? : Literal → Option String
  | .str s => some s
  | _ => none

def bool? : Literal → Option Bool
  | .bool b => some b
  | _ => none

def isNull : Literal → Bool
  | .null => true
  | _ => false

theorem str?_eq_some_iff {l : Literal} {s : String} : l.str? = some s ↔ l = .str s := by
  cases l <;> simp [str?]

theorem bool?_eq_some_iff {l : Literal} {b : Bool} : l.bool? = some b ↔ l = .bool b := by
  cases l <;> simp [bool?]

theorem isNull_eq_false_iff {l : Literal} : l.isNull = false ↔ l ≠ .null := by
  cases l <;> simp [isNull]

mutual

/-- The literal that a JSON value stands for. An integer beyond 64 bits is read as a double, and
nothing with an object in it has a literal form. -/
def ofJson? : Json → Option Literal
  | .null => some .null
  | .bool b => some (.bool b)
  | .int n => match int64? n with
    | some i => some (.int i)
    | none => some (.float (.ofInt n))
  | .float x => some (.float x)
  | .str s => some (.str s)
  | .arr items => (ofJsons? items).map .list
  | .obj _ => none

def ofJsons? : List Json → Option (List Literal)
  | [] => some []
  | v :: rest => match ofJson? v with
    | some l => (ofJsons? rest).map (l :: ·)
    | none => none

end

mutual

def toJson : Literal → Json
  | .null => .null
  | .bool b => .bool b
  | .int i => .int i.toInt
  | .float x => .ofBinary64 x
  | .str s => .str s
  | .list items => .arr (toJsons items)

def toJsons : List Literal → List Json
  | [] => []
  | l :: rest => toJson l :: toJsons rest

end

mutual

/-- A literal as it is shown to people. -/
def display : Literal → String
  | .null => "null"
  | .bool true => "true"
  | .bool false => "false"
  | .int i => toString i.toInt
  | .float x => x.decimalText .plain
  | .str s => Text.quoted s
  | .list items => "[" ++ displays items ++ "]"

def displays : List Literal → String
  | [] => ""
  | [l] => display l
  | l :: rest => display l ++ ", " ++ displays rest

end

/-- Changes the sign of a number. The least integer has no opposite. -/
def negate? : Literal → Option Literal
  | .int i => (int64? (-i.toInt)).map .int
  | .float x => some (.float x.neg)
  | _ => none

end Literal

end DeclaredSchema
