import DeclaredSchema.Binary64

/-!
# JSON values

An object holds each name once. Its fields stand in the order of their names when it is built by
`ofFields`, and otherwise in the order in which they were stated. A number is an integer or a double:
`1` and `1.0` are different values.
-/

namespace DeclaredSchema

inductive Json where
  | null
  | bool (value : Bool)
  | int (value : Int)
  | float (value : Binary64)
  | str (value : String)
  | arr (items : List Json)
  | obj (fields : List (String × Json))
  deriving Inhabited, Repr

namespace Json

/-- Sets a field, keeping the fields in order; a value already there is replaced. -/
def setField (name : String) (value : Json) : List (String × Json) → List (String × Json)
  | [] => [(name, value)]
  | (n, v) :: rest =>
    if name = n then (name, value) :: rest
    else if name < n then (name, value) :: (n, v) :: rest
    else (n, v) :: setField name value rest

/-- An object from fields in any order; of two with one name the later counts. -/
def ofFields (fields : List (String × Json)) : Json :=
  .obj (fields.foldl (fun acc (name, value) => setField name value acc) [])

/-- The field of an object; nothing when there is no such field or no object. -/
def field? (name : String) : Json → Option Json
  | .obj fields => fields.lookup name
  | _ => none

def str? : Json → Option String
  | .str s => some s
  | _ => none

def bool? : Json → Option Bool
  | .bool b => some b
  | _ => none

def arr? : Json → Option (List Json)
  | .arr items => some items
  | _ => none

/-- An integer that an unsigned 64-bit word holds. -/
def nat? : Json → Option Nat
  | .int n => if 0 ≤ n ∧ n ≤ 0xffffffffffffffff then some n.toNat else none
  | _ => none

theorem nat?_le {v : Json} {n : Nat} (h : v.nat? = some n) : n ≤ 0xffffffffffffffff := by
  cases v with
  | int i =>
    simp only [nat?] at h
    split at h
    · cases h
      omega
    · contradiction
  | _ => contradiction

def ofOption : Option Json → Json
  | some v => v
  | none => .null

def ofNat (n : Nat) : Json := .int n

/-- A double as a JSON value: there is no number for an infinity or a NaN. -/
def ofBinary64 (x : Binary64) : Json := if x.isFinite then .float x else .null

theorem lookup_setField_self (name : String) (value : Json) (fields : List (String × Json)) :
    (setField name value fields).lookup name = some value := by
  induction fields with
  | nil => simp [setField]
  | cons f rest ih =>
    obtain ⟨n, v⟩ := f
    unfold setField
    split
    · simp
    · split
      · simp
      · next h _ => simp [List.lookup_cons, beq_false_of_ne h, ih]

theorem lookup_setField_of_ne {name other : String} (h : other ≠ name) (value : Json)
    (fields : List (String × Json)) :
    (setField name value fields).lookup other = fields.lookup other := by
  have hb : (other == name) = false := beq_false_of_ne h
  induction fields with
  | nil => simp [setField, List.lookup_cons, hb]
  | cons f rest ih =>
    obtain ⟨n, v⟩ := f
    unfold setField
    split
    · next e => subst e; simp [List.lookup_cons, hb]
    · split
      · simp [List.lookup_cons, hb]
      · simp [List.lookup_cons, ih]

end Json

end DeclaredSchema
