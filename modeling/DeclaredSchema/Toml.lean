import DeclaredSchema.Binary64

/-!
# TOML values

A document is a table. How a table came about decides what may still be put into it: a header opens
a table once, a dotted key adds only to tables that dotted keys have made, and nothing adds to a
table that is written out as a value.
-/

namespace DeclaredSchema

/-- How a table came about. -/
inductive TableOrigin where
  /-- Opened by a header, or the document itself. -/
  | header
  /-- Named on the way to a header. -/
  | implied
  /-- Named on the way to a dotted key. -/
  | dotted
  /-- Written out as a value. -/
  | inline
  deriving DecidableEq, Repr

inductive Toml where
  | str (value : String)
  | int (value : Int)
  | float (value : Binary64)
  | bool (value : Bool)
  | dateTime
  | arr (items : List Toml)
  | table (origin : TableOrigin) (fields : List (String × Toml))
  /-- The tables that headers in double brackets have opened under one name. -/
  | tables (items : List Toml)
  deriving Inhabited, Repr

/-- A table that is being filled. -/
structure TomlTable where
  origin : TableOrigin
  fields : List (String × Toml)

namespace TomlTable

def toToml (t : TomlTable) : Toml := .table t.origin t.fields

/-- Replaces a field, or adds it at the end. -/
def put (key : String) (value : Toml) : List (String × Toml) → List (String × Toml)
  | [] => [(key, value)]
  | (k, v) :: rest => if k = key then (key, value) :: rest else (k, v) :: put key value rest

/-- Changes the table at the end of a path of keys and makes the tables that are missing on it. Of
several tables under one name the last is meant. -/
def within (isDotted : Bool) (change : TomlTable → Option TomlTable) :
    List String → TomlTable → Option TomlTable
  | [], t => change t
  | key :: path, t => do
    let changed ← match t.fields.lookup key with
      | none =>
        (within isDotted change path ⟨if isDotted then .dotted else .implied, []⟩).map toToml
      | some (.table origin fields) =>
        if origin = .inline || (isDotted && origin = .header) then none
        else (within isDotted change path ⟨origin, fields⟩).map toToml
      | some (.tables items) => match items.getLast? with
        | some (.table origin fields) =>
          (within isDotted change path ⟨origin, fields⟩).map fun t =>
            .tables (items.dropLast ++ [t.toToml])
        | _ => none
      | some _ => none
    some { t with fields := put key changed t.fields }

/-- Adds a field that is not there yet. -/
def add (key : String) (value : Toml) (t : TomlTable) : Option TomlTable :=
  if (t.fields.lookup key).isSome then none
  else some { t with fields := t.fields ++ [(key, value)] }

/-- Sets a dotted key. A key without dots does not add to a table that dotted keys have made, and a
dotted key adds to no other. -/
def set (path : List String) (key : String) (value : Toml) (t : TomlTable) : Option TomlTable :=
  t.within true (fun t => if (t.origin = .dotted) = path.isEmpty then none else t.add key value) path

/-- Opens the table of a header. A table that other headers have implied is opened with all that is
in it; any other must not be there. -/
def openTable (path : List String) (key : String) (t : TomlTable) : Option TomlTable :=
  t.within false (fun t => match t.fields.lookup key with
    | none => t.add key (.table .header [])
    | some (.table .implied fields) =>
      some { t with fields := put key (.table .header fields) t.fields }
    | some _ => none) path

/-- Opens one more table under the name of a header in double brackets. -/
def openElement (path : List String) (key : String) (t : TomlTable) : Option TomlTable :=
  t.within false (fun t => match t.fields.lookup key with
    | none => t.add key (.tables [.table .header []])
    | some (.tables items) =>
      some { t with fields := put key (.tables (items ++ [.table .header []])) t.fields }
    | some _ => none) path

end TomlTable

end DeclaredSchema
