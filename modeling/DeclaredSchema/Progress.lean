import DeclaredSchema.Json.Writer

/-!
# Progress

What is about to happen: a file is scanned, an operation is carried out. It can be told to people or
to programs, one line for each event.
-/

namespace DeclaredSchema

/-- The `number`-th of `total` things is about to happen. -/
inductive ProgressEvent where
  | scanning (path : String) (number total : Nat)
  | applying (operation : String) (number total : Nat)
  deriving DecidableEq, Repr

/-- To whom progress is told. -/
inductive ProgressMode where
  | off
  | human
  | json
  deriving DecidableEq, Repr

namespace ProgressMode

def name : ProgressMode → String
  | off => "off"
  | human => "human"
  | json => "json"

def all : List ProgressMode := [off, human, json]

def ofName? (name : String) : Option ProgressMode := all.find? (·.name == name)

end ProgressMode

/-- Digits, last first, with a comma after every three of them. -/
def groupByThree : List Char → List Char
  | a :: b :: c :: d :: rest => a :: b :: c :: ',' :: groupByThree (d :: rest)
  | digits => digits

/-- A number with a comma before every three digits. -/
def withCommas (n : Nat) : String :=
  String.ofList (groupByThree (Nat.toDigits 10 n).reverse).reverse

namespace ProgressEvent

def humanLine : ProgressEvent → String
  | scanning path n total =>
    "scan  " ++ withCommas n ++ " / " ++ withCommas total ++ "  " ++ path ++ "\n"
  | applying operation n total =>
    "apply  " ++ withCommas n ++ " / " ++ withCommas total ++ "  " ++ operation ++ "\n"

def toJson : ProgressEvent → Json
  | scanning path n total =>
    .ofFields [("event", .str "progress"), ("phase", .str "scanning"), ("path", .str path),
      ("n", .ofNat n), ("total", .ofNat total)]
  | applying operation n total =>
    .ofFields [("event", .str "progress"), ("phase", .str "applying"),
      ("operation", .str operation), ("n", .ofNat n), ("total", .ofNat total)]

/-- What is told of an event. -/
def text (mode : ProgressMode) (e : ProgressEvent) : String :=
  match mode with
  | .off => ""
  | .human => e.humanLine
  | .json => e.toJson.compact ++ "\n"

end ProgressEvent

end DeclaredSchema
