import DeclaredSchema.Text.Alphabet

/-!
# Addresses of hosts

Addresses of version 4 are numbers below 2 to the 32nd, written as up to four numbers between dots;
the last one fills what the others leave. Addresses of version 6 are eight pieces of 16 bits between
colons, where two colons stand for a run of zeros.
-/

namespace DeclaredSchema

/-! ## Version 4 -/

structure Ipv4 where
  number : Nat
  deriving DecidableEq, Repr

namespace Ipv4

/-- A number in decimal, octal behind a zero, or hexadecimal behind `0x`. No digits behind such a
mark are zero. -/
def part? (cs : List Char) : Option Nat :=
  let inBase := fun base isDigit digits =>
    if digits.all isDigit then some (Text.numberInBase base digits) else none
  match cs with
  | [] => none
  | '0' :: 'x' :: digits => inBase 16 Text.isHexDigit digits
  | '0' :: digits => inBase 8 (fun c => '0' ≤ c && c ≤ '7') digits
  | digits => inBase 10 Text.isAsciiDigit digits

/-- What stands between dots. One dot may end the text. -/
def parts (cs : List Char) : List (List Char) :=
  let all := cs.splitOn '.'
  if all.getLast? = some [] then all.dropLast else all

/-- A name that ends in a number is an address or nothing. -/
def isMeant (cs : List Char) : Bool :=
  match (parts cs).getLast? with
  | none => false
  | some last => (!last.isEmpty && last.all Text.isAsciiDigit) || (part? last).isSome

/-- The address with some bytes in front and the rest in one number. -/
def ofParts? (bytes : List Nat) (rest : Nat) : Option Ipv4 :=
  let room := Nat.pow 256 (4 - bytes.length)
  if bytes.length < 4 ∧ bytes.all (· < 256) ∧ rest < room then
    some ⟨bytes.foldl (fun n b => 256 * n + b) 0 * room + rest⟩
  else none

def ofText? (cs : List Char) : Option Ipv4 := do
  let numbers ← (parts cs).mapM part?
  ofParts? numbers.dropLast (← numbers.getLast?)

def text (a : Ipv4) : String :=
  ".".intercalate
    ([0x1000000, 0x10000, 0x100, 1].map fun place => toString (a.number / place % 256))

end Ipv4

/-! ## Version 6 -/

structure Ipv6 where
  pieces : List Nat
  length_pieces : pieces.length = 8
  deriving DecidableEq, Repr

namespace Ipv6

def piece? (cs : List Char) : Option Nat :=
  if !cs.isEmpty && cs.length ≤ 4 && cs.all Text.isHexDigit then some (Text.numberInBase 16 cs)
  else none

/-- A byte in decimal, without zeros in front. -/
def byte? (cs : List Char) : Option Nat :=
  if cs.isEmpty || !cs.all Text.isAsciiDigit || (cs.head? = some '0' && cs ≠ ['0']) then none
  else
    let n := Text.numberInBase 10 cs
    if n < 256 then some n else none

/-- Two pieces, written like an address of version 4. -/
def dotted? (cs : List Char) : Option (List Nat) := do
  match ← (cs.splitOn '.').mapM byte? with
  | [a, b, c, d] => some [256 * a + b, 256 * c + d]
  | _ => none

/-- The pieces that end an address. The last two may be dotted. -/
def endPieces? : List (List Char) → Option (List Nat)
  | [] => some []
  | [g] => ((piece? g).map ([·])).or (dotted? g)
  | g :: rest => do
    let n ← piece? g
    let more ← endPieces? rest
    some (n :: more)

/-- What stands between colons. -/
def groups (cs : List Char) : List (List Char) := if cs.isEmpty then [] else cs.splitOn ':'

/-- What stands before and behind the first two colons in a row. -/
def cut? : List Char → Option (List Char × List Char)
  | ':' :: ':' :: rest => some ([], rest)
  | c :: rest => (cut? rest).map fun (before, behind) => (c :: before, behind)
  | [] => none

/-- Two colons stand for at least one piece. -/
def pieces? (cs : List Char) : Option (List Nat) :=
  match cut? cs with
  | none => endPieces? (groups cs)
  | some (before, behind) => do
    let first ← (groups before).mapM piece?
    let last ← endPieces? (groups behind)
    let count := first.length + last.length
    if count < 8 then some (first ++ List.replicate (8 - count) 0 ++ last) else none

def ofText? (cs : List Char) : Option Ipv6 := do
  let pieces ← pieces? cs
  if h : pieces.length = 8 then some ⟨pieces, h⟩ else none

/-- Where the first of the longest runs of zeros starts, and its length. -/
def longestGap (pieces : List Nat) : Nat × Nat :=
  (List.range pieces.length).foldl (fun best start =>
    let length := ((pieces.drop start).takeWhile (· = 0)).length
    if best.2 < length then (start, length) else best) (0, 0)

/-- A single zero is written out. -/
def text (a : Ipv6) : String :=
  let between := fun pieces =>
    ":".intercalate (pieces.map fun n => String.ofList (Nat.toDigits 16 n))
  let (start, length) := longestGap a.pieces
  if length < 2 then between a.pieces
  else between (a.pieces.take start) ++ "::" ++ between (a.pieces.drop (start + length))

end Ipv6

end DeclaredSchema
