import DeclaredSchema.Json
import DeclaredSchema.Binary64.Decimal
import DeclaredSchema.Text.Alphabet
import DeclaredSchema.Text.Reader

/-!
# Reading JSON text

The grammar of RFC 8259 with a bound of 127 on the nesting. A number without point and exponent that
a 64-bit word holds is an integer; every other number is a double, and one too large for a double is
refused. The digits of a double are cut to those that a 64-bit word holds and then scaled by a power
of ten in one rounded step, so that a number with many digits may miss its nearest double.
-/

namespace DeclaredSchema.Json

open Text (Reader)

def isJsonBlank (c : Char) : Bool := c = ' ' || c = '\t' || c = '\n' || c = '\r'

def skipBlanks (cs : List Char) : List Char := cs.dropWhile isJsonBlank

theorem length_skipBlanks_le (cs : List Char) : (skipBlanks cs).length ≤ cs.length :=
  (List.dropWhile_suffix _).length_le

/-! ## Numbers -/

/-- Powers of ten that a double stands for. -/
def powerOfTen (n : Nat) : Binary64 := Binary64.ofDecimal false 1 n

/-- Scales by a power of ten. Below the smallest power there is, in steps of `10 ^ 308`. -/
def scaleByTen : Nat → Binary64 → Int → Option Binary64
  | 0, x, _ => some x
  | steps + 1, x, exponent =>
    if exponent.natAbs ≤ 308 then
      if 0 ≤ exponent then
        let y := x.mul (powerOfTen exponent.toNat)
        if y.isFinite then some y else none
      else some (x.div (powerOfTen exponent.natAbs))
    else if x.significand = 0 then some x
    else if 0 ≤ exponent then none
    else scaleByTen steps (x.div (powerOfTen 308)) (exponent + 308)

/-- The double for a cut significand and an exponent of ten. Past 40 steps a double is zero. -/
def doubleOfParts (negative : Bool) (digits : Nat) (exponent : Int) : Option Json :=
  (scaleByTen 40 (Binary64.ofInt digits) (max exponent (-10000))).map fun x =>
    .float (if negative then x.neg else x)

/-- Digits are taken while their value fits a 64-bit word; the rest only count. -/
def takeDigits (n : Nat) : List Char → Nat × List Char
  | [] => (n, [])
  | d :: ds =>
    let next := 10 * n + (d.toNat - 48)
    if next ≤ 0xffffffffffffffff then takeDigits next ds else (n, d :: ds)

/-- An exponent after its mark: sign and at least one digit. -/
def readExponent : Reader Int := fun cs =>
  let (negative, rest) := match cs with
    | '+' :: more => (false, more)
    | '-' :: more => (true, more)
    | _ => (false, cs)
  let digits := rest.takeWhile Text.isAsciiDigit
  if digits.isEmpty then none
  else
    let e : Int := natOfDigits digits
    some (if negative then -e else e, rest.dropWhile Text.isAsciiDigit)

/-- A double with the given cut significand. An exponent past 32 bits makes zero or is refused. -/
def finishDouble (negative : Bool) (digits : Nat) (shift : Int) : Reader Json := fun cs =>
  match cs with
  | mark :: more =>
    if mark = 'e' || mark = 'E' then do
      let (e, rest) ← readExponent more
      if e.natAbs ≥ 0x80000000 then
        if digits = 0 || e < 0 then some (.float (Binary64.zero negative), rest) else none
      else
        let value ← doubleOfParts negative digits (shift + e)
        some (value, rest)
    else do
      let value ← doubleOfParts negative digits shift
      some (value, cs)
  | [] => do
    let value ← doubleOfParts negative digits shift
    some (value, [])

/-- A negative integer has 63 bits and a sign; minus zero is a double. -/
def wordNumber (negative : Bool) (n : Nat) : Json :=
  if !negative then .int n
  else if n = 0 || n > 0x8000000000000000 then .float (Binary64.ofInt n).neg
  else .int (-(n : Int))

def readNumber (negative : Bool) : Reader Json := fun cs =>
  let whole := cs.takeWhile Text.isAsciiDigit
  let rest := cs.dropWhile Text.isAsciiDigit
  if whole.isEmpty || (whole.head? == some '0' && whole.length > 1) then none
  else
    let (digits, dropped) := takeDigits 0 whole
    let shift : Int := dropped.length
    match rest with
    | '.' :: more =>
      let part := more.takeWhile Text.isAsciiDigit
      let afterPart := more.dropWhile Text.isAsciiDigit
      if part.isEmpty then none
      else
        let (digits, unread) := takeDigits digits part
        finishDouble negative digits (shift - ((part.length - unread.length : Nat) : Int)) afterPart
    | mark :: _ =>
      if mark = 'e' || mark = 'E' || !dropped.isEmpty then finishDouble negative digits shift rest
      else some (wordNumber negative digits, rest)
    | [] =>
      if dropped.isEmpty then some (wordNumber negative digits, [])
      else finishDouble negative digits shift []

/-! ## Strings -/

def hexValue? (c : Char) : Option Nat :=
  if Text.isHexDigit c then some (Text.hexDigitValue c) else none

/-- A code unit written by four hexadecimal digits. -/
def readUnit : Reader Nat
  | a :: b :: c :: d :: rest => do
    let a ← hexValue? a
    let b ← hexValue? b
    let c ← hexValue? c
    let d ← hexValue? d
    some (((a * 16 + b) * 16 + c) * 16 + d, rest)
  | _ => none

/-- The character after a backslash; a surrogate has to come with its partner. -/
def readEscape : Reader Char
  | '"' :: rest => some ('"', rest)
  | '\\' :: rest => some ('\\', rest)
  | '/' :: rest => some ('/', rest)
  | 'b' :: rest => some ('\x08', rest)
  | 'f' :: rest => some ('\x0c', rest)
  | 'n' :: rest => some ('\n', rest)
  | 'r' :: rest => some ('\r', rest)
  | 't' :: rest => some ('\t', rest)
  | 'u' :: rest => do
    let (unit, rest) ← readUnit rest
    if unit < 0xd800 || 0xe000 ≤ unit then some (Char.ofNat unit, rest)
    else if 0xdc00 ≤ unit then none
    else match rest with
      | '\\' :: 'u' :: more => do
        let (low, rest) ← readUnit more
        if 0xdc00 ≤ low && low < 0xe000 then
          some (Char.ofNat (0x10000 + (unit - 0xd800) * 0x400 + (low - 0xdc00)), rest)
        else none
      | _ => none
  | _ => none

/-- The rest of a string after its opening quote. `fuel` bounds the characters. -/
def readCharsFuel : Nat → List Char → Reader String
  | 0, _, _ => none
  | fuel + 1, done, cs => match cs with
    | [] => none
    | '"' :: rest => some (String.ofList done.reverse, rest)
    | '\\' :: rest => do
      let (c, rest) ← readEscape rest
      readCharsFuel fuel (c :: done) rest
    | c :: rest => if c.toNat < 0x20 then none else readCharsFuel fuel (c :: done) rest

def readChars : Reader String := fun cs => readCharsFuel (cs.length + 1) [] cs

/-! ## Values -/

def readWord (word : List Char) (value : Json) : Reader Json := fun cs =>
  if word.isPrefixOf cs then some (value, cs.drop word.length) else none

/-- A value without parts. -/
def readScalar : Reader Json := fun cs => match cs with
  | '"' :: rest => (readChars rest).map fun (s, rest) => (.str s, rest)
  | '-' :: rest => readNumber true rest
  | 'n' :: _ => readWord ['n', 'u', 'l', 'l'] .null cs
  | 't' :: _ => readWord ['t', 'r', 'u', 'e'] (.bool true) cs
  | 'f' :: _ => readWord ['f', 'a', 'l', 's', 'e'] (.bool false) cs
  | _ => readNumber false cs

/-- Items up to the closing bracket, after the opening one or a comma. -/
def readItemsFuel (item : Reader Json) : Nat → Reader (List Json)
  | 0, _ => none
  | fuel + 1, cs => do
    let (value, rest) ← item (skipBlanks cs)
    match skipBlanks rest with
    | ',' :: more =>
      let (values, rest) ← readItemsFuel item fuel more
      some (value :: values, rest)
    | ']' :: more => some ([value], more)
    | _ => none

def readItems (item : Reader Json) : Reader (List Json) := fun cs =>
  match skipBlanks cs with
  | ']' :: rest => some ([], rest)
  | rest => readItemsFuel item (rest.length + 1) rest

/-- Fields up to the closing brace, after the opening one or a comma. -/
def readFieldsFuel (item : Reader Json) : Nat → Reader (List (String × Json))
  | 0, _ => none
  | fuel + 1, cs => match skipBlanks cs with
    | '"' :: rest => do
      let (name, rest) ← readChars rest
      match skipBlanks rest with
      | ':' :: rest =>
        let (value, rest) ← item (skipBlanks rest)
        match skipBlanks rest with
        | ',' :: more =>
          let (fields, rest) ← readFieldsFuel item fuel more
          some ((name, value) :: fields, rest)
        | '\x7d' :: more => some ([(name, value)], more)
        | _ => none
      | _ => none
    | _ => none

def readFields (item : Reader Json) : Reader (List (String × Json)) := fun cs =>
  match skipBlanks cs with
  | '\x7d' :: rest => some ([], rest)
  | rest => readFieldsFuel item (rest.length + 1) rest

/-- A value in which arrays and objects are nested at most `depth` deep. -/
def readValue : Nat → Reader Json
  | 0, cs => readScalar cs
  | depth + 1, cs => match cs with
    | '[' :: rest => (readItems (readValue depth) rest).map fun (items, rest) => (.arr items, rest)
    | '\x7b' :: rest =>
      (readFields (readValue depth) rest).map fun (fields, rest) => (ofFields fields, rest)
    | _ => readScalar cs

/-- How deep arrays and objects may be nested. -/
def maxDepth : Nat := 127

/-- The value that a text holds, between blanks. -/
def ofText? (text : String) : Option Json :=
  match readValue maxDepth (skipBlanks text.toList) with
  | some (value, rest) => if (skipBlanks rest).isEmpty then some value else none
  | none => none

end DeclaredSchema.Json
