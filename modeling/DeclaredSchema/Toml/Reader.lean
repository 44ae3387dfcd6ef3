import DeclaredSchema.Binary64.Decimal
import DeclaredSchema.Text.Alphabet
import DeclaredSchema.Text.Reader
import DeclaredSchema.Toml

/-!
# Reading TOML text

The grammar of TOML 1.0. Integers have 64 bits, a double may not be too large, and arrays, inline
tables and keys are nested less than 80 deep. A text that breaks a rule has no value; where and why
is not told.
-/

namespace DeclaredSchema.Toml

open Text (Reader)

/-- The bound on the nesting of values and on the parts of a key. -/
def nestingBound : Nat := 80

/-! ## Blanks -/

def isSpace (c : Char) : Bool := c = ' ' || c = '\t'

def skipSpace (cs : List Char) : List Char := cs.dropWhile isSpace

/-- A character that comments and strings hold as it is. -/
def isPlain (c : Char) : Bool := c = '\t' || (0x20 ≤ c.toNat && c.toNat ≠ 0x7f)

def newline? : List Char → Option (List Char)
  | '\n' :: rest => some rest
  | '\r' :: '\n' :: rest => some rest
  | _ => none

def skipComment : List Char → List Char
  | '#' :: rest => rest.dropWhile isPlain
  | cs => cs

/-- What is left after the end of a line with nothing more on it than a comment. -/
def lineEnd? (cs : List Char) : Option (List Char) :=
  match skipComment (skipSpace cs) with
  | [] => some []
  | rest => newline? rest

/-- Skips spaces, newlines and whole comments. -/
def skipFillFuel : Nat → List Char → List Char
  | 0, cs => cs
  | fuel + 1, cs =>
    let cs := skipSpace cs
    match newline? (skipComment cs) with
    | some rest => skipFillFuel fuel rest
    | none => cs

def skipFill (cs : List Char) : List Char := skipFillFuel (cs.length + 1) cs

/-! ## Strings -/

/-- A character by its number in hexadecimal digits. -/
def readCodePoint (count : Nat) : Reader Char := fun cs =>
  let digits := cs.take count
  if digits.length = count && digits.all Text.isHexDigit then
    let n := digits.foldl (fun n c => 16 * n + Text.hexDigitValue c) 0
    if n < 0xd800 || (0xe000 ≤ n && n < 0x110000) then some (Char.ofNat n, cs.drop count) else none
  else none

/-- The character after a backslash. -/
def readEscape : Reader Char
  | 'b' :: rest => some ('\x08', rest)
  | 't' :: rest => some ('\t', rest)
  | 'n' :: rest => some ('\n', rest)
  | 'f' :: rest => some ('\x0c', rest)
  | 'r' :: rest => some ('\r', rest)
  | '"' :: rest => some ('"', rest)
  | '\\' :: rest => some ('\\', rest)
  | 'u' :: rest => readCodePoint 4 rest
  | 'U' :: rest => readCodePoint 8 rest
  | _ => none

/-- A string on one line after its opening quote. `done` is latest first. -/
def readLineTextFuel (quote : Char) : Nat → List Char → Reader String
  | 0, _, _ => none
  | fuel + 1, done, cs => match cs with
    | [] => none
    | c :: rest =>
      if c = quote then some (String.ofList done.reverse, rest)
      else if c = '\\' && quote = '"' then do
        let (c, rest) ← readEscape rest
        readLineTextFuel quote fuel (c :: done) rest
      else if isPlain c then readLineTextFuel quote fuel (c :: done) rest
      else none

def readLineText (quote : Char) : Reader String := fun cs =>
  readLineTextFuel quote (cs.length + 1) [] cs

/-- What is left after a backslash that ends a line, with all blanks after it. -/
def continuation? (cs : List Char) : Option (List Char) :=
  (newline? (skipSpace cs)).map fun rest => rest.dropWhile fun c => isSpace c || c = '\n' || c = '\r'

/-- A string over several lines after its opening quotes. Up to two quotes may stand before the
three that close it. -/
def readBlockTextFuel (quote : Char) : Nat → List Char → Reader String
  | 0, _, _ => none
  | fuel + 1, done, cs => match cs with
    | [] => none
    | c :: rest =>
      if c = quote then
        let count := min 5 (cs.takeWhile (· = quote)).length
        if 3 ≤ count then
          some (String.ofList (List.replicate (count - 3) quote ++ done).reverse, cs.drop count)
        else readBlockTextFuel quote fuel (List.replicate count quote ++ done) (cs.drop count)
      else if c = '\\' && quote = '"' then match continuation? rest with
        | some rest => readBlockTextFuel quote fuel done rest
        | none => do
          let (c, rest) ← readEscape rest
          readBlockTextFuel quote fuel (c :: done) rest
      else match newline? cs with
        | some rest => readBlockTextFuel quote fuel ('\n' :: done) rest
        | none => if isPlain c then readBlockTextFuel quote fuel (c :: done) rest else none

/-- A newline directly after the opening quotes does not count. -/
def readBlockText (quote : Char) : Reader String := fun cs =>
  readBlockTextFuel quote (cs.length + 1) [] ((newline? cs).getD cs)

def readText : Reader String
  | '"' :: '"' :: '"' :: rest => readBlockText '"' rest
  | '\'' :: '\'' :: '\'' :: rest => readBlockText '\'' rest
  | '"' :: rest => readLineText '"' rest
  | '\'' :: rest => readLineText '\'' rest
  | _ => none

/-! ## Keys -/

def isKeyChar (c : Char) : Bool :=
  Text.isAsciiLetter c || Text.isAsciiDigit c || c = '-' || c = '_'

def readKeyPart : Reader String
  | '"' :: rest => readLineText '"' rest
  | '\'' :: rest => readLineText '\'' rest
  | cs =>
    let part := cs.takeWhile isKeyChar
    if part.isEmpty then none else some (String.ofList part, cs.dropWhile isKeyChar)

def readKeyPartsFuel : Nat → Reader (List String)
  | 0, _ => none
  | fuel + 1, cs => do
    let (part, rest) ← readKeyPart (skipSpace cs)
    match skipSpace rest with
    | '.' :: rest =>
      let (parts, rest) ← readKeyPartsFuel fuel rest
      some (part :: parts, rest)
    | rest => some ([part], rest)

/-- A key: the parts before the last dot and the last part. -/
def readKey : Reader (List String × String) := fun cs => do
  let (parts, rest) ← readKeyPartsFuel (nestingBound - 1) cs
  let last ← parts.getLast?
  some ((parts.dropLast, last), rest)

/-! ## Numbers, dates and words -/

/-- Digits with single underscores between them; the digits alone. -/
def digits? (isDigit : Char → Bool) : List Char → Option (List Char)
  | [] => none
  | [d] => if isDigit d then some [d] else none
  | d :: '_' :: rest => if isDigit d then (digits? isDigit rest).map (d :: ·) else none
  | d :: rest => if isDigit d then (digits? isDigit rest).map (d :: ·) else none

def splitSign : List Char → Bool × List Char
  | '-' :: rest => (true, rest)
  | '+' :: rest => (false, rest)
  | cs => (false, cs)

/-- Decimal digits without leading zeros. -/
def wholeDigits? (cs : List Char) : Option (List Char) :=
  if cs.head? = some '0' && cs.length > 1 then none else digits? Text.isAsciiDigit cs

def inWord (n : Int) : Option Toml :=
  if -0x8000000000000000 ≤ n ∧ n ≤ 0x7fffffffffffffff then some (.int n) else none

def ofDigitsInBase (base : Nat) (isDigit : Char → Bool) (cs : List Char) : Option Toml := do
  let ds ← digits? isDigit cs
  inWord (ds.foldl (fun n c => base * n + Text.hexDigitValue c) 0 : Nat)

def integer? : List Char → Option Toml
  | '0' :: 'x' :: rest => ofDigitsInBase 16 Text.isHexDigit rest
  | '0' :: 'o' :: rest => ofDigitsInBase 8 (fun c => '0' ≤ c && c ≤ '7') rest
  | '0' :: 'b' :: rest => ofDigitsInBase 2 (fun c => c = '0' || c = '1') rest
  | cs => do
    let (negative, rest) := splitSign cs
    let n : Int := natOfDigits (← wholeDigits? rest)
    inWord (if negative then -n else n)

def isExponentMark (c : Char) : Bool := c = 'e' || c = 'E'

/-- The digits of an exponent with their sign. -/
def exponentDigits? (cs : List Char) : Option (List Char) := do
  let (negative, rest) := splitSign cs
  let ds ← digits? Text.isAsciiDigit rest
  some (if negative then '-' :: ds else ds)

/-- A number with a point or an exponent, as digits that `Binary64.ofDecimalText?` reads. -/
def doubleDigits? (cs : List Char) : Option (List Char) := do
  let (mantissa, exponent) := cs.span (!isExponentMark ·)
  let (whole, fraction) := mantissa.span (· ≠ '.')
  if fraction.isEmpty && exponent.isEmpty then none
  let whole ← wholeDigits? whole
  let fraction ← match fraction with
    | [] => some []
    | _ :: ds => (digits? Text.isAsciiDigit ds).map ('.' :: ·)
  let exponent ← match exponent with
    | [] => some []
    | _ :: ds => (exponentDigits? ds).map ('e' :: ·)
  some (whole ++ fraction ++ exponent)

def double? (cs : List Char) : Option Toml := do
  let (negative, rest) := splitSign cs
  if rest = ['i', 'n', 'f'] then some (.float (Binary64.infinity negative))
  else if rest = ['n', 'a', 'n'] then some (.float (Binary64.quietNaN negative))
  else
    let x ← Binary64.ofDecimalText? (← doubleDigits? rest)
    if !x.isFinite && !negative then none else some (.float (if negative then x.neg else x))

/-- The number that some count of digits writes. -/
def fixedDigits? (cs : List Char) (count : Nat) : Option Nat :=
  if cs.length = count && cs.all Text.isAsciiDigit then some (natOfDigits cs) else none

def daysInMonth (year month : Nat) : Nat :=
  if month = 2 then
    if year % 4 = 0 && (year % 100 ≠ 0 || year % 400 = 0) then 29 else 28
  else if [4, 6, 9, 11].contains month then 30
  else 31

/-- Ten characters `2024-02-29`. -/
def isDate (cs : List Char) : Bool :=
  match fixedDigits? (cs.take 4) 4, fixedDigits? ((cs.drop 5).take 2) 2,
    fixedDigits? (cs.drop 8) 2 with
  | some year, some month, some day =>
    cs[4]? == some '-' && cs[7]? == some '-' && 1 ≤ month && month ≤ 12 && 1 ≤ day &&
      day ≤ daysInMonth year month
  | _, _, _ => false

/-- Five characters `23:59`. -/
def isHourMinute (cs : List Char) : Bool :=
  match fixedDigits? (cs.take 2) 2, fixedDigits? (cs.drop 3) 2 with
  | some hour, some minute => cs[2]? == some ':' && hour ≤ 23 && minute ≤ 59
  | _, _ => false

/-- What is left after `23:59:60.5`. -/
def afterTime? (cs : List Char) : Option (List Char) :=
  match fixedDigits? ((cs.drop 6).take 2) 2 with
  | some second =>
    if isHourMinute (cs.take 5) && cs[5]? == some ':' && second ≤ 60 then
      match cs.drop 8 with
      | '.' :: rest =>
        if (rest.takeWhile Text.isAsciiDigit).isEmpty then none
        else some (rest.dropWhile Text.isAsciiDigit)
      | rest => some rest
    else none
  | none => none

def isOffset : List Char → Bool
  | [c] => c = 'Z' || c = 'z'
  | c :: rest => (c = '+' || c = '-') && isHourMinute rest
  | [] => false

def isTime (cs : List Char) : Bool := afterTime? cs == some []

def isTimeWithOffset (cs : List Char) : Bool :=
  match afterTime? cs with
  | some rest => rest.isEmpty || isOffset rest
  | none => false

def isDateTime (cs : List Char) : Bool :=
  isDate cs || isTime cs ||
    (isDate (cs.take 10) && (cs[10]? == some 'T' || cs[10]? == some 't') &&
      isTimeWithOffset (cs.drop 11))

def isWordChar (c : Char) : Bool := isKeyChar c || c = '+' || c = '.' || c = ':'

/-- The value that a run of letters, digits and signs stands for. -/
def ofWord (word : List Char) : Option Toml :=
  if word = ['t', 'r', 'u', 'e'] then some (.bool true)
  else if word = ['f', 'a', 'l', 's', 'e'] then some (.bool false)
  else if isDateTime word then some .dateTime
  else (double? word).or (integer? word)

/-- A word. A space may stand between a date and a time. -/
def readWord : Reader Toml := fun cs =>
  let word := cs.takeWhile isWordChar
  let rest := cs.dropWhile isWordChar
  match rest with
  | ' ' :: more =>
    let time := more.takeWhile isWordChar
    if isDate word && isTimeWithOffset time then some (.dateTime, more.dropWhile isWordChar)
    else (ofWord word).map (·, rest)
  | _ => (ofWord word).map (·, rest)

/-! ## Values -/

/-- A value without parts. -/
def readScalar : Reader Toml := fun cs =>
  match readText cs with
  | some (s, rest) => some (.str s, rest)
  | none => readWord cs

/-- Items up to the closing bracket. -/
def readItemsFuel (item : Reader Toml) : Nat → Reader (List Toml)
  | 0, _ => none
  | fuel + 1, cs => match skipFill cs with
    | ']' :: rest => some ([], rest)
    | cs => do
      let (value, rest) ← item cs
      match skipFill rest with
      | ',' :: rest =>
        let (values, rest) ← readItemsFuel item fuel rest
        some (value :: values, rest)
      | ']' :: rest => some ([value], rest)
      | _ => none

/-- A key, an equals sign and a value. -/
def readField (item : Reader Toml) : Reader ((List String × String) × Toml) := fun cs => do
  let (key, rest) ← readKey cs
  match rest with
  | '=' :: rest =>
    let (value, rest) ← item (skipSpace rest)
    some ((key, value), rest)
  | _ => none

/-- Fields up to the closing brace, put into a table. -/
def readFieldsFuel (item : Reader Toml) : Nat → TomlTable → Reader TomlTable
  | 0, _, _ => none
  | fuel + 1, t, cs => do
    let (((path, key), value), rest) ← readField item cs
    let t ← t.set path key value
    match skipSpace rest with
    | ',' :: rest => readFieldsFuel item fuel t rest
    | '\x7d' :: rest => some (t, rest)
    | _ => none

def readInlineTable (item : Reader Toml) : Reader Toml := fun cs =>
  match skipSpace cs with
  | '\x7d' :: rest => some (.table .inline [], rest)
  | cs => (readFieldsFuel item (cs.length + 1) ⟨.inline, []⟩ cs).map fun (t, rest) => (t.toToml, rest)

/-- A value in which arrays and inline tables are nested at most `depth` deep. -/
def readValue : Nat → Reader Toml
  | 0, cs => readScalar cs
  | depth + 1, cs => match cs with
    | '[' :: rest =>
      (readItemsFuel (readValue depth) (rest.length + 1) rest).map fun (l, rest) => (.arr l, rest)
    | '\x7b' :: rest => readInlineTable (readValue depth) rest
    | _ => readScalar cs

/-! ## Documents -/

/-- A document that is being read: its table, and the path of the last header. -/
structure Draft where
  root : TomlTable := ⟨.header, []⟩
  current : List String := []

/-- What a line of a document states. -/
inductive Line where
  | blank
  | header (path : List String) (key : String)
  | elementHeader (path : List String) (key : String)
  | field (path : List String) (key : String) (value : Toml)

def readHeader : Reader Line := fun cs =>
  match cs with
  | '[' :: rest => do
    let ((path, key), rest) ← readKey rest
    match rest with
    | ']' :: ']' :: rest => some (.elementHeader path key, rest)
    | _ => none
  | _ => do
    let ((path, key), rest) ← readKey cs
    match rest with
    | ']' :: rest => some (.header path key, rest)
    | _ => none

/-- A line without its end. The value of a field may go on over several lines of the text. -/
def readLine : Reader Line := fun cs =>
  match cs with
  | [] => some (.blank, [])
  | '#' :: _ => some (.blank, cs)
  | '\n' :: _ => some (.blank, cs)
  | '\r' :: _ => some (.blank, cs)
  | '[' :: rest => readHeader rest
  | _ => do
    let (((path, key), value), rest) ← readField (readValue (nestingBound - 1)) cs
    some (.field path key value, rest)

def Draft.addLine (d : Draft) : Line → Option Draft
  | .blank => some d
  | .header path key => do
    let root ← d.root.openTable path key
    some ⟨root, path ++ [key]⟩
  | .elementHeader path key => do
    let root ← d.root.openElement path key
    some ⟨root, path ++ [key]⟩
  | .field path key value => do
    let root ← d.root.within false (·.set path key value) d.current
    some { d with root }

def readLinesFuel : Nat → Draft → List Char → Option Draft
  | 0, _, _ => none
  | fuel + 1, d, cs => match skipSpace cs with
    | [] => some d
    | cs => do
      let (line, rest) ← readLine cs
      let d ← d.addLine line
      readLinesFuel fuel d (← lineEnd? rest)

/-- A byte order mark at the start does not count. -/
def dropMark : List Char → List Char
  | '\ufeff' :: rest => rest
  | cs => cs

/-- The table that a document writes. -/
def ofText? (text : String) : Option Toml :=
  let cs := dropMark text.toList
  (readLinesFuel (cs.length + 1) {} cs).map (·.root.toToml)

end DeclaredSchema.Toml
