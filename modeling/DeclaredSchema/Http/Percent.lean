import DeclaredSchema.Text.Alphabet

/-!
# Percent-encoding

A byte of text may be written as a percent sign and two hexadecimal digits. Which characters are
written so depends on where they stand; what is beyond ASCII always is, as the bytes of its UTF-8
form.
-/

namespace DeclaredSchema.Percent

def upperHexDigit (n : Nat) : Char := if n < 10 then Char.ofNat (48 + n) else Char.ofNat (55 + n)

def encodeByte (b : UInt8) : List Char :=
  ['%', upperHexDigit (b.toNat / 16), upperHexDigit (b.toNat % 16)]

/-- Writes a character as it is or as its bytes. -/
def encodeChar (isKept : Char → Bool) (c : Char) : List Char :=
  if isKept c then [c] else c.toString.toUTF8.toList.flatMap encodeByte

def encode (isKept : Char → Bool) (cs : List Char) : List Char := cs.flatMap (encodeChar isKept)

/-- The bytes that a text stands for. A percent sign without two digits behind it is itself. -/
def decode : List Char → List UInt8
  | '%' :: a :: b :: rest =>
    if Text.isHexDigit a && Text.isHexDigit b then
      UInt8.ofNat (16 * Text.hexDigitValue a + Text.hexDigitValue b) :: decode rest
    else 0x25 :: decode (a :: b :: rest)
  | c :: rest => c.toString.toUTF8.toList ++ decode rest
  | [] => []

def decodedText? (cs : List Char) : Option String := String.fromUTF8? ⟨(decode cs).toArray⟩

/-! ## What is kept -/

/-- ASCII without control characters. -/
def keptInOpaque (c : Char) : Bool := 0x20 ≤ c.toNat && c.toNat < 0x7f

def keptInFragment (c : Char) : Bool := keptInOpaque c && c ∉ [' ', '"', '<', '>', '\x60']

def keptInPath (c : Char) : Bool := keptInFragment c && c ∉ ['#', '?', '\x7b', '\x7d']

/-- In a user's name or password. -/
def keptInCredentials (c : Char) : Bool :=
  keptInPath c && c ∉ ['/', ':', ';', '=', '@', '[', '\\', ']', '^', '|']

def keptInQuery (c : Char) : Bool := keptInOpaque c && c ∉ [' ', '"', '#', '<', '>']

/-! ## Forms

A query can be a list of names and values, as a form sends it. A space is written as a plus there.
-/

def keptInForm (c : Char) : Bool :=
  Text.isAsciiLetter c || Text.isAsciiDigit c || c = '*' || c = '-' || c = '.' || c = '_'

def encodeForm (cs : List Char) : List Char :=
  cs.flatMap fun c => if c = ' ' then ['+'] else encodeChar keptInForm c

/-- Text that is not UTF-8 is left encoded. -/
def decodeForm (cs : List Char) : String :=
  (decodedText? (cs.map fun c => if c = '+' then ' ' else c)).getD (String.ofList cs)

/-- The names and values in a query. -/
def formPairs (query : String) : List (String × String) :=
  ((query.splitOn "&").filter (!·.isEmpty)).map fun pair =>
    let (name, value) := pair.toList.span (· ≠ '=')
    (decodeForm name, decodeForm value.tail)

/-- The query that a form sends. -/
def formQuery (pairs : List (String × String)) : String :=
  "&".intercalate (pairs.map fun (name, value) =>
    String.ofList (encodeForm name.toList ++ '=' :: encodeForm value.toList))

end DeclaredSchema.Percent
