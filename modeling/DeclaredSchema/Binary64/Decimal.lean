import DeclaredSchema.Binary64
import DeclaredSchema.Text.Alphabet

/-!
# Doubles and decimal text

Reading rounds the exact decimal value once. Writing takes the fewest digits that read back to the
same double and, of those, the nearest; a `DecimalLayout` then says where the point goes.
-/

namespace DeclaredSchema

namespace Binary64

/-- The double nearest to `digits * 10 ^ exponent`. Exponents far outside the range are settled by
the count of digits, without raising ten to them. -/
def ofDecimal (negative : Bool) (digits : Nat) (exponent : Int) : Binary64 :=
  let count : Int := (Nat.toDigits 10 digits).length
  if digits = 0 || count + exponent < -330 then zero negative
  else if count + exponent > 310 then infinity negative
  else if 0 ≤ exponent then ofRatio negative (digits * Nat.pow 10 exponent.toNat) 1
  else ofRatio negative digits (Nat.pow 10 (-exponent).toNat)

end Binary64

/-- The value of a string of decimal digits. -/
def natOfDigits (cs : List Char) : Nat :=
  cs.foldl (fun n c => 10 * n + (c.toNat - 48)) 0

namespace Binary64

/-- Reads digits with an optional point and an optional exponent. There has to be a digit before
the exponent and one after its mark. -/
def ofDecimalText? (cs : List Char) : Option Binary64 :=
  let whole := cs.takeWhile Text.isAsciiDigit
  let afterWhole := cs.dropWhile Text.isAsciiDigit
  let (part, rest) := match afterWhole with
    | '.' :: more => (more.takeWhile Text.isAsciiDigit, more.dropWhile Text.isAsciiDigit)
    | _ => ([], afterWhole)
  if whole.isEmpty && part.isEmpty then none
  else
    let digits := natOfDigits (whole ++ part)
    let shift : Int := part.length
    match rest with
    | [] => some (ofDecimal false digits (-shift))
    | mark :: more =>
      if mark = 'e' || mark = 'E' then
        let (negative, exponent) := match more with
          | '-' :: ds => (true, ds)
          | '+' :: ds => (false, ds)
          | ds => (false, ds)
        if exponent.isEmpty || !exponent.all Text.isAsciiDigit then none
        else
          let e : Int := natOfDigits exponent
          some (ofDecimal false digits ((if negative then -e else e) - shift))
      else none

/-- Which neighbour to take when a double lies exactly between two shortest decimals. -/
inductive DecimalTie where
  | even
  | up
  deriving DecidableEq, Repr

/-- Four times the significand, with the ends of the interval of reals that round to the double:
all three are multiples of `2 ^ (scale - 2)`. Below a power of two the gap is half as wide. -/
def interval (x : Binary64) : Nat × Nat × Nat :=
  let m := x.significand
  let low := if m = hiddenBit && x.scale > -1074 then 4 * m - 1 else 4 * m - 2
  (low, 4 * m, 4 * m + 2)

/-- `n * 2 ^ (scale - 2) / 10 ^ unit` as a quotient of naturals. -/
def onGrid (n : Nat) (scale unit : Int) : Nat × Nat :=
  let two : Nat × Nat :=
    if 2 ≤ scale then (n * Nat.pow 2 (scale - 2).toNat, 1) else (n, Nat.pow 2 (2 - scale).toNat)
  if 0 ≤ unit then (two.1, two.2 * Nat.pow 10 unit.toNat)
  else (two.1 * Nat.pow 10 (-unit).toNat, two.2)

/-- The multiples of `10 ^ unit` next to the double that read back to it; the nearer wins. -/
def onDecimalGrid? (tie : DecimalTie) (x : Binary64) (unit : Int) : Option Nat :=
  let (low, mid, high) := x.interval
  let (lowNum, den) := onGrid low x.scale unit
  let (midNum, _) := onGrid mid x.scale unit
  let (highNum, _) := onGrid high x.scale unit
  let closed := x.significand % 2 == 0
  let below := midNum / den
  let above := below + 1
  let belowHits := if closed then lowNum ≤ below * den else lowNum < below * den
  let aboveHits := if closed then above * den ≤ highNum else above * den < highNum
  if belowHits && aboveHits then
    let twice := 2 * (midNum % den)
    if twice < den then some below
    else if den < twice then some above
    else match tie with
      | .up => some above
      | .even => some (if below % 2 == 0 then below else above)
  else if belowHits then some below
  else if aboveHits then some above
  else none

/-- The exponent of the leading decimal digit of a double that is not zero, or one less. -/
def decimalExponent (x : Binary64) : Int :=
  let (num, den) := x.ratio
  let digits (n : Nat) : Int := (Nat.toDigits 10 n).length
  digits num - digits den - 1

/-- Tries coarse grids first. The value of seventeen digits always reads back. -/
def shortestFrom (tie : DecimalTie) (x : Binary64) : Nat → Int → Nat × Int
  | 0, unit => (((x.onDecimalGrid? tie unit).getD 0), unit)
  | tries + 1, unit => match x.onDecimalGrid? tie unit with
    | some n => if n = 0 then shortestFrom tie x tries (unit - 1) else (n, unit)
    | none => shortestFrom tie x tries (unit - 1)

/-- The shortest decimal `(digits, exponent)` of a finite double that is not zero, meaning
`digits * 10 ^ exponent`, with no zeros at the end of the digits. -/
def shortest (tie : DecimalTie) (x : Binary64) : List Char × Int :=
  let (n, unit) := shortestFrom tie x 20 (x.decimalExponent + 1)
  let digits := Nat.toDigits 10 n
  let kept := (digits.reverse.dropWhile (· == '0')).reverse
  (kept, unit + ((digits.length - kept.length : Nat) : Int))

/-- How a decimal is laid out: `positional` says for which exponents of the leading digit there is
no exponent mark, `plus` opens an exponent that is not negative, `wholeTail` follows a whole number,
`infinity` takes the sign. -/
structure DecimalLayout where
  tie : DecimalTie
  positional : Int → Bool
  plus : List Char
  wholeTail : List Char
  zero : List Char
  infinity : Bool → List Char
  nan : List Char

/-- A number shown to people: always positional, a whole number without a point. -/
def DecimalLayout.plain : DecimalLayout where
  tie := .up
  positional := fun _ => true
  plus := []
  wholeTail := []
  zero := ['0']
  infinity := fun negative => if negative then ['-', 'i', 'n', 'f'] else ['i', 'n', 'f']
  nan := ['N', 'a', 'N']

/-- A number in a JSON text: positional from 10⁻⁵ up to below 10¹⁶, and never like an integer. -/
def DecimalLayout.json : DecimalLayout where
  tie := .even
  positional := fun e => -6 < e && e < 16
  plus := ['+']
  wholeTail := ['.', '0']
  zero := ['0', '.', '0']
  infinity := fun _ => ['n', 'u', 'l', 'l']
  nan := ['n', 'u', 'l', 'l']

def layOut (layout : DecimalLayout) (digits : List Char) (exponent : Int) : List Char :=
  let count : Int := digits.length
  let lead := count + exponent - 1
  if layout.positional lead then
    if 0 ≤ exponent then digits ++ List.replicate exponent.toNat '0' ++ layout.wholeTail
    else if 0 ≤ lead then
      digits.take (lead + 1).toNat ++ '.' :: digits.drop (lead + 1).toNat
    else '0' :: '.' :: List.replicate (-lead - 1).toNat '0' ++ digits
  else
    let mark := 'e' :: (if 0 ≤ lead then layout.plus else []) ++ (toString lead).toList
    match digits with
    | [d] => d :: mark
    | d :: more => d :: '.' :: more ++ mark
    | [] => mark

def decimalText (layout : DecimalLayout) (x : Binary64) : String :=
  let sign := if x.negative then ['-'] else []
  String.ofList <|
    if !x.isFinite then
      if x.isNaN then layout.nan else layout.infinity x.negative
    else if x.significand = 0 then sign ++ layout.zero
    else
      let (digits, exponent) := x.shortest layout.tie
      sign ++ layOut layout digits exponent

end Binary64

end DeclaredSchema
