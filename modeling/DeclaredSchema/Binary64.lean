/-!
# Double precision numbers

A double is held as its 64 bits, so equality of values is equality of bits and every NaN and both
zeros stay apart. The arithmetic that the program needs (rounding a quotient of naturals, a product,
a quotient) is exact arithmetic on naturals followed by one rounding to nearest, ties to even.
-/

namespace DeclaredSchema

structure Binary64 where
  bits : UInt64
  deriving DecidableEq, Repr

namespace Binary64

def negative (x : Binary64) : Bool := x.bits ≥ 0x8000000000000000

/-- The weight of the leading bit of a significand of 53 bits. -/
def hiddenBit : Nat := 0x10000000000000

/-- The eleven exponent bits. -/
def exponentField (x : Binary64) : Nat := (x.bits.toNat / hiddenBit) % 2048

/-- The 52 bits below the exponent. -/
def fraction (x : Binary64) : Nat := x.bits.toNat % hiddenBit

def isFinite (x : Binary64) : Bool := x.exponentField != 2047

def isNaN (x : Binary64) : Bool := x.exponentField == 2047 && x.fraction != 0

/-- The magnitude of a finite double is `significand * 2 ^ scale`. -/
def significand (x : Binary64) : Nat :=
  if x.exponentField = 0 then x.fraction else hiddenBit + x.fraction

def scale (x : Binary64) : Int :=
  if x.exponentField = 0 then -1074 else (x.exponentField : Int) - 1075

/-- Flips the sign bit. -/
def neg (x : Binary64) : Binary64 := ⟨x.bits ^^^ 0x8000000000000000⟩

def ofFields (negative : Bool) (exponent fraction : Nat) : Binary64 :=
  ⟨UInt64.ofNat (((if negative then 2048 else 0) + exponent) * hiddenBit + fraction)⟩

def zero (negative : Bool) : Binary64 := ofFields negative 0 0

def infinity (negative : Bool) : Binary64 := ofFields negative 2047 0

def quietNaN (negative : Bool) : Binary64 := ofFields negative 2047 (hiddenBit / 2)

/-- The natural number nearest to `num / den`; of two that are equally near, the even one. -/
def roundQuotient (num den : Nat) : Nat :=
  let low := num / den
  let twice := 2 * (num % den)
  if twice < den || (twice == den && low % 2 == 0) then low else low + 1

/-- `num / den * 2 ^ -scale` as a quotient of naturals. -/
def scaled (num den : Nat) (scale : Int) : Nat × Nat :=
  if 0 ≤ scale then (num, den * Nat.pow 2 scale.toNat)
  else (num * Nat.pow 2 (-scale).toNat, den)

/-- The scale at which `num / den` has a significand of 53 bits, or the least scale there is. The
two logarithms leave a doubt of one, which one comparison settles. -/
def scaleFor (num den : Nat) : Int :=
  let guess : Int := (num.log2 : Int) - (den.log2 : Int) - 53
  let (n, d) := scaled num den guess
  max (-1074) (if n / d < 2 * hiddenBit then guess else guess + 1)

/-- The double nearest to `num / den`, infinite from half a unit above the largest finite one. -/
def ofRatio (negative : Bool) (num den : Nat) : Binary64 :=
  if num = 0 then zero negative
  else
    let scale := scaleFor num den
    let (n, d) := scaled num den scale
    let m := roundQuotient n d
    if m < hiddenBit then ofFields negative 0 m
    else if m = 2 * hiddenBit then
      if scale + 1 > 971 then infinity negative
      else ofFields negative (scale + 1 + 1075).toNat 0
    else if scale > 971 then infinity negative
    else ofFields negative (scale + 1075).toNat (m - hiddenBit)

def ofInt (n : Int) : Binary64 := ofRatio (n < 0) n.natAbs 1

/-- The magnitude of a finite double as a quotient of naturals. -/
def ratio (x : Binary64) : Nat × Nat :=
  if 0 ≤ x.scale then (x.significand * Nat.pow 2 x.scale.toNat, 1)
  else (x.significand, Nat.pow 2 (-x.scale).toNat)

/-- Product of two finite doubles. -/
def mul (x y : Binary64) : Binary64 :=
  let (a, b) := x.ratio
  let (c, d) := y.ratio
  ofRatio (x.negative != y.negative) (a * c) (b * d)

/-- Quotient of two finite doubles, the second of which is not zero. -/
def div (x y : Binary64) : Binary64 :=
  let (a, b) := x.ratio
  let (c, d) := y.ratio
  ofRatio (x.negative != y.negative) (a * d) (b * c)

end Binary64

end DeclaredSchema
