/-!
# Instants

A point in time as whole seconds since the beginning of 1970 and nanoseconds, in UTC, and its
written form with milliseconds. A nanosecond count beyond a second belongs to a leap second.
-/

namespace DeclaredSchema

structure Instant where
  seconds : Int
  nanos : Nat
  deriving DecidableEq, Repr, Inhabited

namespace Instant

/-- The instant a number of milliseconds later. -/
def addMillis (t : Instant) (millis : Int) : Instant :=
  let nanos : Int := t.nanos + millis * 1000000
  ⟨t.seconds + nanos.fdiv 1000000000, (nanos.fmod 1000000000).toNat⟩

/-- Year, month and day of a number of days since the beginning of 1970. Years are counted from
March, in eras of 400 years. -/
def civil (days : Int) : Int × Nat × Nat :=
  let shifted := days + 719468
  let era := shifted.fdiv 146097
  let dayOfEra := (shifted.fmod 146097).toNat
  let yearOfEra :=
    (dayOfEra - dayOfEra / 1460 + dayOfEra / 36524 - dayOfEra / 146096) / 365
  let dayOfYear := dayOfEra - (365 * yearOfEra + yearOfEra / 4 - yearOfEra / 100)
  let shiftedMonth := (5 * dayOfYear + 2) / 153
  let day := dayOfYear - (153 * shiftedMonth + 2) / 5 + 1
  let month := if shiftedMonth < 10 then shiftedMonth + 3 else shiftedMonth - 9
  let year : Int := yearOfEra + era * 400
  (if month ≤ 2 then year + 1 else year, month, day)

/-- Decimal digits with zeros in front up to a width. -/
def padded (width n : Nat) : List Char :=
  let digits := Nat.toDigits 10 n
  List.replicate (width - digits.length) '0' ++ digits

/-- Four digits; a year before 0 or after 9999 has a sign. -/
def yearText (year : Int) : List Char :=
  if 0 ≤ year ∧ year ≤ 9999 then padded 4 year.toNat
  else (if year < 0 then '-' else '+') :: padded 4 year.natAbs

/-- Date and time to the millisecond, in the form `1970-01-01T00:00:00.000Z`. -/
def text (t : Instant) : String :=
  let (year, month, day) := civil (t.seconds.fdiv 86400)
  let ofDay := (t.seconds.fmod 86400).toNat
  let (leap, nanos) := if t.nanos ≥ 1000000000 then (1, t.nanos - 1000000000) else (0, t.nanos)
  String.ofList (yearText year ++ '-' :: padded 2 month ++ '-' :: padded 2 day ++
    'T' :: padded 2 (ofDay / 3600) ++ ':' :: padded 2 (ofDay / 60 % 60) ++
    ':' :: padded 2 (ofDay % 60 + leap) ++ '.' :: padded 3 (nanos / 1000000) ++ ['Z'])

end Instant

end DeclaredSchema
