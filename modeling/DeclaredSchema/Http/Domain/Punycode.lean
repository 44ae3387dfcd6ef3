import DeclaredSchema.Text.Alphabet

/-!
# Punycode

A text of any characters as letters, digits and hyphens of ASCII. The ASCII characters come first,
up to the last hyphen. Behind them, for each other character in the order of their code points,
stands how many pairs of a code point and a place are skipped before the one where it belongs. The
numbers are written in digits of base 36, and how long they are adapts to those before.
-/

namespace DeclaredSchema.Punycode

def base : Nat := 36

def digit (n : Nat) : Char := if n < 26 then Char.ofNat (0x61 + n) else Char.ofNat (0x30 + n - 26)

def digit? (c : Char) : Option Nat :=
  if Text.isAsciiLetter c then some ((Text.asciiLower c).toNat - 0x61)
  else if Text.isAsciiDigit c then some (c.toNat - 0x30 + 26)
  else none

/-- A digit below the threshold ends a number. `place` counts by the base, from the base on. -/
def threshold (place bias : Nat) : Nat :=
  if place ≤ bias then 1 else if bias + 26 ≤ place then 26 else place - bias

theorem threshold_pos (place bias : Nat) : 0 < threshold place bias := by
  unfold threshold
  split
  · omega
  · split <;> omega

/-- Divides until the rest is small, and counts by the base how often. -/
def shrink (n count : Nat) : Nat × Nat :=
  if 455 < n then shrink (n / 35) (count + base) else (n, count)
  termination_by n
  decreasing_by omega

/-- The bias behind a number, by the count of characters there are then. -/
def adapt (number count : Nat) (isFirst : Bool) : Nat :=
  let n := if isFirst then number / 700 else number / 2
  let (small, places) := shrink (n + n / count) 0
  places + 36 * small / (small + 38)

/-- The first code point that is not kept as it is. -/
def firstCode : Nat := 0x80

def firstBias : Nat := 72

/-! ## Writing -/

def writeNumber (bias place n : Nat) : List Char :=
  let t := threshold place bias
  if n < t then [digit n]
  else digit (t + (n - t) % (base - t)) :: writeNumber bias (place + base) ((n - t) / (base - t))
  termination_by n
  decreasing_by
    have := threshold_pos place bias
    have := Nat.div_le_self (n - threshold place bias) (base - threshold place bias)
    omega

structure Writing where
  written : List Char := []
  /-- How many pairs have been skipped since the last number. -/
  skipped : Nat := 0
  bias : Nat := firstBias
  /-- How many characters there are so far. -/
  count : Nat

/-- Passes the place before a character. -/
def Writing.pass (kept code : Nat) (w : Writing) (c : Char) : Writing :=
  if c.toNat < code then { w with skipped := w.skipped + 1 }
  else if c.toNat = code then
    { written := w.written ++ writeNumber w.bias base w.skipped
      skipped := 0
      bias := adapt w.skipped (w.count + 1) (w.count = kept)
      count := w.count + 1 }
  else w

/-- Writes what is not kept. `next` is the least code point that has not been passed. -/
def writeCodes (cs : List Char) (kept : Nat) : List Nat → (next : Nat) → Writing → List Char
  | [], _, w => w.written
  | code :: rest, next, w =>
    let w := { w with skipped := w.skipped + (code - next) * (w.count + 1) }
    let w := cs.foldl (Writing.pass kept code) w
    writeCodes cs kept rest (code + 1) { w with skipped := w.skipped + 1 }

def encode (cs : List Char) : List Char :=
  let kept := cs.filter Text.isAscii
  let codes := ((cs.filter (!Text.isAscii ·)).map Char.toNat).mergeSort.eraseDups
  kept ++ (if kept.isEmpty then [] else ['-']) ++
    writeCodes cs kept.length codes firstCode { count := kept.length }

/-! ## Reading -/

structure Reading where
  text : List Char
  code : Nat := firstCode
  bias : Nat := firstBias
  /-- Where the last character was put in, and one more. -/
  start : Nat := 0
  /-- The start and what has been read of a number. -/
  sum : Nat := 0
  /-- What the next digit counts. -/
  weight : Nat := 1
  place : Nat := base

/-- Puts in the character that a number stands for. -/
def Reading.insert? (r : Reading) : Option Reading :=
  let count := r.text.length + 1
  let code := r.code + r.sum / count
  let place := r.sum % count
  if code.isValidChar then
    some {
      text := r.text.take place ++ Char.ofNat code :: r.text.drop place
      code
      bias := adapt (r.sum - r.start) count (r.start = 0)
      start := place + 1
      sum := place + 1 }
  else none

def Reading.step? (r : Reading) (c : Char) : Option Reading := do
  let n ← digit? c
  let t := threshold r.place r.bias
  let r := { r with sum := r.sum + n * r.weight }
  if n < t then r.insert?
  else some { r with weight := r.weight * (base - t), place := r.place + base }

/-- A hyphen in front is no end of what is kept. -/
def decode? (cs : List Char) : Option (List Char) := do
  let (codes, kept) := cs.reverse.span (· ≠ '-')
  let kept := kept.tail.reverse
  let codes := if kept.isEmpty then cs else codes.reverse
  let r ← codes.foldlM Reading.step? { text := kept }
  if kept.all Text.isAscii && r.place = base then some r.text else none

end DeclaredSchema.Punycode
