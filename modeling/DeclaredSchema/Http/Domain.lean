import DeclaredSchema.Http.Domain.Mapping
import DeclaredSchema.Http.Domain.Punycode
import DeclaredSchema.Text.Composition
import DeclaredSchema.Text.Direction
import DeclaredSchema.Text.Joining

/-!
# Domain names

A domain name is made of labels between dots, in any script. It is looked up in a form of ASCII
characters only, in which a label beyond ASCII is Punycode behind a mark. Different spellings of a
name have one form.
-/

namespace DeclaredSchema.Domain

/-- What no domain name holds. -/
def isForbidden (c : Char) : Bool :=
  c.toNat ≤ 0x20 || c.toNat = 0x7f ||
    c ∈ ['#', '%', '/', ':', '<', '>', '?', '@', '[', '\\', ']', '^', '|']

/-- A character that stands for itself. -/
def isStable (c : Char) : Bool := map? c = some [c] && !isForbidden c

structure Label where
  /-- As it is looked up. -/
  ascii : List Char
  /-- As it is read. -/
  shown : List Char

namespace Label

/-- In front of labels in Punycode. -/
def mark : List Char := ['x', 'n', '-', '-']

def longestEncoded : Nat := 1000

def longestDecoded : Nat := 2000

/-- A label that is in Punycode already, from what stands behind the mark. It has to be one that is
written so. -/
def ofEncoded? (cs : List Char) : Option Label := do
  let shown ← Punycode.decode? cs
  if cs.length ≤ longestDecoded && cs.getLast? ≠ some '-' && !shown.all Text.isAscii &&
      !mark.isPrefixOf shown && Text.composed shown = shown then
    some ⟨mark ++ cs, shown⟩
  else none

/-- A label of mapped and composed text. -/
def ofText? (cs : List Char) : Option Label :=
  if mark.isPrefixOf cs then ofEncoded? (cs.drop mark.length)
  else if cs.all Text.isAscii then some ⟨cs, cs⟩
  else if cs.length ≤ longestEncoded then some ⟨mark ++ Punycode.encode cs, cs⟩
  else none

def directions (l : Label) : List Text.Direction := l.shown.map Text.Direction.ofChar

/-- A label holds what stands for itself, and starts with no mark. -/
def isValid (l : Label) : Bool :=
  l.shown.all isStable && !l.shown.head?.any Text.isMark && Text.joinersFit [] l.shown

end Label

/-- The labels of a name, as it is written. -/
def labels? (cs : List Char) : Option (List Label) := do
  let mapped ← cs.mapM map?
  ((Text.composed mapped.flatten).splitOn '.').mapM Label.ofText?

/-- If something is written from the right, all labels have to stay in one piece. -/
def areValid (labels : List Label) : Bool :=
  let directions := labels.map Label.directions
  labels.all Label.isValid &&
    (!directions.any (·.any Text.Direction.isFromRight) ||
      directions.all Text.Direction.isStable)

/-- The form in which a name is looked up. -/
def ofText? (cs : List Char) : Option (List Char) := do
  let labels ← labels? cs
  if areValid labels then some (['.'].intercalate (labels.map Label.ascii)) else none

end DeclaredSchema.Domain
