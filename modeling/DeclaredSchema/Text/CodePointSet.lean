/-!
# Sets of characters as lists of boundaries

A property of characters that a standard gives by ranges is held as the increasing list of the code
points at which membership flips. A character belongs to the set when an odd number of boundaries
lie at or below it.
-/

namespace DeclaredSchema.Text

structure CodePointSet where
  bounds : Array Nat

namespace CodePointSet

def contains (s : CodePointSet) (c : Char) : Bool :=
  s.bounds.foldl (fun inside b => if b ≤ c.toNat then !inside else inside) false

end CodePointSet

end DeclaredSchema.Text
