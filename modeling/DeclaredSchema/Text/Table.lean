import DeclaredSchema.Text.Alphabet
import DeclaredSchema.Text.CodePointSet

/-!
# Tables as text

A large table is kept as a text of hexadecimal numbers between blanks. A semicolon ends a row.
-/

namespace DeclaredSchema.Text

def tableNumbers (cs : List Char) : List Nat :=
  ((cs.splitOnP fun c => c = ' ' || c = '\n').filter (!·.isEmpty)).map (numberInBase 16)

def tableRows (table : String) : List (List Nat) := (table.toList.splitOn ';').map tableNumbers

/-- A set from the list of its boundaries. -/
def CodePointSet.ofTable (table : String) : CodePointSet where
  bounds := (tableNumbers table.toList).toArray

end DeclaredSchema.Text
