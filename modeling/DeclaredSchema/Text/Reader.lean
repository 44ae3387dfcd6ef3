/-!
# Readers

A reader takes a value off the front of a text and leaves the rest, or refuses the text.
-/

namespace DeclaredSchema.Text

abbrev Reader (α : Type) := List Char → Option (α × List Char)

end DeclaredSchema.Text
