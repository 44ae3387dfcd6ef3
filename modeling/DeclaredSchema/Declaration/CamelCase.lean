import DeclaredSchema.Text.LetterCase

/-!
# Names in camel case

`user_profile` becomes `userProfile`: underscores go, the first word stays as it is, and every other
word gets a capital first letter and a lower-case rest.
-/

namespace DeclaredSchema

/-- The parts of a name between underscores. -/
def nameWords : List Char → List (List Char)
  | [] => [[]]
  | c :: cs =>
    if c = '_' then [] :: nameWords cs
    else match nameWords cs with
      | word :: words => (c :: word) :: words
      | [] => [[c]]

def capitalized : List Char → List Char
  | [] => []
  | c :: cs => Text.upper c ++ Text.lowerText cs

def camelCase (name : String) : String :=
  String.ofList <| match nameWords name.toList with
    | [] => []
    | first :: others => first ++ others.flatMap capitalized

end DeclaredSchema
