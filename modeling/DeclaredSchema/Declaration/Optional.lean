import DeclaredSchema.Source.Expr
import DeclaredSchema.Source.Lexer

/-!
# Optional annotations

An annotation is optional when it admits `None`: `Optional[T]`, `Union[..., None]`, `T | None`, an
`Annotated` one of these, or any of them written as a string. A string inside an annotation is
shorter than the annotation it stands in, so the number of strings within strings is bounded by the
length of the longest one.
-/

namespace DeclaredSchema

open Source

mutual

/-- Whether an annotation is optional, given the answer for annotations written as strings. -/
def isOptionalWith (forward : String → Bool) : Expr → Bool
  | .subscript value (.tuple members) => match value.tailName? with
    | some "Optional" => true
    | some "Union" => anyOptionalWith forward members
    | some "Annotated" => firstOptionalWith forward members
    | _ => false
  | .subscript value index => match value.tailName? with
    | some "Optional" => true
    | some "Union" => index.isNone
    | some "Annotated" => isOptionalWith forward index
    | _ => false
  | .union members => anyOptionalWith forward members
  | .literal (.str s) => forward s
  | _ => false

/-- Some member is `None` or optional. -/
def anyOptionalWith (forward : String → Bool) : List Expr → Bool
  | [] => false
  | e :: rest => e.isNone || isOptionalWith forward e || anyOptionalWith forward rest

/-- The first member is optional. -/
def firstOptionalWith (forward : String → Bool) : List Expr → Bool
  | [] => false
  | e :: _ => isOptionalWith forward e

end

/-- The tokens of an annotation written as a string, without its line ends. -/
def forwardTokens? (text : String) : Option (List Token) :=
  match tokenize text with
  | .ok tokens => some (tokens.filter fun t => t.kind ≠ .newline && t.kind ≠ .endMarker)
  | .error _ => none

/-- Whether an annotation is optional, looking into at most `depth` strings within each other. -/
def isOptionalWithin : Nat → Expr → Bool
  | 0, e => isOptionalWith (fun _ => false) e
  | depth + 1, e => isOptionalWith (fun text =>
      match forwardTokens? text with
      | some tokens => isOptionalWithin depth (.ofTokens tokens)
      | none => false) e

mutual

/-- The length of the longest string literal in an expression. -/
def Source.Expr.longestText : Expr → Nat
  | .literal (.str s) => s.length
  | .member e _ => e.longestText
  | .call e args => max e.longestText (longestTextOfArgs args)
  | .subscript e i => max e.longestText i.longestText
  | .tuple items => longestTextOf items
  | .list items => longestTextOf items
  | .union items => longestTextOf items
  | .negate e => e.longestText
  | _ => 0

def longestTextOf : List Expr → Nat
  | [] => 0
  | e :: rest => max e.longestText (longestTextOf rest)

def longestTextOfArgs : List (Option String × Expr) → Nat
  | [] => 0
  | (_, e) :: rest => max e.longestText (longestTextOfArgs rest)

end

/-- Whether an annotation admits `None`. -/
def isOptional (e : Expr) : Bool := isOptionalWithin (e.longestText + 1) e

end DeclaredSchema
