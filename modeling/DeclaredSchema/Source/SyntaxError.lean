import DeclaredSchema.Source.Token

/-!
# Why a source text is refused

Each way in which a text fails to be Python, with the line that is blamed.
-/

namespace DeclaredSchema.Source

namespace SyntaxError

inductive Cause where
  | unterminatedString
  | neverClosed (bracket : Bracket)
  | mismatchedClose (found opened : Bracket)
  | unmatchedClose (found : Bracket)
  | invalidCharacter (c : Char)
  | inconsistentDedent
  | unexpectedIndent
  | missingBlock
  | missingHandler
  | strayClause (clause : Clause)
  | unexpectedToken (found : Token.Kind)
  | unexpectedEnd
  | notAssignable
  deriving DecidableEq, Repr

/-- A character between single quotes. -/
def quotedChar (c : Char) : String := "'" ++ String.singleton c ++ "'"

/-- How a token is named in a message. -/
def describe : Token.Kind → String
  | .name n => "'" ++ n ++ "'"
  | .number n => n
  | .str _ _ => "string literal"
  | .symbol s => "'" ++ s.text ++ "'"
  | _ => "end of line"

def Cause.message : Cause → String
  | .unterminatedString => "unterminated string literal"
  | .neverClosed b => quotedChar b.opening ++ " was never closed"
  | .mismatchedClose found opened =>
    "closing " ++ quotedChar found.closing ++ " does not match opening " ++
      quotedChar opened.opening
  | .unmatchedClose found => "unmatched " ++ quotedChar found.closing
  | .invalidCharacter c => "invalid character " ++ quotedChar c
  | .inconsistentDedent => "unindent does not match any outer indentation level"
  | .unexpectedIndent => "unexpected indent"
  | .missingBlock => "expected an indented block"
  | .missingHandler => "expected 'except' or 'finally' block"
  | .strayClause clause => "'" ++ clause.keyword ++ "' without a matching clause"
  | .unexpectedToken found => "invalid syntax at " ++ describe found
  | .unexpectedEnd => "invalid syntax at end of line"
  | .notAssignable => "cannot assign to expression"

end SyntaxError

structure SyntaxError where
  line : Nat
  cause : SyntaxError.Cause
  deriving DecidableEq, Repr

namespace SyntaxError

/-- The message without its line. -/
def message (e : SyntaxError) : String := e.cause.message

def text (e : SyntaxError) : String := "line " ++ toString e.line ++ ": " ++ e.message

end SyntaxError

end DeclaredSchema.Source
