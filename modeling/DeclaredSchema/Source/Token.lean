/-!
# Tokens of a source text

A Python source is read as words, numbers, string literals and symbols, with marks for the end of a
logical line and for a change of its indentation. Every token knows the line it begins on.
-/

namespace DeclaredSchema.Source

/-- The three kinds of brackets. -/
inductive Bracket where
  | paren
  | square
  | brace
  deriving DecidableEq, Repr

namespace Bracket

def opening : Bracket → Char
  | paren => '('
  | square => '['
  | brace => '\x7b'

def closing : Bracket → Char
  | paren => ')'
  | square => ']'
  | brace => '\x7d'

end Bracket

/-- Operators and delimiters. -/
inductive Symbol where
  | powerAssign
  | floorDivAssign
  | shiftRightAssign
  | shiftLeftAssign
  | ellipsis
  | arrow
  | walrus
  | eq
  | ne
  | le
  | ge
  | power
  | floorDiv
  | shiftLeft
  | shiftRight
  | addAssign
  | subAssign
  | mulAssign
  | divAssign
  | modAssign
  | andAssign
  | orAssign
  | xorAssign
  | matMulAssign
  | openParen
  | closeParen
  | openSquare
  | closeSquare
  | openBrace
  | closeBrace
  | comma
  | colon
  | semicolon
  | dot
  | assign
  | plus
  | minus
  | star
  | slash
  | percent
  | amp
  | bar
  | caret
  | tilde
  | lt
  | gt
  | at
  | bang
  deriving DecidableEq, Repr

namespace Symbol

def text : Symbol → String
  | .powerAssign => "**="
  | .floorDivAssign => "//="
  | .shiftRightAssign => ">>="
  | .shiftLeftAssign => "<<="
  | .ellipsis => "..."
  | .arrow => "->"
  | .walrus => ":="
  | .eq => "=="
  | .ne => "!="
  | .le => "<="
  | .ge => ">="
  | .power => "**"
  | .floorDiv => "//"
  | .shiftLeft => "<<"
  | .shiftRight => ">>"
  | .addAssign => "+="
  | .subAssign => "-="
  | .mulAssign => "*="
  | .divAssign => "/="
  | .modAssign => "%="
  | .andAssign => "&="
  | .orAssign => "|="
  | .xorAssign => "^="
  | .matMulAssign => "@="
  | .openParen => "("
  | .closeParen => ")"
  | .openSquare => "["
  | .closeSquare => "]"
  | .openBrace => "\x7b"
  | .closeBrace => "\x7d"
  | .comma => ","
  | .colon => ":"
  | .semicolon => ";"
  | .dot => "."
  | .assign => "="
  | .plus => "+"
  | .minus => "-"
  | .star => "*"
  | .slash => "/"
  | .percent => "%"
  | .amp => "&"
  | .bar => "|"
  | .caret => "^"
  | .tilde => "~"
  | .lt => "<"
  | .gt => ">"
  | .at => "@"
  | .bang => "!"

/-- All symbols, those of three characters before those of two and those before the single ones. -/
def all : List Symbol := [
    .powerAssign, .floorDivAssign, .shiftRightAssign, .shiftLeftAssign, .ellipsis, .arrow,
    .walrus, .eq, .ne, .le, .ge, .power, .floorDiv, .shiftLeft, .shiftRight, .addAssign,
    .subAssign, .mulAssign, .divAssign, .modAssign, .andAssign, .orAssign, .xorAssign,
    .matMulAssign, .openParen, .closeParen, .openSquare, .closeSquare, .openBrace,
    .closeBrace, .comma, .colon, .semicolon, .dot, .assign, .plus, .minus, .star, .slash,
    .percent, .amp, .bar, .caret, .tilde, .lt, .gt, .at, .bang]

theorem mem_all (s : Symbol) : s ∈ all := by cases s <;> decide

def chars (s : Symbol) : List Char := s.text.toList

theorem chars_ne_nil (s : Symbol) : s.chars ≠ [] := by cases s <;> decide

def ofText? (text : String) : Option Symbol := all.find? (·.text == text)

/-- The longest symbol at the front of a text. -/
def atFront? (cs : List Char) : Option Symbol := all.find? (·.chars.isPrefixOf cs)

def opens? : Symbol → Option Bracket
  | openParen => some .paren
  | openSquare => some .square
  | openBrace => some .brace
  | _ => none

def closes? : Symbol → Option Bracket
  | closeParen => some .paren
  | closeSquare => some .square
  | closeBrace => some .brace
  | _ => none

end Symbol

namespace Token

inductive Kind where
  | name (text : String)
  | number (text : String)
  /-- A string literal. Formatted and byte literals have no plain value. -/
  | str (value : String) (plain : Bool)
  | symbol (symbol : Symbol)
  | newline
  | indent
  | dedent
  | endMarker
  deriving DecidableEq, Repr

end Token

structure Token where
  kind : Token.Kind
  line : Nat
  deriving DecidableEq, Repr

namespace Token

def isSymbol (t : Token) (s : Symbol) : Bool := t.kind = .symbol s

def isName (t : Token) (name : String) : Bool := t.kind = .name name

def name? (t : Token) : Option String :=
  match t.kind with
  | .name n => some n
  | _ => none

def opens? (t : Token) : Option Bracket :=
  match t.kind with
  | .symbol s => s.opens?
  | _ => none

def closes? (t : Token) : Option Bracket :=
  match t.kind with
  | .symbol s => s.closes?
  | _ => none

def opens (t : Token) : Bool := t.opens?.isSome

def closes (t : Token) : Bool := t.closes?.isSome

/-- The tokens that only shape lines and blocks. -/
def isLayout (t : Token) : Bool :=
  match t.kind with
  | .newline | .indent | .dedent | .endMarker => true
  | _ => false

end Token

/-- The reserved words of Python. `match`, `case` and `type` are ordinary names. -/
def keywords : List String := [
    "False", "None", "True", "and", "as", "assert", "async", "await", "break", "class", "continue",
    "def", "del", "elif", "else", "except", "finally", "for", "from", "global", "if", "import",
    "in", "is", "lambda", "nonlocal", "not", "or", "pass", "raise", "return", "try", "while",
    "with", "yield"]

def isKeyword (word : String) : Bool := keywords.contains word

/-- Words that open a compound statement or one of its clauses. -/
inductive Clause where
  | ifThen
  | elseIf
  | orElse
  | whileLoop
  | forLoop
  | tryBlock
  | handler
  | cleanup
  | withScope
  | function
  | classBody
  deriving DecidableEq, Repr

namespace Clause

def keyword : Clause → String
  | ifThen => "if"
  | elseIf => "elif"
  | orElse => "else"
  | whileLoop => "while"
  | forLoop => "for"
  | tryBlock => "try"
  | handler => "except"
  | cleanup => "finally"
  | withScope => "with"
  | function => "def"
  | classBody => "class"

def all : List Clause :=
  [ifThen, elseIf, orElse, whileLoop, forLoop, tryBlock, handler, cleanup, withScope, function,
    classBody]

def ofKeyword? (word : String) : Option Clause := all.find? (·.keyword == word)

end Clause

end DeclaredSchema.Source
