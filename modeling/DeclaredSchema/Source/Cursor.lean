import DeclaredSchema.Source.SyntaxError

/-!
# A place in a line of tokens

A cursor stands between the tokens that have been read and the rest. It knows the line of the last
token read, which is where an error after the last token is reported.
-/

namespace DeclaredSchema.Source

structure Cursor where
  /-- The line of the last token read, zero before the first. -/
  line : Nat
  rest : List Token
  deriving DecidableEq, Repr

namespace Cursor

/-- Before the first token. -/
def start (tokens : List Token) : Cursor := ⟨0, tokens⟩

def advance (c : Cursor) : Cursor :=
  match c.rest with
  | t :: ts => ⟨t.line, ts⟩
  | [] => c

def atEnd (c : Cursor) : Bool := c.rest.isEmpty

def atSymbol (s : Symbol) (c : Cursor) : Bool := c.rest.head?.any (·.isSymbol s)

def atName (word : String) (c : Cursor) : Bool := c.rest.head?.any (·.isName word)

/-- The name that comes next. -/
def name? (c : Cursor) : Option String := c.rest.head?.bind (·.name?)

/-- The token after the next one. -/
def second? (c : Cursor) : Option Token := c.rest.tail.head?

def third? (c : Cursor) : Option Token := c.rest.tail.tail.head?

/-- Steps over a symbol if it comes next. -/
def eat? (s : Symbol) (c : Cursor) : Option Cursor :=
  if c.atSymbol s then some c.advance else none

def eatAny? (symbols : List Symbol) (c : Cursor) : Option Cursor :=
  if symbols.any (c.atSymbol ·) then some c.advance else none

/-- Steps over a word if it comes next. -/
def eatName? (word : String) (c : Cursor) : Option Cursor :=
  if c.atName word then some c.advance else none

/-- Steps over a symbol if it comes next and stays otherwise. -/
def skip (s : Symbol) (c : Cursor) : Cursor := (c.eat? s).getD c

/-- The next token, or the end of the line, is not what the grammar asks for. -/
def unexpected (c : Cursor) : SyntaxError :=
  match c.rest with
  | t :: _ => ⟨t.line, .unexpectedToken t.kind⟩
  | [] => ⟨c.line, .unexpectedEnd⟩

def expect (s : Symbol) (c : Cursor) : Except SyntaxError Cursor :=
  match c.eat? s with
  | some c => .ok c
  | none => .error c.unexpected

def expectName (word : String) (c : Cursor) : Except SyntaxError Cursor :=
  match c.eatName? word with
  | some c => .ok c
  | none => .error c.unexpected

/-- A name that is no keyword comes next. -/
def atIdentifier (c : Cursor) : Bool := c.name?.any (!isKeyword ·)

def identifier (c : Cursor) : Except SyntaxError Cursor :=
  if c.atIdentifier then .ok c.advance else .error c.unexpected

def finish (c : Cursor) : Except SyntaxError Unit :=
  if c.atEnd then .ok () else .error c.unexpected

/-- Skips what stands in brackets, from the opening bracket on; `depth` brackets are open. -/
def skipBracketsFrom (line depth : Nat) : List Token → Except SyntaxError Cursor
  | [] => .error ⟨line, .unexpectedEnd⟩
  | t :: ts =>
    if t.opens then skipBracketsFrom t.line (depth + 1) ts
    else if t.closes then
      if depth ≤ 1 then .ok ⟨t.line, ts⟩ else skipBracketsFrom t.line (depth - 1) ts
    else skipBracketsFrom t.line depth ts

def skipBrackets (c : Cursor) : Except SyntaxError Cursor := skipBracketsFrom c.line 0 c.rest

/-- Skips what stands in square brackets, if an opening one comes next. -/
def skipTypeParameters (c : Cursor) : Except SyntaxError Cursor :=
  if c.atSymbol .openSquare then c.skipBrackets else .ok c

/-! ## Repetition -/

/-- The outcome of one round of a repetition. -/
inductive Round (α : Type) where
  | stop (value : α) (next : Cursor)
  | again (value : α) (next : Cursor)

/-- Repeats `round` until it stops, at most `fuel` times. A round that wants another one reads a
token, so one more than the number of tokens is enough. -/
def roundsFuel {α : Type} (round : α → Cursor → Except SyntaxError (Round α)) :
    Nat → α → Cursor → Except SyntaxError (α × Cursor)
  | 0, value, c => .ok (value, c)
  | fuel + 1, value, c =>
    match round value c with
    | .error e => .error e
    | .ok (.stop value c) => .ok (value, c)
    | .ok (.again value c) => roundsFuel round fuel value c

def rounds {α : Type} (round : α → Cursor → Except SyntaxError (Round α)) (value : α) (c : Cursor) :
    Except SyntaxError (α × Cursor) :=
  roundsFuel round (c.rest.length + 1) value c

/-- Reads `item`, and again after each comma. -/
def commaList (item : Cursor → Except SyntaxError Cursor) (c : Cursor) :
    Except SyntaxError Cursor := do
  let (_, c) ← rounds (fun _ c => do
    let c ← item c
    match c.eat? .comma with
    | some c => .ok (.again () c)
    | none => .ok (.stop () c)) () c
  .ok c

end Cursor

end DeclaredSchema.Source
