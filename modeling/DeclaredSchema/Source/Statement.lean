import DeclaredSchema.Source.LogicalLine

/-!
# Statements nested by indentation

The tokens of a text become logical lines, and a line that ends in a colon takes the indented lines
below it as its body. Every line is checked against the grammar, and in every block the clauses have
to follow each other as Python wants them.
-/

namespace DeclaredSchema.Source

structure Line where
  tokens : List Token
  line : Nat
  deriving DecidableEq, Repr

inductive Statement where
  | simple (line : Line)
  | compound (header : Line) (body : List Statement)
  deriving Repr

/-! ## Separators outside brackets -/

/-- Adds a token to the first part. -/
def consToFirst (t : Token) : List (List Token) → List (List Token)
  | [] => [[t]]
  | part :: parts => (t :: part) :: parts

/-- The parts between separators, with `depth` brackets open in front of the first. -/
def splitFrom (separator : Symbol) (depth : Nat) : List Token → List (List Token)
  | [] => [[]]
  | t :: ts =>
    if t.opens then consToFirst t (splitFrom separator (depth + 1) ts)
    else if t.closes then consToFirst t (splitFrom separator (depth - 1) ts)
    else if depth = 0 && t.isSymbol separator then [] :: splitFrom separator 0 ts
    else consToFirst t (splitFrom separator depth ts)

/-- The parts between separators that stand outside all brackets. -/
def splitTopLevel (separator : Symbol) (tokens : List Token) : List (List Token) :=
  splitFrom separator 0 tokens

/-! ## The order of clauses -/

/-- The clause of the last statement of a block, and its line. -/
structure ClauseOrder where
  previous : Option Clause
  line : Nat
  deriving DecidableEq, Repr

namespace ClauseOrder

def start : ClauseOrder := ⟨none, 0⟩

/-- The clauses that one may follow; nothing for a clause that begins a statement. -/
def mayFollow : Clause → List Clause
  | .elseIf => [.ifThen, .elseIf]
  | .orElse => [.ifThen, .elseIf, .forLoop, .whileLoop, .handler]
  | .handler => [.tryBlock, .handler]
  | .cleanup => [.tryBlock, .handler, .orElse]
  | _ => []

/-- Goes on to a line. A `try` has to be followed by a handler or a cleanup. -/
def next (order : ClauseOrder) (tokens : List Token) (line : Nat) :
    Except SyntaxError ClauseOrder :=
  let clause := clauseOf? tokens
  if order.previous = some .tryBlock && clause ≠ some .handler && clause ≠ some .cleanup then
    .error ⟨line, .missingHandler⟩
  else match clause with
    | none => .ok ⟨none, line⟩
    | some k =>
      if (mayFollow k).isEmpty || order.previous.any ((mayFollow k).contains ·) then
        .ok ⟨some k, line⟩
      else .error ⟨line, .strayClause k⟩

/-- The block ends here. -/
def finish (order : ClauseOrder) : Except SyntaxError Unit :=
  if order.previous = some .tryBlock then .error ⟨order.line, .missingHandler⟩ else .ok ()

end ClauseOrder

/-! ## Blocks -/

/-- Ends a logical line. -/
def endsLine (t : Token) : Bool := t.kind = .newline || t.kind = .endMarker

def opensBlock (tokens : List Token) : Bool := tokens.getLast?.any (·.isSymbol .colon)

/-- The statements of a line without a block. Behind an inline clause header semicolons separate
statements of its body, so that line stays whole. -/
def simpleLines (tokens : List Token) (line : Nat) : List Statement :=
  if (clauseOf? tokens).isSome then [.simple ⟨tokens, line⟩]
  else (splitTopLevel .semicolon tokens).filterMap fun part =>
    part.head?.map fun first => .simple ⟨part, first.line⟩

/-- The statements up to the end of a block, and the tokens after it. Each round takes a token, so
`fuel` beyond their number is enough. -/
def readBlock : Nat → Bool → ClauseOrder → List Token →
    Except SyntaxError (List Statement × List Token)
  | 0, _, _, tokens => .ok ([], tokens)
  | fuel + 1, nested, order, tokens => match tokens with
    | [] => do
      order.finish
      .ok ([], [])
    | t :: ts => match t.kind with
      | .endMarker => do
        order.finish
        .ok ([], t :: ts)
      | .dedent =>
        if nested then do
          order.finish
          .ok ([], ts)
        else readBlock fuel nested order ts
      | .newline => readBlock fuel nested order ts
      | .indent => .error ⟨t.line, .unexpectedIndent⟩
      | _ => do
        let line := (t :: ts).takeWhile (!endsLine ·)
        let after := match (t :: ts).dropWhile (!endsLine ·) with
          | ⟨.newline, _⟩ :: rest => rest
          | rest => rest
        checkLine line (opensBlock line)
        let order ← order.next line t.line
        match opensBlock line, after with
        | true, ⟨.indent, _⟩ :: inner =>
          let (body, rest) ← readBlock fuel true .start inner
          let (others, rest) ← readBlock fuel nested order rest
          .ok (.compound ⟨line, t.line⟩ body :: others, rest)
        | true, _ => .error ⟨t.line, .missingBlock⟩
        | false, ⟨.indent, below⟩ :: _ => .error ⟨below, .unexpectedIndent⟩
        | false, _ =>
          let (others, rest) ← readBlock fuel nested order after
          .ok (simpleLines line t.line ++ others, rest)

/-- The statements of a whole text. -/
def statements (tokens : List Token) : Except SyntaxError (List Statement) := do
  let (body, _) ← readBlock (tokens.length + 1) false .start tokens
  .ok body

end DeclaredSchema.Source
