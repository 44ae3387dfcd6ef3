import DeclaredSchema.Source.Cursor

/-!
# The grammar of expressions

A recogniser for Python's expressions. It builds nothing: reading a rule tells only what the
expression could stand for on the left of an assignment (`Shape`) and where it ends. The rules are a
type, and `read` is one function over them, by recursion on the number of rules that may still be
entered; `Rule.read` hides that number.
-/

namespace DeclaredSchema.Source

/-- What an expression can stand for on the left of an assignment. -/
inductive Shape where
  | name
  /-- Attribute access or subscript. -/
  | member
  /-- A tuple or list whose items are all targets. -/
  | sequence
  /-- A star before a target. -/
  | starred
  | value
  deriving DecidableEq, Repr

namespace Shape

def assignable : Shape → Bool
  | name | member | sequence => true
  | starred | value => false

/-- May stand in a tuple or list that is a target. -/
def fitsSequence (s : Shape) : Bool := s.assignable || s = .starred

/-- Augmented and annotated assignments take one name or member. -/
def single : Shape → Bool
  | name | member => true
  | _ => false

/-- A tuple or list, given whether all its items fit. -/
def ofItems (fit : Bool) : Shape := if fit then .sequence else .value

/-- An expression after a star. -/
def behindStar (s : Shape) : Shape := if s.assignable then .starred else .value

end Shape

/-- The left-associative operators, from the weakest to the strongest. `not` stands between `and`
and the comparisons and is a rule of its own. -/
inductive Level where
  | disjunction
  | conjunction
  | comparison
  | bitOr
  | bitXor
  | bitAnd
  | shift
  | sum
  | term
  deriving DecidableEq, Repr

/-- The items of comma lists. -/
inductive Element where
  /-- A starred item or an expression. -/
  | star
  /-- A starred item or an expression that may bind a name. -/
  | starNamed
  /-- A target of a loop or of `with`. -/
  | target
  deriving DecidableEq, Repr

inductive Rule where
  /-- `yield`, or a comma list of expressions. -/
  | yieldOrStars
  | yieldExpr
  | listOf (element : Element)
  | item (element : Element)
  | named
  | expression
  | chain (level : Level)
  | inversion
  | factor
  | primary
  | atom
  /-- What follows `(`, through its `)`. -/
  | parenthesized
  | squareDisplay
  | braceDisplay
  /-- One or more `for` clauses with their conditions. -/
  | comprehension
  /-- Call arguments after `(`, through its `)`. -/
  | arguments
  /-- A subscript after `[`, through its `]`. -/
  | slices
  /-- Parameters before the symbol that closes them. -/
  | parameters (close : Symbol) (annotated : Bool)
  deriving DecidableEq, Repr

namespace Level

/-- What stands between the operators of a level. -/
def operand : Level → Rule
  | disjunction => .chain .conjunction
  | conjunction => .inversion
  | comparison => .chain .bitOr
  | bitOr => .chain .bitXor
  | bitXor => .chain .bitAnd
  | bitAnd => .chain .shift
  | shift => .chain .sum
  | sum => .chain .term
  | term => .factor

def symbols : Level → List Symbol
  | disjunction => []
  | conjunction => []
  | comparison => [.eq, .ne, .lt, .gt, .le, .ge]
  | bitOr => [.bar]
  | bitXor => [.caret]
  | bitAnd => [.amp]
  | shift => [.shiftLeft, .shiftRight]
  | sum => [.plus, .minus]
  | term => [.star, .slash, .floorDiv, .percent, .at]

/-- The comparisons that are words: `in`, `is`, `is not` and `not in`. -/
def eatWordComparison? (c : Cursor) : Option Cursor :=
  match c.eatName? "in" with
  | some c => some c
  | none => match c.eatName? "is" with
    | some c => some ((c.eatName? "not").getD c)
    | none =>
      if c.atName "not" && c.second?.any (·.isName "in") then some c.advance.advance else none

/-- Steps over an operator of the level. -/
def eatOperator? (l : Level) (c : Cursor) : Option Cursor :=
  match l with
  | disjunction => c.eatName? "or"
  | conjunction => c.eatName? "and"
  | comparison => (c.eatAny? l.symbols).or (eatWordComparison? c)
  | _ => c.eatAny? l.symbols

end Level

namespace Cursor

/-- Keywords that still begin an expression. -/
def expressionKeywords : List String := ["True", "False", "None", "not", "lambda", "await"]

def expressionSymbols : List Symbol :=
  [.openParen, .openSquare, .openBrace, .minus, .plus, .tilde, .star, .ellipsis]

/-- The next token may begin an expression. -/
def startsExpression (c : Cursor) : Bool :=
  match c.rest with
  | [] => false
  | t :: _ => match t.kind with
    | .name n => !isKeyword n || expressionKeywords.contains n
    | .number _ => true
    | .str _ _ => true
    | .symbol s => expressionSymbols.contains s
    | _ => false

def atComprehension (c : Cursor) : Bool :=
  c.atName "for" || (c.atName "async" && c.second?.any (·.isName "for"))

/-- The token just read is blamed when its expression is no target. -/
def checkTarget (ok : Bool) (c : Cursor) : Except SyntaxError Unit :=
  if ok then .ok () else .error ⟨c.line, .notAssignable⟩

end Cursor

namespace Rule

open Cursor

/-- A rule as a function from a place to what was read and the place after it. -/
abbrev Reading := Except SyntaxError (Shape × Cursor)

/-- The items of a tuple or list after the first one, up to the closing bracket. -/
def sequenceTail (item : Cursor → Reading) (close : Symbol) (first : Shape) (c : Cursor) :
    Reading := do
  let (fit, c) ← rounds (fun fit c =>
    match c.eat? .comma with
    | none => .ok (.stop fit c)
    | some c =>
      if c.atSymbol close then .ok (.stop fit c)
      else do
        let (shape, c) ← item c
        .ok (.again (fit && shape.fitsSequence) c)) first.fitsSequence c
  let c ← c.expect close
  .ok (.ofItems fit, c)

/-- An expression, if one begins here. -/
def optionalExpression (expression : Cursor → Reading) (c : Cursor) :
    Except SyntaxError Cursor :=
  if c.startsExpression then do
    let (_, c) ← expression c
    .ok c
  else .ok c

/-- The annotation of a parameter, where there may be one. -/
def typeHint (annotated : Bool) (expression : Cursor → Reading) (c : Cursor) :
    Except SyntaxError Cursor :=
  match if annotated then c.eat? .colon else none with
  | none => .ok c
  | some c => do
    let (_, c) ← expression (c.skip .star)
    .ok c

/-- Reads a rule; at most `fuel` rules may be entered within each other. -/
def read : Nat → Rule → Cursor → Reading
  | 0, _, c => .error c.unexpected
  | fuel + 1, rule, c => match rule with
    | .yieldOrStars =>
      if c.atName "yield" then read fuel .yieldExpr c else read fuel (.listOf .star) c
    | .yieldExpr => do
      let c := c.advance
      match c.eatName? "from" with
      | some c =>
        let (_, c) ← read fuel .expression c
        .ok (.value, c)
      | none =>
        if c.startsExpression then
          let (_, c) ← read fuel (.listOf .star) c
          .ok (.value, c)
        else .ok (.value, c)
    | .listOf element => do
      let (first, c) ← read fuel (.item element) c
      if !c.atSymbol .comma then .ok (first, c)
      else
        let (fit, c) ← rounds (fun fit c =>
          match c.eat? .comma with
          | none => .ok (.stop fit c)
          | some c =>
            if !c.startsExpression then .ok (.stop fit c)
            else do
              let (shape, c) ← read fuel (.item element) c
              .ok (.again (fit && shape.fitsSequence) c)) first.fitsSequence c
        .ok (.ofItems fit, c)
    | .item element =>
      match c.eat? .star with
      | some c => do
        let (shape, c) ← read fuel (.chain .bitOr) c
        .ok (shape.behindStar, c)
      | none => match element with
        | .star => read fuel .expression c
        | .starNamed => read fuel .named c
        | .target => read fuel (.chain .bitOr) c
    | .named =>
      if c.atIdentifier && c.second?.any (·.isSymbol .walrus) then do
        let (_, c) ← read fuel .expression c.advance.advance
        .ok (.value, c)
      else read fuel .expression c
    | .expression =>
      match c.eatName? "lambda" with
      | some c => do
        let (_, c) ← read fuel (.parameters .colon false) c
        let c ← c.expect .colon
        let (_, c) ← read fuel .expression c
        .ok (.value, c)
      | none => do
        let (shape, c) ← read fuel (.chain .disjunction) c
        match c.eatName? "if" with
        | none => .ok (shape, c)
        | some c =>
          let (_, c) ← read fuel (.chain .disjunction) c
          let c ← c.expectName "else"
          let (_, c) ← read fuel .expression c
          .ok (.value, c)
    | .chain level => do
      let (shape, c) ← read fuel level.operand c
      rounds (fun shape c =>
        match level.eatOperator? c with
        | none => .ok (.stop shape c)
        | some c => do
          let (_, c) ← read fuel level.operand c
          .ok (.again .value c)) shape c
    | .inversion =>
      match c.eatName? "not" with
      | some c => do
        let (_, c) ← read fuel .inversion c
        .ok (.value, c)
      | none => read fuel (.chain .comparison) c
    | .factor =>
      match c.eatAny? [.plus, .minus, .tilde] with
      | some c => do
        let (_, c) ← read fuel .factor c
        .ok (.value, c)
      | none => do
        let (shape, c) ← match c.eatName? "await" with
          | some c => do
            let (_, c) ← read fuel .primary c
            .ok (.value, c)
          | none => read fuel .primary c
        match c.eat? .power with
        | none => .ok (shape, c)
        | some c =>
          let (_, c) ← read fuel .factor c
          .ok (.value, c)
    | .primary => do
      let (shape, c) ← read fuel .atom c
      rounds (fun shape c =>
        match c.eat? .dot with
        | some c => do
          let c ← c.identifier
          .ok (.again .member c)
        | none => match c.eat? .openParen with
          | some c => do
            let (_, c) ← read fuel .arguments c
            .ok (.again .value c)
          | none => match c.eat? .openSquare with
            | some c => do
              let (_, c) ← read fuel .slices c
              .ok (.again .member c)
            | none => .ok (.stop shape c)) shape c
    | .atom =>
      match c.rest with
      | [] => .error c.unexpected
      | t :: _ => match t.kind with
        | .name n =>
          if n = "True" || n = "False" || n = "None" then .ok (.value, c.advance)
          else if isKeyword n then .error c.unexpected
          else .ok (.name, c.advance)
        | .number _ => .ok (.value, c.advance)
        | .str _ _ => .ok (.value, c.advance)
        | .symbol .ellipsis => .ok (.value, c.advance)
        | .symbol .openParen => read fuel .parenthesized c.advance
        | .symbol .openSquare => read fuel .squareDisplay c.advance
        | .symbol .openBrace => read fuel .braceDisplay c.advance
        | _ => .error c.unexpected
    | .parenthesized =>
      match c.eat? .closeParen with
      | some c => .ok (.sequence, c)
      | none =>
        if c.atName "yield" then do
          let (_, c) ← read fuel .yieldExpr c
          let c ← c.expect .closeParen
          .ok (.value, c)
        else do
          let (first, c) ← read fuel (.item .starNamed) c
          if c.atComprehension then
            let (_, c) ← read fuel .comprehension c
            let c ← c.expect .closeParen
            .ok (.value, c)
          else if !c.atSymbol .comma then
            let c ← c.expect .closeParen
            .ok (if first = .starred then .value else first, c)
          else sequenceTail (read fuel (.item .starNamed)) .closeParen first c
    | .squareDisplay =>
      match c.eat? .closeSquare with
      | some c => .ok (.sequence, c)
      | none => do
        let (first, c) ← read fuel (.item .starNamed) c
        if c.atComprehension then
          let (_, c) ← read fuel .comprehension c
          let c ← c.expect .closeSquare
          .ok (.value, c)
        else sequenceTail (read fuel (.item .starNamed)) .closeSquare first c
    | .braceDisplay =>
      match c.eat? .closeBrace with
      | some c => .ok (.value, c)
      | none => do
        let (dict, c) ← match c.eat? .power with
          | some c => do
            let (_, c) ← read fuel (.chain .bitOr) c
            .ok (true, c)
          | none => do
            let (_, c) ← read fuel (.item .starNamed) c
            match c.eat? .colon with
            | some c =>
              let (_, c) ← read fuel .expression c
              .ok (true, c)
            | none => .ok (false, c)
        if c.atComprehension then
          let (_, c) ← read fuel .comprehension c
          let c ← c.expect .closeBrace
          .ok (.value, c)
        else
          let (_, c) ← rounds (fun _ c =>
            match c.eat? .comma with
            | none => .ok (.stop () c)
            | some c =>
              if c.atSymbol .closeBrace then .ok (.stop () c)
              else if !dict then do
                let (_, c) ← read fuel (.item .starNamed) c
                .ok (.again () c)
              else match c.eat? .power with
                | some c => do
                  let (_, c) ← read fuel (.chain .bitOr) c
                  .ok (.again () c)
                | none => do
                  let (_, c) ← read fuel .expression c
                  let c ← c.expect .colon
                  let (_, c) ← read fuel .expression c
                  .ok (.again () c)) () c
          let c ← c.expect .closeBrace
          .ok (.value, c)
    | .comprehension => do
      let (_, c) ← rounds (fun _ c =>
        if !c.atComprehension then .ok (.stop () c)
        else do
          let c := ((c.eatName? "async").getD c).advance
          let (target, c) ← read fuel (.listOf .target) c
          checkTarget target.assignable c
          let c ← c.expectName "in"
          let (_, c) ← read fuel (.chain .disjunction) c
          let (_, c) ← rounds (fun _ c =>
            match c.eatName? "if" with
            | none => .ok (.stop () c)
            | some c => do
              let (_, c) ← read fuel (.chain .disjunction) c
              .ok (.again () c)) () c
          .ok (.again () c)) () c
      .ok (.value, c)
    | .arguments => do
      let (_, c) ← rounds (fun _ c =>
        if c.atSymbol .closeParen then .ok (.stop () c)
        else do
          let (_, c) ← match c.eatAny? [.star, .power] with
            | some c => read fuel .expression c
            | none =>
              if c.name?.isSome && c.second?.any (·.isSymbol .assign) then do
                let c ← c.identifier
                read fuel .expression c.advance
              else do
                let (shape, c) ← read fuel .named c
                if c.atComprehension then read fuel .comprehension c else .ok (shape, c)
          match c.eat? .comma with
          | some c => .ok (.again () c)
          | none => .ok (.stop () c)) () c
      let c ← c.expect .closeParen
      .ok (.value, c)
    | .slices => do
      let (_, c) ← rounds (fun _ c => do
        let c ← match c.eat? .star with
          | some c => do
            let (_, c) ← read fuel (.chain .bitOr) c
            .ok c
          | none => do
            let c ←
              if c.atSymbol .colon then .ok c
              else do
                let (_, c) ← read fuel .named c
                .ok c
            match c.eat? .colon with
            | none => .ok c
            | some c => do
              let c ← optionalExpression (read fuel .expression) c
              match c.eat? .colon with
              | none => .ok c
              | some c => optionalExpression (read fuel .expression) c
        match c.eat? .comma with
        | none => .ok (.stop () c)
        | some c => if c.atSymbol .closeSquare then .ok (.stop () c) else .ok (.again () c)) () c
      let c ← c.expect .closeSquare
      .ok (.value, c)
    | .parameters close annotated => do
      let (_, c) ← rounds (fun _ c =>
        if c.atSymbol close then .ok (.stop () c)
        else do
          let c ← match c.eat? .slash with
            | some c => .ok c
            | none => match c.eat? .power with
              | some c => do
                let c ← c.identifier
                typeHint annotated (read fuel .expression) c
              | none => match c.eat? .star with
                | some c =>
                  if c.atSymbol .comma || c.atSymbol close then .ok c
                  else do
                    let c ← c.identifier
                    typeHint annotated (read fuel .expression) c
                | none => do
                  let c ← c.identifier
                  let c ← typeHint annotated (read fuel .expression) c
                  match c.eat? .assign with
                  | none => .ok c
                  | some c => do
                    let (_, c) ← read fuel .expression c
                    .ok c
          match c.eat? .comma with
          | some c => .ok (.again () c)
          | none => .ok (.stop () c)) () c
      .ok (.value, c)

/-- Reads a rule. Between two tokens fewer than twenty rules are entered, so the bound is never
met. -/
def run (rule : Rule) (c : Cursor) : Reading := read (24 * (c.rest.length + 1)) rule c

/-- Reads a rule for where it ends. -/
def pass (rule : Rule) (c : Cursor) : Except SyntaxError Cursor :=
  match rule.run c with
  | .ok (_, c) => .ok c
  | .error e => .error e

end Rule

end DeclaredSchema.Source
