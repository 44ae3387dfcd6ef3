import DeclaredSchema.Source.Grammar

/-!
# Logical lines

A logical line is a list of simple statements or the header of a compound statement, which may have
simple statements behind its colon. `checkLine` tells whether Python's grammar has such a line.
Patterns of `case` are not looked into, and type parameters only as far as their brackets go.
-/

namespace DeclaredSchema.Source

open Cursor

/-- The clause that a line begins with; `async` may stand in front of it. -/
def clauseOf? (tokens : List Token) : Option Clause :=
  match tokens with
  | [] => none
  | t :: ts =>
    let first := if t.isName "async" then ts.head? else some t
    (first.bind (·.name?)).bind Clause.ofKeyword?

namespace Line

def augmented : List Symbol :=
  [.addAssign, .subAssign, .mulAssign, .divAssign, .floorDivAssign, .modAssign, .matMulAssign,
    .andAssign, .orAssign, .xorAssign, .shiftRightAssign, .shiftLeftAssign, .powerAssign]

/-! ## Simple statements -/

/-- An expression, an annotated or augmented assignment, or a chain of assignments. -/
def expressionStatement (c : Cursor) : Except SyntaxError Cursor := do
  let (target, c) ← Rule.yieldOrStars.run c
  match c.eat? .colon with
  | some c =>
    checkTarget target.single c
    let c ← Rule.expression.pass c
    match c.eat? .assign with
    | some c => Rule.yieldOrStars.pass c
    | none => .ok c
  | none => match c.eatAny? augmented with
    | some c =>
      checkTarget target.single c
      Rule.yieldOrStars.pass c
    | none =>
      let (_, c) ← rounds (fun last c =>
        match c.eat? .assign with
        | none => .ok (.stop last c)
        | some c => do
          checkTarget last.assignable c
          let (shape, c) ← Rule.yieldOrStars.run c
          .ok (.again shape c)) target c
      .ok c

def dottedName (c : Cursor) : Except SyntaxError Cursor := do
  let c ← c.identifier
  let (_, c) ← rounds (fun _ c =>
    match c.eat? .dot with
    | none => .ok (.stop () c)
    | some c => do
      let c ← c.identifier
      .ok (.again () c)) () c
  .ok c

/-- An `as` with a name, if there is one. -/
def asName (c : Cursor) : Except SyntaxError Cursor :=
  match c.eatName? "as" with
  | some c => c.identifier
  | none => .ok c

def importNames (c : Cursor) : Except SyntaxError Cursor :=
  commaList (fun c => do asName (← dottedName c)) c

/-- The names after `import` in an import from a module. A comma may end them in parentheses. -/
def importedNames (c : Cursor) : Except SyntaxError Cursor := do
  let parenthesized := c.atSymbol .openParen
  let (_, c) ← rounds (fun _ c => do
    let c ← asName (← c.identifier)
    match c.eat? .comma with
    | none => .ok (.stop () c)
    | some c =>
      if parenthesized && c.atSymbol .closeParen then .ok (.stop () c)
      else .ok (.again () c)) () (c.skip .openParen)
  if parenthesized then c.expect .closeParen else .ok c

def importFrom (c : Cursor) : Except SyntaxError Cursor := do
  let (relative, c) ← rounds (fun relative c =>
    match c.eatAny? [.dot, .ellipsis] with
    | some c => .ok (.again true c)
    | none => .ok (.stop relative c)) false c
  let c ←
    if !c.atName "import" then dottedName c
    else if !relative then .error c.unexpected
    else .ok c
  let c ← c.expectName "import"
  match c.eat? .star with
  | some c => .ok c
  | none => importedNames c

/-- `type` begins an alias only before a name and `=` or a type parameter. -/
def atTypeAlias (c : Cursor) : Bool :=
  (c.second?.bind (·.name?)).any (!isKeyword ·) &&
    c.third?.any (fun t => t.isSymbol .assign || t.isSymbol .openSquare)

/-- Expressions, if there are any. -/
def optional (rule : Rule) (c : Cursor) : Except SyntaxError Cursor :=
  if c.startsExpression then rule.pass c else .ok c

/-- A statement that begins with the given name. -/
def namedStatement (word : String) (c : Cursor) : Except SyntaxError Cursor :=
  if word = "pass" || word = "break" || word = "continue" then .ok c.advance
  else if word = "return" then optional (.listOf .star) c.advance
  else if word = "raise" then
    if c.advance.startsExpression then do
      let c ← Rule.expression.pass c.advance
      match c.eatName? "from" with
      | some c => Rule.expression.pass c
      | none => .ok c
    else .ok c.advance
  else if word = "global" || word = "nonlocal" then commaList identifier c.advance
  else if word = "del" then do
    let (target, c) ← (Rule.listOf .star).run c.advance
    checkTarget target.assignable c
    .ok c
  else if word = "assert" then do
    let c ← Rule.expression.pass c.advance
    match c.eat? .comma with
    | some c => Rule.expression.pass c
    | none => .ok c
  else if word = "import" then importNames c.advance
  else if word = "from" then importFrom c.advance
  else if word = "type" && atTypeAlias c then do
    let c ← c.advance.advance.skipTypeParameters
    let c ← c.expect .assign
    Rule.expression.pass c
  else expressionStatement c

def simpleStatement (c : Cursor) : Except SyntaxError Cursor :=
  if c.atEnd then .error c.unexpected
  else match c.eat? .at with
    | some c => Rule.named.pass c
    | none => match c.name? with
      | some word => namedStatement word c
      | none => expressionStatement c

/-- Simple statements with semicolons between them, to the end of the line. -/
def simpleStatements (c : Cursor) : Except SyntaxError Unit := do
  let (_, c) ← rounds (fun _ c => do
    let c ← simpleStatement c
    match c.eat? .semicolon with
    | none => .ok (.stop () c)
    | some c => if c.atEnd then .ok (.stop () c) else .ok (.again () c)) () c
  c.finish

/-! ## Headers -/

def withItem (c : Cursor) : Except SyntaxError Cursor := do
  let c ← Rule.expression.pass c
  match c.eatName? "as" with
  | none => .ok c
  | some c => do
    let (target, c) ← (Rule.item .target).run c
    checkTarget target.assignable c
    .ok c

def parenthesizedWithItems (c : Cursor) : Except SyntaxError Cursor := do
  let c ← c.expect .openParen
  let (_, c) ← rounds (fun _ c => do
    let c ← withItem c
    match c.eat? .comma with
    | none => .ok (.stop () c)
    | some c => if c.atSymbol .closeParen then .ok (.stop () c) else .ok (.again () c)) () c
  c.expect .closeParen

/-- Parentheses stand around all items, if that reading reaches the colon; otherwise they belong to
the first expression. -/
def withItems (c : Cursor) : Except SyntaxError Cursor :=
  if c.atSymbol .openParen then
    match parenthesizedWithItems c with
    | .ok after => if after.atSymbol .colon then .ok after else commaList withItem c
    | .error _ => commaList withItem c
  else commaList withItem c

def functionHeader (c : Cursor) : Except SyntaxError Cursor := do
  let c ← c.identifier
  let c ← c.skipTypeParameters
  let c ← c.expect .openParen
  let c ← (Rule.parameters .closeParen true).pass c
  let c ← c.expect .closeParen
  match c.eat? .arrow with
  | some c => Rule.expression.pass c
  | none => .ok c

def classHeader (c : Cursor) : Except SyntaxError Cursor := do
  let c ← c.identifier
  let c ← c.skipTypeParameters
  match c.eat? .openParen with
  | some c => Rule.arguments.pass c
  | none => .ok c

/-- What is caught, with `as` and a name only after it. -/
def handlerHeader (c : Cursor) : Except SyntaxError Cursor := do
  let c := c.skip .star
  if c.atSymbol .colon then .ok c
  else
    let c ← commaList Rule.expression.pass c
    asName c

def forHeader (c : Cursor) : Except SyntaxError Cursor := do
  let (target, c) ← (Rule.listOf .target).run c
  checkTarget target.assignable c
  let c ← c.expectName "in"
  (Rule.listOf .star).pass c

/-- What stands between the keyword of a clause and its colon. -/
def clauseBody (clause : Clause) (c : Cursor) : Except SyntaxError Cursor :=
  match clause with
  | .ifThen | .elseIf | .whileLoop => Rule.named.pass c
  | .orElse | .tryBlock | .cleanup => .ok c
  | .forLoop => forHeader c
  | .handler => handlerHeader c
  | .withScope => withItems c
  | .function => functionHeader c
  | .classBody => classHeader c

/-- The last of some tokens, with the line of the one before it. -/
def lastToken (line : Nat) : List Token → Cursor
  | t :: u :: ts => lastToken t.line (u :: ts)
  | ts => ⟨line, ts⟩

/-- A pattern is anything but nothing before the last token of the line. -/
def caseHeader (c : Cursor) : Except SyntaxError Cursor :=
  if c.atSymbol .colon then .error c.unexpected else .ok (lastToken c.line c.rest)

/-- The header of a compound statement, through its colon. -/
def compoundHeader (c : Cursor) : Except SyntaxError Cursor := do
  let c ← match c.name? with
    | some "async" =>
      match c.advance.name?.bind Clause.ofKeyword? with
      | some .function => functionHeader c.advance.advance
      | some .forLoop => forHeader c.advance.advance
      | some .withScope => withItems c.advance.advance
      | _ => .error c.advance.unexpected
    | some "match" => (Rule.listOf .starNamed).pass c.advance
    | some "case" => caseHeader c.advance
    | some word => match Clause.ofKeyword? word with
      | some clause => clauseBody clause c.advance
      | none => .error c.unexpected
    | none => .error c.unexpected
  c.expect .colon

/-- `match` and `case` are headers only on a line that ends in a colon. -/
def isSoftHeader (tokens : List Token) (opensBlock : Bool) : Bool :=
  opensBlock && tokens.head?.any (fun t => t.isName "match" || t.isName "case")

end Line

/-- Checks one logical line. `opensBlock` says that it ends in the colon of a block. -/
def checkLine (tokens : List Token) (opensBlock : Bool) : Except SyntaxError Unit := do
  let c := Cursor.start tokens
  if (clauseOf? tokens).isSome || Line.isSoftHeader tokens opensBlock then
    let c ← Line.compoundHeader c
    if opensBlock then c.finish else Line.simpleStatements c
  else Line.simpleStatements c

end DeclaredSchema.Source
