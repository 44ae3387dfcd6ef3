import DeclaredSchema.Proofs.Source.PrintedTokens
import DeclaredSchema.Source.Statement

/-! # Expression trees

Python's expressions as trees, and the tokens that a tree is written with. Every place that takes an
expression asks for a strength, and what is bound together less strongly stands in parentheses
there. A loop binds targets, which are trees of their own, so that nothing else can stand in their
place.
-/

namespace DeclaredSchema.Source.Tree

open Printed (commaJoined commaTail)

/-! ## Words and operators -/

/-- A name that is no keyword. -/
structure Identifier where
  text : String
  free : isKeyword text = false

inductive Constant where
  | true
  | false
  | none
  deriving DecidableEq, Repr

def Constant.word : Constant → String
  | true => "True"
  | false => "False"
  | none => "None"

inductive UnaryOperator where
  | plus
  | minus
  | invert
  deriving DecidableEq, Repr

def UnaryOperator.symbol : UnaryOperator → Symbol
  | plus => .plus
  | minus => .minus
  | invert => .tilde

/-- The operators of two operands that group to the left. -/
inductive BinaryOperator where
  | or
  | and
  | bitOr
  | bitXor
  | bitAnd
  | shiftLeft
  | shiftRight
  | add
  | subtract
  | multiply
  | divide
  | floorDivide
  | remainder
  | matrixMultiply
  deriving DecidableEq, Repr

namespace BinaryOperator

def level : BinaryOperator → Level
  | or => .disjunction
  | and => .conjunction
  | bitOr => .bitOr
  | bitXor => .bitXor
  | bitAnd => .bitAnd
  | shiftLeft | shiftRight => .shift
  | add | subtract => .sum
  | multiply | divide | floorDivide | remainder | matrixMultiply => .term

def kind : BinaryOperator → Token.Kind
  | or => .name "or"
  | and => .name "and"
  | bitOr => .symbol .bar
  | bitXor => .symbol .caret
  | bitAnd => .symbol .amp
  | shiftLeft => .symbol .shiftLeft
  | shiftRight => .symbol .shiftRight
  | add => .symbol .plus
  | subtract => .symbol .minus
  | multiply => .symbol .star
  | divide => .symbol .slash
  | floorDivide => .symbol .floorDiv
  | remainder => .symbol .percent
  | matrixMultiply => .symbol .at

end BinaryOperator

inductive Comparator where
  | eq
  | ne
  | lt
  | gt
  | le
  | ge
  | isIn
  | notIn
  | is
  | isNot
  deriving DecidableEq, Repr

def Comparator.kinds : Comparator → List Token.Kind
  | eq => [.symbol .eq]
  | ne => [.symbol .ne]
  | lt => [.symbol .lt]
  | gt => [.symbol .gt]
  | le => [.symbol .le]
  | ge => [.symbol .ge]
  | isIn => [.name "in"]
  | notIn => [.name "not", .name "in"]
  | is => [.name "is"]
  | isNot => [.name "is", .name "not"]

/-! ## Trees -/

mutual

inductive Expr where
  | name (n : Identifier)
  | constant (c : Constant)
  | number (text : String)
  | string (value : String) (plain : Bool)
  | ellipsis
  | member (value : Expr) (field : Identifier)
  | call (callee : Expr) (arguments : List Argument)
  | subscript (value : Expr) (first : Slice) (rest : List Slice)
  | tuple (items : List Item)
  | list (items : List Item)
  | set (first : Item) (rest : List Item)
  | dict (entries : List Entry)
  /-- A generator, a list or a set. -/
  | comprehension (bracket : Bracket) (element : Expr) (first : Loop) (rest : List Loop)
  | dictComprehension (key value : Expr) (first : Loop) (rest : List Loop)
  | unary (op : UnaryOperator) (operand : Expr)
  | binary (left : Expr) (op : BinaryOperator) (right : Expr)
  | power (base exponent : Expr)
  | compare (left : Expr) (first : Comparison) (rest : List Comparison)
  | negation (operand : Expr)
  | conditional (value condition otherwise : Expr)
  | lambda (parameters : List Parameter) (body : Expr)
  | await (operand : Expr)
  /-- A value that is bound to a name within an expression. -/
  | walrus (target : Identifier) (value : Expr)
  | yield (value : Option Expr)
  | yieldFrom (value : Expr)
  /-- Parentheses that need not be there. -/
  | group (inner : Expr)

/-- An item of a display. -/
inductive Item where
  | plain (value : Expr)
  | star (value : Expr)

/-- An entry of a dictionary. -/
inductive Entry where
  | pair (key value : Expr)
  | spread (value : Expr)

inductive Argument where
  | positional (value : Expr)
  | keyword (name : Identifier) (value : Expr)
  | star (value : Expr)
  | doubleStar (value : Expr)
  | generator (element : Expr) (first : Loop) (rest : List Loop)

inductive Slice where
  | index (value : Expr)
  | range (lower upper : Option Expr)
  | stepped (lower upper step : Option Expr)
  | star (value : Expr)

/-- A parameter of a lambda, or a mark between parameters. -/
inductive Parameter where
  | plain (name : Identifier) (default : Option Expr)
  | star (name : Identifier)
  | doubleStar (name : Identifier)
  | keywordOnly
  | positionalOnly

/-- A comparison with what stands before. -/
inductive Comparison where
  | mk (op : Comparator) (right : Expr)

/-- A `for` of a comprehension with its conditions. -/
inductive Loop where
  | mk (isAsync : Bool) (target : Target) (iterated : Expr) (conditions : List Expr)

/-- What a loop binds. -/
inductive Target where
  | name (n : Identifier)
  | member (value : Expr) (field : Identifier)
  | subscript (value : Expr) (first : Slice) (rest : List Slice)
  | tuple (items : List TargetItem)
  | list (items : List TargetItem)
  | group (inner : Target)

inductive TargetItem where
  | plain (target : Target)
  | star (target : Target)

end

/-! ## Strengths -/

/-- How strongly the parts of an expression are bound together, from the weakest on. -/
inductive Strength where
  /-- The expression stands in brackets wherever it is written. -/
  | enclosed
  /-- Items with commas between them. -/
  | list
  | expression
  | chain (level : Level)
  | inversion
  | factor
  | awaited
  | primary
  deriving DecidableEq, Repr

namespace Strength

def rank : Strength → Nat
  | enclosed => 0
  | list => 1
  | expression => 2
  | chain .disjunction => 3
  | chain .conjunction => 4
  | inversion => 5
  | chain .comparison => 6
  | chain .bitOr => 7
  | chain .bitXor => 8
  | chain .bitAnd => 9
  | chain .shift => 10
  | chain .sum => 11
  | chain .term => 12
  | factor => 13
  | awaited => 14
  | primary => 15

/-- What the operands of a level need. -/
def ofOperand : Level → Strength
  | .disjunction => chain .conjunction
  | .conjunction => inversion
  | .comparison => chain .bitOr
  | .bitOr => chain .bitXor
  | .bitXor => chain .bitAnd
  | .bitAnd => chain .shift
  | .shift => chain .sum
  | .sum => chain .term
  | .term => factor

end Strength

def Expr.strength : Expr → Strength
  | .tuple [] => .primary
  | .tuple (_ :: _) => .list
  | .comprehension .paren _ _ _ => .enclosed
  | .unary _ _ => .factor
  | .binary _ op _ => .chain op.level
  | .power _ _ => .factor
  | .compare _ _ _ => .chain .comparison
  | .negation _ => .inversion
  | .conditional _ _ _ => .expression
  | .lambda _ _ => .expression
  | .await _ => .awaited
  | .walrus _ _ => .enclosed
  | .yield _ => .enclosed
  | .yieldFrom _ => .enclosed
  | _ => .primary

def Target.strength : Target → Strength
  | .tuple (_ :: _) => .list
  | _ => .primary

/-! ## Tokens -/

def openSymbol : Bracket → Symbol
  | .paren => .openParen
  | .square => .openSquare
  | .brace => .openBrace

def closeSymbol : Bracket → Symbol
  | .paren => .closeParen
  | .square => .closeSquare
  | .brace => .closeBrace

/-- Tokens in a pair of brackets. -/
def bracketed (b : Bracket) (ks : List Token.Kind) : List Token.Kind :=
  .symbol (openSymbol b) :: (ks ++ [.symbol (closeSymbol b)])

/-- An expression of some strength in a place that asks for one. -/
def fitted (place own : Strength) (ks : List Token.Kind) : List Token.Kind :=
  if place.rank ≤ own.rank then ks else bracketed .paren ks

/-- The items of a tuple. A comma tells a single one from an expression. -/
def tupled : List (List Token.Kind) → List Token.Kind
  | [] => bracketed .paren []
  | [part] => part ++ [.symbol .comma]
  | parts => commaJoined parts

mutual

/-- The tokens of a tree, without parentheses around it. -/
def Expr.raw : Expr → List Token.Kind
  | .name n => [.name n.text]
  | .constant c => [.name c.word]
  | .number text => [.number text]
  | .string value plain => [.str value plain]
  | .ellipsis => [.symbol .ellipsis]
  | .member v n => fitted .primary v.strength v.raw ++ [.symbol .dot, .name n.text]
  | .call f args =>
    fitted .primary f.strength f.raw ++ bracketed .paren (commaJoined (args.map (·.raw)))
  | .subscript v first rest =>
    fitted .primary v.strength v.raw ++
      bracketed .square (first.raw ++ commaTail (rest.map (·.raw)))
  | .tuple items => tupled (items.map (·.raw))
  | .list items => bracketed .square (commaJoined (items.map (·.raw)))
  | .set first rest => bracketed .brace (first.raw ++ commaTail (rest.map (·.raw)))
  | .dict entries => bracketed .brace (commaJoined (entries.map (·.raw)))
  | .comprehension .paren e first rest =>
    fitted .expression e.strength e.raw ++ (first.raw ++ rest.flatMap (·.raw))
  | .comprehension .square e first rest =>
    bracketed .square
      (fitted .expression e.strength e.raw ++ (first.raw ++ rest.flatMap (·.raw)))
  | .comprehension .brace e first rest =>
    bracketed .brace
      (fitted .expression e.strength e.raw ++ (first.raw ++ rest.flatMap (·.raw)))
  | .dictComprehension k v first rest =>
    bracketed .brace
      (fitted .expression k.strength k.raw ++ .symbol .colon ::
        (fitted .expression v.strength v.raw ++ (first.raw ++ rest.flatMap (·.raw))))
  | .unary op e => .symbol op.symbol :: fitted .factor e.strength e.raw
  | .binary l op r =>
    fitted (.chain op.level) l.strength l.raw ++
      op.kind :: fitted (.ofOperand op.level) r.strength r.raw
  | .power b e =>
    fitted .awaited b.strength b.raw ++ .symbol .power :: fitted .factor e.strength e.raw
  | .compare l first rest =>
    fitted (.chain .bitOr) l.strength l.raw ++ (first.raw ++ rest.flatMap (·.raw))
  | .negation e => .name "not" :: fitted .inversion e.strength e.raw
  | .conditional v c o =>
    fitted (.chain .disjunction) v.strength v.raw ++ .name "if" ::
      (fitted (.chain .disjunction) c.strength c.raw ++ .name "else" ::
        fitted .expression o.strength o.raw)
  | .lambda ps e =>
    .name "lambda" :: (commaJoined (ps.map (·.raw)) ++ .symbol .colon ::
      fitted .expression e.strength e.raw)
  | .await e => .name "await" :: fitted .primary e.strength e.raw
  | .walrus n v => .name n.text :: .symbol .walrus :: fitted .expression v.strength v.raw
  | .yield none => [.name "yield"]
  | .yield (some v) => .name "yield" :: fitted .list v.strength v.raw
  | .yieldFrom v => .name "yield" :: .name "from" :: fitted .expression v.strength v.raw
  | .group e => bracketed .paren e.raw

def Item.raw : Item → List Token.Kind
  | .plain e => fitted .expression e.strength e.raw
  | .star e => .symbol .star :: fitted (.chain .bitOr) e.strength e.raw

def Entry.raw : Entry → List Token.Kind
  | .pair k v =>
    fitted .expression k.strength k.raw ++ .symbol .colon ::
      fitted .expression v.strength v.raw
  | .spread e => .symbol .power :: fitted (.chain .bitOr) e.strength e.raw

def Argument.raw : Argument → List Token.Kind
  | .positional e => fitted .expression e.strength e.raw
  | .keyword n e => .name n.text :: .symbol .assign :: fitted .expression e.strength e.raw
  | .star e => .symbol .star :: fitted .expression e.strength e.raw
  | .doubleStar e => .symbol .power :: fitted .expression e.strength e.raw
  | .generator e first rest =>
    fitted .expression e.strength e.raw ++ (first.raw ++ rest.flatMap (·.raw))

/-- An expression that need not be there. -/
def Expr.rawOption : Option Expr → List Token.Kind
  | none => []
  | some e => fitted .expression e.strength e.raw

def Slice.raw : Slice → List Token.Kind
  | .index e => fitted .expression e.strength e.raw
  | .range l u => Expr.rawOption l ++ .symbol .colon :: Expr.rawOption u
  | .stepped l u s =>
    Expr.rawOption l ++ .symbol .colon :: (Expr.rawOption u ++ .symbol .colon :: Expr.rawOption s)
  | .star e => .symbol .star :: fitted (.chain .bitOr) e.strength e.raw

def Parameter.raw : Parameter → List Token.Kind
  | .plain n none => [.name n.text]
  | .plain n (some e) => .name n.text :: .symbol .assign :: fitted .expression e.strength e.raw
  | .star n => [.symbol .star, .name n.text]
  | .doubleStar n => [.symbol .power, .name n.text]
  | .keywordOnly => [.symbol .star]
  | .positionalOnly => [.symbol .slash]

def Comparison.raw : Comparison → List Token.Kind
  | .mk op e => op.kinds ++ fitted (.chain .bitOr) e.strength e.raw

def Loop.raw : Loop → List Token.Kind
  | .mk isAsync t e conditions =>
    (if isAsync then [.name "async", .name "for"] else [.name "for"]) ++
      (t.raw ++ .name "in" :: (fitted (.chain .disjunction) e.strength e.raw ++
        conditions.flatMap fun c =>
          .name "if" :: fitted (.chain .disjunction) c.strength c.raw))

def Target.raw : Target → List Token.Kind
  | .name n => [.name n.text]
  | .member v n => fitted .primary v.strength v.raw ++ [.symbol .dot, .name n.text]
  | .subscript v first rest =>
    fitted .primary v.strength v.raw ++
      bracketed .square (first.raw ++ commaTail (rest.map (·.raw)))
  | .tuple items => tupled (items.map (·.raw))
  | .list items => bracketed .square (commaJoined (items.map (·.raw)))
  | .group t => bracketed .paren t.raw

def TargetItem.raw : TargetItem → List Token.Kind
  | .plain t => fitted (.chain .bitOr) t.strength t.raw
  | .star t => .symbol .star :: fitted (.chain .bitOr) t.strength t.raw

end

end DeclaredSchema.Source.Tree
