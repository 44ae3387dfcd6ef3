import DeclaredSchema.Literal
import DeclaredSchema.Source.Statement

/-!
# Expressions of declarations

Only the forms that a declaration is made of get a shape: names, literals, calls, subscripts,
attribute access, lists, tuples and unions. Whatever else stands in an expression makes it, or the
part it stands in, `unmodelled`.
-/

namespace DeclaredSchema.Source

inductive Expr where
  | name (name : String)
  | literal (value : Literal)
  | member (value : Expr) (name : String)
  /-- The name of an argument is missing when it is positional or starred. -/
  | call (callee : Expr) (args : List (Option String × Expr))
  | subscript (value index : Expr)
  | tuple (items : List Expr)
  | list (items : List Expr)
  | union (members : List Expr)
  | negate (value : Expr)
  | unmodelled
  deriving Inhabited, Repr

/-! ## Cutting tokens at brackets -/

/-- Some token outside all brackets has the property; `depth` brackets are open. -/
def anyFrom (p : Token → Bool) (depth : Nat) : List Token → Bool
  | [] => false
  | t :: ts =>
    if t.opens then anyFrom p (depth + 1) ts
    else if t.closes then anyFrom p (depth - 1) ts
    else (depth = 0 && p t) || anyFrom p depth ts

def anyTopLevel (p : Token → Bool) (tokens : List Token) : Bool := anyFrom p 0 tokens

/-- Cuts at the first separator outside all brackets. -/
def cutFrom? (separator : Symbol) (depth : Nat) : List Token → Option (List Token × List Token)
  | [] => none
  | t :: ts =>
    if t.opens then (cutFrom? separator (depth + 1) ts).map fun (a, b) => (t :: a, b)
    else if t.closes then (cutFrom? separator (depth - 1) ts).map fun (a, b) => (t :: a, b)
    else if depth = 0 && t.isSymbol separator then some ([], ts)
    else (cutFrom? separator depth ts).map fun (a, b) => (t :: a, b)

def cutTopLevel? (separator : Symbol) (tokens : List Token) : Option (List Token × List Token) :=
  cutFrom? separator 0 tokens

/-- What stands before the bracket that closes an opening one just read, and what stands after it;
`depth` further brackets are open. -/
def bracketedFrom? (depth : Nat) : List Token → Option (List Token × List Token)
  | [] => none
  | t :: ts =>
    if t.opens then (bracketedFrom? (depth + 1) ts).map fun (a, b) => (t :: a, b)
    else if t.closes then
      if depth = 0 then some ([], ts)
      else (bracketedFrom? (depth - 1) ts).map fun (a, b) => (t :: a, b)
    else (bracketedFrom? depth ts).map fun (a, b) => (t :: a, b)

def bracketed? (tokens : List Token) : Option (List Token × List Token) := bracketedFrom? 0 tokens

theorem length_bracketedFrom?_lt {depth : Nat} {tokens inside rest : List Token}
    (h : bracketedFrom? depth tokens = some (inside, rest)) : rest.length < tokens.length := by
  induction tokens generalizing depth inside rest with
  | nil => simp [bracketedFrom?] at h
  | cons t ts ih =>
    have step {d : Nat} (h : (bracketedFrom? d ts).map (fun (a, b) => (t :: a, b))
        = some (inside, rest)) : rest.length < (t :: ts).length := by
      obtain ⟨⟨a, b⟩, hab, he⟩ := Option.map_eq_some_iff.1 h
      cases he
      exact Nat.lt_succ_of_lt (ih hab)
    unfold bracketedFrom? at h
    split at h
    · exact step h
    · split at h
      · split at h
        · cases h; simp
        · exact step h
      · exact step h

theorem length_bracketed?_lt {tokens inside rest : List Token}
    (h : bracketed? tokens = some (inside, rest)) : rest.length < tokens.length :=
  length_bracketedFrom?_lt h

/-! ## Numbers -/

/-- The base that a number is written in, given its lower-case text, and its digits. -/
def radix? : List Char → Option (Nat × List Char)
  | '0' :: 'x' :: digits => some (16, digits)
  | '0' :: 'o' :: digits => some (8, digits)
  | '0' :: 'b' :: digits => some (2, digits)
  | _ => none

/-- The value of digits in a base, if there are any and all of them belong to the base. -/
def natOfRadix? (base : Nat) (digits : List Char) : Option Nat :=
  if digits.isEmpty || !digits.all (fun c => Text.isHexDigit c && Text.hexDigitValue c < base)
  then none
  else some (digits.foldl (fun n c => base * n + Text.hexDigitValue c) 0)

/-- The value of a number. Underscores do not count, imaginary numbers and integers beyond 64 bits
have no value, and a point or an exponent makes a double. -/
def numberLiteral? (text : String) : Option Literal :=
  let cs := (text.toList.filter (· != '_')).map Text.asciiLower
  if cs.getLast? = some 'j' then none
  else match radix? cs with
    | some (base, digits) => do
      let n ← natOfRadix? base digits
      let i ← int64? n
      some (.int i)
    | none =>
      if cs.contains '.' || cs.contains 'e' then (Binary64.ofDecimalText? cs).map .float
      else do
        let n ← natOfRadix? 10 cs
        let i ← int64? n
        some (.int i)

namespace Expr

/-! ## Reading -/

/-- Keywords that make an expression more than the forms with a shape. -/
def operatorKeywords : List String :=
  ["if", "lambda", "for", "and", "or", "not", "await", "yield"]

def isOperatorKeyword (t : Token) : Bool := operatorKeywords.any (t.isName ·)

/-- The arguments of a call. `name=value` is a keyword argument. -/
def argsWith (sub : List Token → Expr) (tokens : List Token) : List (Option String × Expr) :=
  ((splitTopLevel .comma tokens).filter (!·.isEmpty)).map fun part =>
    match part with
    | ⟨.name n, _⟩ :: ⟨.symbol .assign, _⟩ :: v :: value => (some n, sub (v :: value))
    | _ => (none, sub part)

/-- What stands between square brackets. -/
def listWith (sub : List Token → Expr) (inside : List Token) : Expr :=
  if anyTopLevel (·.isName "for") inside then .unmodelled
  else .list (((splitTopLevel .comma inside).filter (!·.isEmpty)).map sub)

/-- The expression at the front of some tokens and the tokens after it. -/
def atomWith (sub : List Token → Expr) : List Token → Option (Expr × List Token)
  | [] => none
  | t :: ts => match t.kind with
    | .name "None" => some (.literal .null, ts)
    | .name "True" => some (.literal (.bool true), ts)
    | .name "False" => some (.literal (.bool false), ts)
    | .name n => some (.name n, ts)
    | .number text => match numberLiteral? text with
      | some l => some (.literal l, ts)
      | none => some (.unmodelled, ts)
    | .str value plain => some (if plain then .literal (.str value) else .unmodelled, ts)
    | .symbol .openParen => (bracketed? ts).map fun (inside, rest) =>
      (if inside.isEmpty then .tuple [] else sub inside, rest)
    | .symbol .openSquare => (bracketed? ts).map fun (inside, rest) =>
      (if inside.isEmpty then .list [] else listWith sub inside, rest)
    | .symbol .openBrace => (bracketed? ts).map fun (_, rest) => (.unmodelled, rest)
    | _ => none

/-- Calls, subscripts and attribute access after an expression, to the end of the tokens. -/
def postfixWith (sub : List Token → Expr) (e : Expr) (tokens : List Token) : Option Expr :=
  match tokens with
  | [] => some e
  | t :: ts => match t.kind with
    | .symbol .openParen => match _h : bracketed? ts with
      | some (inside, rest) => postfixWith sub (.call e (argsWith sub inside)) rest
      | none => none
    | .symbol .openSquare => match _h : bracketed? ts with
      | some (inside, rest) => postfixWith sub (.subscript e (sub inside)) rest
      | none => none
    | .symbol .dot => match ts with
      | ⟨.name n, _⟩ :: rest => postfixWith sub (.member e n) rest
      | _ => none
    | _ => none
termination_by tokens.length
decreasing_by
  · exact Nat.lt_succ_of_lt (length_bracketed?_lt _h)
  · exact Nat.lt_succ_of_lt (length_bracketed?_lt _h)
  · simp only [List.length_cons]; omega

/-- An operand with what follows it. -/
def operandWith (sub : List Token → Expr) (tokens : List Token) : Expr :=
  match atomWith sub tokens with
  | some (e, rest) => (postfixWith sub e rest).getD .unmodelled
  | none => .unmodelled

/-- The parts of a tuple: nothing stands after a comma at the end. -/
def tupleParts (parts : List (List Token)) : List (List Token) :=
  if parts.getLast?.any (·.isEmpty) then parts.dropLast else parts

/-- One step of reading, which leaves the smaller expressions to `sub`. -/
def readWith (sub : List Token → Expr) (tokens : List Token) : Expr :=
  if tokens.isEmpty || anyTopLevel isOperatorKeyword tokens then .unmodelled
  else
    let items := splitTopLevel .comma tokens
    let members := splitTopLevel .bar tokens
    if items.length > 1 then .tuple ((tupleParts items).map sub)
    else if members.length > 1 then .union (members.map sub)
    else match tokens with
      | ⟨.symbol .minus, _⟩ :: rest => match sub rest with
        | .unmodelled => .unmodelled
        | e => .negate e
      | ⟨.symbol .plus, _⟩ :: rest => sub rest
      | _ => operandWith sub tokens

/-- Reads an expression in at most `fuel` steps within each other. -/
def readFuel : Nat → List Token → Expr
  | 0, _ => .unmodelled
  | fuel + 1, tokens => readWith (readFuel fuel) tokens

/-- The expression that some tokens stand for. A step leaves only fewer tokens to the next, so
their number bounds the steps. -/
def ofTokens (tokens : List Token) : Expr := readFuel tokens.length tokens

/-! ## Views -/

mutual

/-- The value of an expression that is made of literals only. -/
def literal? : Expr → Option Literal
  | .literal l => some l
  | .negate e => (literal? e).bind Literal.negate?
  | .list items => (literals? items).map .list
  | .tuple items => (literals? items).map .list
  | _ => none

def literals? : List Expr → Option (List Literal)
  | [] => some []
  | e :: rest => match literal? e with
    | some l => (literals? rest).map (l :: ·)
    | none => none

end

/-- The last name of a name or a dotted name. -/
def tailName? : Expr → Option String
  | .name n => some n
  | .member _ n => some n
  | _ => none

/-- The type of `None`. -/
def isNone : Expr → Bool
  | .literal .null => true
  | .name n => n = "NoneType"
  | _ => false

end Expr

/-! ## Headers and fields of classes -/

/-- The name of a class and what stands behind the colon of its header. -/
structure ClassHeader where
  name : String
  inlineBody : List Token
  deriving DecidableEq, Repr

/-- What follows a bracketed group at the front; `none` if the group does not end. -/
def afterGroup? : List Token → Option (List Token)
  | t :: ts => if t.opens then (bracketed? ts).map (·.2) else none
  | [] => none

def startsWith (s : Symbol) (tokens : List Token) : Bool := tokens.head?.any (·.isSymbol s)

/-- The header of a class: type parameters, bases, both or none stand between name and colon. -/
def classHeader? : List Token → Option ClassHeader
  | ⟨.name "class", _⟩ :: ⟨.name n, _⟩ :: rest => do
    let rest ←
      if startsWith .openParen rest || startsWith .openSquare rest then do
        let rest ← afterGroup? rest
        if startsWith .openParen rest then afterGroup? rest else some rest
      else some rest
    match rest with
    | ⟨.symbol .colon, _⟩ :: inlineBody => some ⟨n, inlineBody⟩
    | _ => none
  | _ => none

/-- `target: annotation = value` with a name as its target. -/
structure AnnotatedAssignment where
  target : String
  typeHint : Expr
  value : Expr
  deriving Repr

def annotatedAssignment? : List Token → Option AnnotatedAssignment
  | ⟨.name target, _⟩ :: ⟨.symbol .colon, _⟩ :: rest =>
    if isKeyword target then none
    else (cutTopLevel? .assign rest).map fun (typeHint, value) =>
      ⟨target, .ofTokens typeHint, .ofTokens value⟩
  | _ => none

end DeclaredSchema.Source
