/-!
# Glob patterns

`?` stands for one byte and `*` for any bytes, slashes included. `**` between slashes or at an end
stands for whole directories, `[a-z]` for one byte of a set, and `{a,b}` for either of its branches.
A backslash takes the next character as it is.

A set is a set of bytes: of a character beyond ASCII every byte is in it on its own.
-/

namespace DeclaredSchema

inductive GlobToken where
  | literal (c : Char)
  | anyByte
  | anyBytes
  /-- Any directories before the rest. -/
  | leadingDirectories
  /-- Anything inside a directory. -/
  | insideDirectory
  /-- A slash, or any directories between two. -/
  | betweenDirectories
  | byteSet (negated : Bool) (ranges : List (Char × Char))
  | branches (options : List (List GlobToken))
  deriving Repr

inductive GlobCause where
  | unclosedSet
  | invalidRange (low high : Char)
  | unopenedBranches
  | unclosedBranches
  | danglingEscape
  deriving DecidableEq, Repr

def GlobCause.message : GlobCause → String
  | unclosedSet => "unclosed character class; missing ']'"
  | invalidRange low high =>
    "invalid range; '" ++ low.toString ++ "' > '" ++ high.toString ++ "'"
  | unopenedBranches =>
    "unopened alternate group; missing '\x7b' (maybe escape '\x7d' with '[\x7d]'?)"
  | unclosedBranches =>
    "unclosed alternate group; missing '\x7d' (maybe escape '\x7b' with '[\x7b]'?)"
  | danglingEscape => "dangling '\\'"

/-- A pattern that cannot be read. -/
structure GlobFault where
  pattern : String
  cause : GlobCause
  deriving DecidableEq, Repr

def GlobFault.message (f : GlobFault) : String :=
  "error parsing glob '" ++ f.pattern ++ "': " ++ f.cause.message

namespace Glob

/-! ## Reading a pattern -/

/-- A group of branches that is still open: what stands before it, and its finished branches, latest
first. Token lists are kept latest first too. -/
structure OpenGroup where
  before : List GlobToken
  finished : List (List GlobToken)

/-- A set that is still open. -/
structure OpenSet where
  negated : Bool := false
  /-- Nothing has been read since the bracket. -/
  opening : Bool := true
  /-- No member has been read. -/
  first : Bool := true
  /-- A hyphen waits for its upper end. -/
  inRange : Bool := false
  /-- Latest first. -/
  ranges : List (Char × Char) := []

/-- What the next character belongs to. -/
inductive Place where
  | plain
  | escaped
  | set (s : OpenSet)

structure State where
  place : Place := .plain
  /-- The character before. -/
  previous : Option Char := none
  groups : List OpenGroup := []
  /-- The tokens of the branch that is being read, latest first. -/
  branch : List GlobToken := []

namespace State

def push (s : State) (t : GlobToken) : State := { s with branch := t :: s.branch }

def openGroup (s : State) : State :=
  { s with groups := ⟨s.branch, []⟩ :: s.groups, branch := [] }

def closeGroup (s : State) : Except GlobCause State :=
  match s.groups with
  | [] => .error .unopenedBranches
  | g :: groups =>
    let options := (s.branch.reverse :: g.finished).reverse
    .ok { s with groups, branch := .branches options :: g.before }

/-- A comma separates branches inside a group and stands for itself elsewhere. -/
def comma (s : State) : State :=
  match s.groups with
  | [] => s.push (.literal ',')
  | g :: groups =>
    { s with groups := { g with finished := s.branch.reverse :: g.finished } :: groups, branch := [] }

def twoStars (s : State) : State := (s.push .anyBytes).push .anyBytes

/-- A `**` that stands for directories takes the place of the slash, or of the directories, before
it. -/
def directories (s : State) (t : GlobToken) : State :=
  match s.branch with
  | .leadingDirectories :: _ => s
  | .insideDirectory :: _ => s
  | _ :: branch => { s with branch := t :: branch }
  | [] => s.push t

/-- Whether a `**` that is not first in its branch can stand for directories. -/
def afterSeparator (s : State) : Bool :=
  s.previous == some '/' ||
    (!s.groups.isEmpty && (s.previous == some ',' || s.previous == some '\x7b'))

/-- Whether the branch ends before the given rest. -/
def endsBefore (s : State) : List Char → Bool
  | [] => true
  | c :: _ => !s.groups.isEmpty && (c == ',' || c == '\x7d')

end State

/-- Widens the latest range up to `c`. -/
def widen (c : Char) : List (Char × Char) → Except GlobCause (List (Char × Char))
  | (low, _) :: rest => if c < low then .error (.invalidRange low c) else .ok ((low, c) :: rest)
  | [] => .ok [(c, c)]

def OpenSet.token (s : OpenSet) : GlobToken :=
  .byteSet s.negated ((if s.inRange then ('-', '-') :: s.ranges else s.ranges).reverse)

/-- Reads a character of a set; answers with the token when it closes the set. -/
def OpenSet.step (s : OpenSet) (c : Char) : Except GlobCause (OpenSet ⊕ GlobToken) := do
  if s.opening && (c = '!' || c = '^') then
    .ok (.inl { s with opening := false, negated := true })
  else if c = ']' && !s.first then .ok (.inr s.token)
  else if c = '-' && !s.first && !s.inRange then
    .ok (.inl { s with opening := false, inRange := true })
  else
    let ranges ← if s.inRange then widen c s.ranges else .ok ((c, c) :: s.ranges)
    .ok (.inl { s with opening := false, first := false, inRange := false, ranges })

/-- The state after two stars, and how many characters of the rest they take with them: a slash goes
with the directories before it. -/
def doubleStar (s : State) (rest : List Char) : State × Nat :=
  if s.branch.isEmpty then match rest with
    | [] => (s.push .leadingDirectories, 0)
    | c :: _ => if c = '/' then (s.push .leadingDirectories, 1) else (s.twoStars, 0)
  else if !s.afterSeparator then (s.twoStars, 0)
  else if s.endsBefore rest then (s.directories .insideDirectory, 0)
  else if rest.head? = some '/' then (s.directories .betweenDirectories, 1)
  else (s.twoStars, 0)

/-- Reads one character outside sets and escapes. -/
def plainStep (s : State) (c : Char) : Except GlobCause State :=
  if c = '?' then .ok (s.push .anyByte)
  else if c = '*' then .ok (s.push .anyBytes)
  else if c = '[' then .ok { s with place := .set {} }
  else if c = '\x7b' then .ok s.openGroup
  else if c = '\x7d' then s.closeGroup
  else if c = ',' then .ok s.comma
  else if c = '\\' then .ok { s with place := .escaped }
  else .ok (s.push (.literal c))

def setStep (s : State) (set : OpenSet) (c : Char) : Except GlobCause State :=
  match set.step c with
  | .error e => .error e
  | .ok (.inl set) => .ok { s with place := .set set }
  | .ok (.inr t) => .ok { s.push t with place := .plain }

def step (s : State) (c : Char) : Except GlobCause State :=
  match s.place with
  | .plain => plainStep s c
  | .escaped => .ok { s.push (.literal c) with place := .plain }
  | .set set => setStep s set c

def State.isPlain (s : State) : Bool :=
  match s.place with
  | .plain => true
  | _ => false

def finish (s : State) : Except GlobCause (List GlobToken) :=
  match s.place with
  | .set _ => .error .unclosedSet
  | .escaped => .error .danglingEscape
  | .plain => if s.groups.isEmpty then .ok s.branch.reverse else .error .unclosedBranches

/-- Reads a pattern from a state on. -/
def readFrom (s : State) : List Char → Except GlobCause (List GlobToken)
  | [] => finish s
  | c :: rest =>
    if s.isPlain && c = '*' && rest.head? = some '*' then
      let (s, taken) := doubleStar s rest.tail
      readFrom { s with previous := if taken = 0 then some '*' else some '/' }
        (rest.tail.drop taken)
    else match step s c with
      | .error e => .error e
      | .ok s => readFrom { s with previous := some c } rest
  termination_by cs => cs.length
  decreasing_by
    · simp only [List.length_drop, List.length_tail, List.length_cons]; omega
    · simp only [List.length_cons]; omega

end Glob

/-- A pattern that has been read. -/
structure Glob where
  tokens : List GlobToken
  deriving Repr

namespace Glob

def ofText (pattern : String) : Except GlobFault Glob :=
  match readFrom {} pattern.toList with
  | .ok tokens => .ok ⟨tokens⟩
  | .error cause => .error ⟨pattern, cause⟩

/-! ## Matching -/

def utf8 (c : Char) : List UInt8 := c.toString.toUTF8.toList

/-- The ranges of bytes that a range of characters stands for. -/
def byteRanges (range : Char × Char) : List (UInt8 × UInt8) :=
  let (low, high) := range
  let single := fun b => (b, b)
  if low = high then (utf8 low).map single
  else match (utf8 low).reverse, utf8 high with
    | last :: before, first :: after =>
      before.reverse.map single ++ (last, first) :: after.map single
    | _, _ => []

def inSet (negated : Bool) (ranges : List (Char × Char)) (b : UInt8) : Bool :=
  ((ranges.flatMap byteRanges).any fun (low, high) => low ≤ b && b ≤ high) != negated

/-- All ends of a list, the whole first. -/
def tails : List UInt8 → List (List UInt8)
  | [] => [[]]
  | b :: rest => (b :: rest) :: tails rest

def slash : UInt8 := 0x2f

/-- What may be left after directories, each with its slash. -/
def afterSlashes : List UInt8 → List (List UInt8)
  | [] => []
  | b :: rest => if b = slash then rest :: afterSlashes rest else afterSlashes rest

def dropBytes : List UInt8 → List UInt8 → List (List UInt8)
  | [], input => [input]
  | b :: bytes, c :: input => if b = c then dropBytes bytes input else []
  | _ :: _, [] => []

mutual

/-- Whether a token can match nothing but the empty text because nothing is in it. -/
def isVoid : GlobToken → Bool
  | .branches options => areVoid options
  | _ => false

def areVoid : List (List GlobToken) → Bool
  | [] => true
  | o :: rest => isVoidBranch o && areVoid rest

def isVoidBranch : List GlobToken → Bool
  | [] => true
  | t :: rest => isVoid t && isVoidBranch rest

end

mutual

/-- What may be left of a text after a token. -/
def left : GlobToken → List UInt8 → List (List UInt8)
  | .literal c, input => dropBytes (utf8 c) input
  | .anyByte, input => match input with
    | [] => []
    | _ :: rest => [rest]
  | .anyBytes, input => tails input
  | .leadingDirectories, input => input :: afterSlashes input
  | .insideDirectory, input => match input with
    | [] => []
    | b :: rest => if b = slash then tails rest else []
  | .betweenDirectories, input => match input with
    | [] => []
    | b :: rest => if b = slash then rest :: afterSlashes rest else []
  | .byteSet negated ranges, input => match input with
    | [] => []
    | b :: rest => if inSet negated ranges b then [rest] else []
  | .branches options, input => if areVoid options then [input] else leftOfAny options input

/-- What may be left after one of the branches; empty branches do not count. -/
def leftOfAny : List (List GlobToken) → List UInt8 → List (List UInt8)
  | [], _ => []
  | o :: rest, input =>
    (if isVoidBranch o then [] else leftOfAll o [input]) ++ leftOfAny rest input

/-- What may be left after several tokens, from any of the given texts on. -/
def leftOfAll : List GlobToken → List (List UInt8) → List (List UInt8)
  | [], inputs => inputs
  | t :: rest, inputs => leftOfAll rest (inputs.flatMap (left t)).eraseDups

end

/-- A lone `**` matches every path; any other pattern has to use up the path. -/
def isMatch (g : Glob) (path : String) : Bool :=
  match g.tokens with
  | [.leadingDirectories] => true
  | tokens => (leftOfAll tokens [path.toUTF8.toList]).any (·.isEmpty)

end Glob

/-- Reads patterns up to the first that cannot be read. -/
def readGlobs : List String → Except GlobFault (List Glob)
  | [] => .ok []
  | p :: rest => do
    let g ← Glob.ofText p
    let gs ← readGlobs rest
    .ok (g :: gs)

def matchesAny (globs : List Glob) (path : String) : Bool := globs.any (·.isMatch path)

end DeclaredSchema
