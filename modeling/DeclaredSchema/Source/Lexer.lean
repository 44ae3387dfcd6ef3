import DeclaredSchema.Source.SyntaxError
import DeclaredSchema.Text.Alphabet

/-!
# From text to tokens

One step of the lexer takes a blank, a comment, a line end or one token off the front of the text.
Indentation is measured where a line begins outside all brackets; lines that hold nothing but blanks
and a comment do not count. Every step makes the rest of the text shorter (`length_step_lt`), so a
run ends after as many steps as there are characters.
-/

namespace DeclaredSchema.Source

structure Lexer where
  /-- What is still to be read. -/
  rest : List Char
  line : Nat
  /-- The tokens so far, latest first. -/
  done : List Token
  /-- The widths of the open blocks, innermost first; the outermost block of width zero is left
  out. -/
  indents : List Nat
  /-- The brackets that are open and the lines they stand on, innermost first. -/
  brackets : List (Bracket × Nat)
  /-- The indentation of a line is still to be measured. -/
  lineStart : Bool
  deriving DecidableEq, Repr

namespace Lexer

def push (s : Lexer) (kind : Token.Kind) (line : Nat) : Lexer :=
  { s with done := ⟨kind, line⟩ :: s.done }

def fail (s : Lexer) (cause : SyntaxError.Cause) : Except SyntaxError Lexer :=
  .error ⟨s.line, cause⟩

/-- No word, number, string or symbol has been read since the last line end. -/
def lineIsEmpty (s : Lexer) : Bool :=
  match s.done with
  | [] => true
  | t :: _ => t.isLayout

/-! ## Indentation -/

/-- Columns between tab stops. -/
def tabSize : Nat := 8

/-- The width of leading blanks and the text after them. A form feed starts again at zero. -/
def indentation (width : Nat) : List Char → Nat × List Char
  | ' ' :: rest => indentation (width + 1) rest
  | '\t' :: rest => indentation ((width / tabSize + 1) * tabSize) rest
  | '\x0c' :: rest => indentation 0 rest
  | rest => (width, rest)

/-- Drops a comment up to the line end, which stays. -/
def skipComment (cs : List Char) : List Char := cs.dropWhile (· != '\n')

/-- Closes the blocks that are wider than `width`. -/
def closeBlocks (line width : Nat) : List Nat → List Token → List Nat × List Token
  | [], done => ([], done)
  | w :: ws, done =>
    if w > width then closeBlocks line width ws (⟨.dedent, line⟩ :: done) else (w :: ws, done)

/-- Opens or closes blocks for a line of the given width. -/
def shiftBlocks (s : Lexer) (width : Nat) : Except SyntaxError Lexer :=
  let current := s.indents.headD 0
  if width > current then
    .ok { s with indents := width :: s.indents, done := ⟨.indent, s.line⟩ :: s.done }
  else if width < current then
    let (indents, done) := closeBlocks s.line width s.indents s.done
    if indents.headD 0 = width then .ok { s with indents, done }
    else s.fail .inconsistentDedent
  else .ok s

/-! ## Numbers -/

def isRadixMark (c : Char) : Bool :=
  c = 'x' || c = 'X' || c = 'o' || c = 'O' || c = 'b' || c = 'B'

/-- Digits, points, exponents and their signs; `last` is the character before. -/
def decimalTail (last : Char) : List Char → List Char × List Char
  | [] => ([], [])
  | c :: rest =>
    let signed := (c = '+' || c = '-') && (last = 'e' || last = 'E')
    if Text.isAsciiDigit c || c = '_' || c = '.' || c = 'e' || c = 'E' || signed then
      let (text, rest) := decimalTail c rest
      (c :: text, rest)
    else ([], c :: rest)

/-- The mark of an imaginary number. -/
def imaginaryTail : List Char → List Char × List Char
  | 'j' :: rest => (['j'], rest)
  | 'J' :: rest => (['J'], rest)
  | rest => ([], rest)

def decimal (c : Char) (cs : List Char) : List Char × List Char :=
  let (body, rest) := decimalTail c cs
  let (mark, rest) := imaginaryTail rest
  (c :: body ++ mark, rest)

/-- A number that begins with `c`. -/
def number (c : Char) (cs : List Char) : List Char × List Char :=
  match cs with
  | mark :: more =>
    if c = '0' && isRadixMark mark then
      let isDigit := fun d => Text.isHexDigit d || d = '_'
      (c :: mark :: more.takeWhile isDigit, more.dropWhile isDigit)
    else decimal c cs
  | [] => ([c], [])

/-! ## Strings -/

/-- The prefixes that say how a literal is read, in any order and case. -/
structure StringPrefix where
  raw : Bool
  formatted : Bool
  bytes : Bool
  deriving DecidableEq, Repr

/-- A word of at most two of the letters `r`, `b`, `u` and `f`. -/
def stringPrefix? (word : List Char) : Option StringPrefix :=
  let letters := word.map Text.asciiLower
  if word.length ≤ 2 && letters.all (fun c => c = 'r' || c = 'b' || c = 'u' || c = 'f') then
    some ⟨letters.contains 'r', letters.contains 'f', letters.contains 'b'⟩
  else none

/-- The character a code of exactly `count` places stands for. A plus sign may take the first
place. -/
def codePoint? (count : Nat) (cs : List Char) : Option Char :=
  let code := cs.take count
  let digits := match code with
    | '+' :: more => more
    | _ => code
  if code.length = count && !digits.isEmpty && digits.all Text.isHexDigit then
    let n := digits.foldl (fun n c => 16 * n + Text.hexDigitValue c) 0
    if n.isValidChar then some (Char.ofNat n) else none
  else none

/-- What `\x`, `\u` and `\U` stand for; without a code the two characters stay. -/
def hexEscape (mark : Char) (count : Nat) (cs : List Char) : List Char × List Char :=
  match codePoint? count cs with
  | some c => ([c], cs.drop count)
  | none => (['\\', mark], cs)

/-- What a backslash and the character after it stand for. An unknown escape stays as it is. -/
def escape (next : Char) (cs : List Char) : List Char × List Char :=
  if next = '\n' then ([], cs)
  else if next = 'n' then (['\n'], cs)
  else if next = 't' then (['\t'], cs)
  else if next = 'r' then (['\r'], cs)
  else if next = '0' then (['\x00'], cs)
  else if next = '\\' || next = '\'' || next = '"' then ([next], cs)
  else if next = 'x' then hexEscape next 2 cs
  else if next = 'u' then hexEscape next 4 cs
  else if next = 'U' then hexEscape next 8 cs
  else (['\\', next], cs)

def escapeOrRaw (raw : Bool) (next : Char) (cs : List Char) : List Char × List Char :=
  if raw then (['\\', next], cs) else escape next cs

theorem length_escape_le (next : Char) (cs : List Char) :
    (escape next cs).2.length ≤ cs.length := by
  have hex (m : Char) (n : Nat) : (hexEscape m n cs).2.length ≤ cs.length := by
    unfold hexEscape; split <;> simp
  unfold escape
  repeat' split
  all_goals first | exact Nat.le_refl _ | exact hex _ _

theorem length_escapeOrRaw_le (raw : Bool) (next : Char) (cs : List Char) :
    (escapeOrRaw raw next cs).2.length ≤ cs.length := by
  unfold escapeOrRaw
  split
  · exact Nat.le_refl _
  · exact length_escape_le next cs

/-- What stands before the closing quote, how many line ends it crosses, and the text after. -/
structure StringBody where
  value : List Char
  lines : Nat
  rest : List Char
  deriving DecidableEq, Repr

namespace StringBody

/-- Puts what one piece stands for in front. -/
def after (image : List Char) (crossed : Char) (b : StringBody) : StringBody :=
  { b with value := image ++ b.value, lines := b.lines + if crossed = '\n' then 1 else 0 }

end StringBody

/-- The text after the closing quote, if the text begins with one. -/
def closing? (quote : Char) (triple : Bool) : List Char → Option (List Char)
  | a :: b :: c :: rest =>
    if !triple then if a = quote then some (b :: c :: rest) else none
    else if a = quote && b = quote && c = quote then some rest else none
  | a :: rest => if !triple && a = quote then some rest else none
  | [] => none

theorem length_closing?_lt {quote : Char} {triple : Bool} {cs rest : List Char}
    (h : closing? quote triple cs = some rest) : rest.length < cs.length := by
  unfold closing? at h
  grind

/-- Reads a string after its opening quote. Only a literal in triple quotes may cross a line end
that is not escaped. -/
def stringBody? (quote : Char) (triple raw : Bool) (cs : List Char) : Option StringBody :=
  match closing? quote triple cs with
  | some rest => some ⟨[], 0, rest⟩
  | none => match cs with
    | [] => none
    | '\\' :: [] => none
    | '\\' :: next :: more =>
      (stringBody? quote triple raw (escapeOrRaw raw next more).2).map
        (·.after (escapeOrRaw raw next more).1 next)
    | c :: more =>
      if c = '\n' && !triple then none
      else (stringBody? quote triple raw more).map (·.after [c] c)
termination_by cs.length
decreasing_by
  · have := length_escapeOrRaw_le raw next more
    simp only [List.length_cons]; omega
  · simp

theorem length_stringBody?_le {quote : Char} {triple raw : Bool} {cs : List Char} {b : StringBody}
    (h : stringBody? quote triple raw cs = some b) : b.rest.length ≤ cs.length := by
  fun_induction stringBody? quote triple raw cs generalizing b with
  | case1 cs rest hc => have := length_closing?_lt hc; cases h; simpa using Nat.le_of_lt this
  | case2 => simp at h
  | case3 => simp at h
  | case4 next more _ ih =>
    obtain ⟨b', hb, rfl⟩ := Option.map_eq_some_iff.1 h
    have := ih hb
    have := length_escapeOrRaw_le raw next more
    simp only [StringBody.after, List.length_cons]; omega
  | case5 => simp at h
  | case6 =>
    rename_i ih
    obtain ⟨b', hb, rfl⟩ := Option.map_eq_some_iff.1 h
    have := ih hb
    simp only [StringBody.after, List.length_cons]; omega

/-- Adds a literal; one right after another literal continues it. -/
def pushString (done : List Token) (value : List Char) (plain : Bool) (line : Nat) : List Token :=
  match done with
  | ⟨.str before wasPlain, first⟩ :: rest =>
    ⟨.str (before ++ String.ofList value) (wasPlain && plain), first⟩ :: rest
  | _ => ⟨.str (String.ofList value) plain, line⟩ :: done

/-- A string literal whose opening quote stands before `cs`. -/
def readString (s : Lexer) (how : StringPrefix) (quote : Char) (cs : List Char) :
    Except SyntaxError Lexer :=
  let (triple, body) := match cs with
    | a :: b :: more => if a = quote && b = quote then (true, more) else (false, cs)
    | _ => (false, cs)
  match stringBody? quote triple how.raw body with
  | none => s.fail .unterminatedString
  | some b =>
    .ok { s with
      rest := b.rest
      line := s.line + b.lines
      done := pushString s.done b.value (!how.formatted && !how.bytes) s.line }

/-! ## Words and symbols -/

def isQuote (c : Char) : Bool := c = '"' || c = '\''

def isWordStart (c : Char) : Bool := c = '_' || Text.isAlphabetic c

def isWordPart (c : Char) : Bool := c = '_' || Text.isAlphanumeric c

theorem isWordPart_of_isWordStart {c : Char} (h : isWordStart c) : isWordPart c := by
  simp only [isWordStart, Bool.or_eq_true] at h
  rcases h with h | h
  · simp [isWordPart, h]
  · simp [isWordPart, Text.isAlphanumeric_of_isAlphabetic h]

/-- A word, or a string literal that the word is the prefix of. -/
def readWord (s : Lexer) (cs : List Char) : Except SyntaxError Lexer :=
  let word := cs.takeWhile isWordPart
  let rest := cs.dropWhile isWordPart
  let plain : Except SyntaxError Lexer :=
    .ok { s.push (.name (String.ofList word)) s.line with rest }
  match stringPrefix? word, rest with
  | some how, quote :: more => if isQuote quote then s.readString how quote more else plain
  | _, _ => plain

/-- A symbol; a closing bracket has to match the innermost open one. -/
def readSymbol (s : Lexer) (c : Char) (cs : List Char) : Except SyntaxError Lexer :=
  match Symbol.atFront? (c :: cs) with
  | none => s.fail (.invalidCharacter c)
  | some symbol =>
    let pushed := { s.push (.symbol symbol) s.line with rest := (c :: cs).drop symbol.chars.length }
    match symbol.opens?, symbol.closes? with
    | some b, _ => .ok { pushed with brackets := (b, s.line) :: s.brackets }
    | none, some b => match s.brackets with
      | [] => s.fail (.unmatchedClose b)
      | (opened, _) :: outer =>
        if opened = b then .ok { pushed with brackets := outer }
        else s.fail (.mismatchedClose b opened)
    | none, none => .ok pushed

/-! ## Steps -/

/-- The end of a line. Inside brackets it means nothing. -/
def endLine (s : Lexer) (rest : List Char) : Lexer :=
  let ended := if s.brackets.isEmpty && !s.lineIsEmpty then s.push .newline s.line else s
  { ended with rest, line := s.line + 1, lineStart := s.brackets.isEmpty }

/-- The text after a backslash that joins two lines. -/
def joined? : List Char → Option (List Char)
  | '\n' :: rest => some rest
  | '\r' :: '\n' :: rest => some rest
  | _ => none

/-- A digit, or a point before one. -/
def startsNumber (c : Char) (cs : List Char) : Bool :=
  Text.isAsciiDigit c || (c = '.' && (cs.head?.any Text.isAsciiDigit))

/-- Reads what begins with `c`. -/
def readOne (s : Lexer) (c : Char) (cs : List Char) : Except SyntaxError Lexer :=
  if c = ' ' || c = '\t' || c = '\x0c' || c = '\r' then .ok { s with rest := cs }
  else if c = '#' then .ok { s with rest := skipComment cs }
  else if c = '\n' then .ok (s.endLine cs)
  else if startsNumber c cs then
    .ok { s.push (.number (String.ofList (number c cs).1)) s.line with rest := (number c cs).2 }
  else if isWordStart c then s.readWord (c :: cs)
  else if isQuote c then s.readString ⟨false, false, false⟩ c cs
  else match c, joined? cs with
    | '\\', some rest => .ok { s with rest, line := s.line + 1 }
    | _, _ => s.readSymbol c cs

/-- A line that begins outside all brackets: a blank one is skipped, any other may open or close
blocks before its first token is read. -/
def readLineStart (s : Lexer) : Except SyntaxError Lexer :=
  let (width, rest) := indentation 0 s.rest
  let s := { s with rest, lineStart := false }
  match rest with
  | [] => .ok s
  | '#' :: more => .ok { s with rest := skipComment more }
  | '\n' :: more => .ok { s with rest := more, line := s.line + 1, lineStart := true }
  | '\r' :: '\n' :: more => .ok { s with rest := more, line := s.line + 1, lineStart := true }
  | c :: more => match s.shiftBlocks width with
    | .error e => .error e
    | .ok s => s.readOne c more

def step (s : Lexer) : Except SyntaxError Lexer :=
  if s.lineStart && s.brackets.isEmpty then s.readLineStart
  else match s.rest with
    | [] => .ok s
    | c :: cs => s.readOne c cs

/-! ## Progress -/

theorem length_indentation_le (width : Nat) (cs : List Char) :
    (indentation width cs).2.length ≤ cs.length := by
  fun_induction indentation width cs <;> simp_all <;> omega

theorem length_skipComment_le (cs : List Char) : (skipComment cs).length ≤ cs.length :=
  (List.dropWhile_suffix _).length_le

theorem length_decimalTail_le (last : Char) (cs : List Char) :
    (decimalTail last cs).2.length ≤ cs.length := by
  fun_induction decimalTail last cs <;> simp_all <;> omega

theorem length_imaginaryTail_le (cs : List Char) :
    (imaginaryTail cs).2.length ≤ cs.length := by
  unfold imaginaryTail
  split <;> simp

theorem length_number_le (c : Char) (cs : List Char) : (number c cs).2.length ≤ cs.length := by
  have decimal_le (cs : List Char) : (decimal c cs).2.length ≤ cs.length := by
    have := length_imaginaryTail_le (decimalTail c cs).2
    have := length_decimalTail_le c cs
    simp only [decimal]; omega
  unfold number
  split
  · split
    · next more _ =>
      have := (List.dropWhile_suffix (fun d => Text.isHexDigit d || d = '_') (l := more)).length_le
      simp only [List.length_cons]; omega
    · exact decimal_le _
  · simp

theorem length_readString_le {s t : Lexer} {how : StringPrefix} {quote : Char} {cs : List Char}
    (h : s.readString how quote cs = .ok t) : t.rest.length ≤ cs.length := by
  have body_le (triple : Bool) (body : List Char) (hb : body.length ≤ cs.length)
      (h : (match stringBody? quote triple how.raw body with
        | none => s.fail .unterminatedString
        | some b => .ok { s with
            rest := b.rest
            line := s.line + b.lines
            done := pushString s.done b.value (!how.formatted && !how.bytes) s.line }) = .ok t) :
      t.rest.length ≤ cs.length := by
    split at h
    · simp [fail] at h
    · next b hs =>
      have := length_stringBody?_le hs
      cases h
      simp only; omega
  unfold readString at h
  split at h
  next triple body hm =>
  refine body_le triple body ?_ h
  split at hm
  · split at hm <;> cases hm <;> simp; omega
  · cases hm; simp

theorem length_readWord_lt {s t : Lexer} {c : Char} {cs : List Char} (hc : isWordStart c)
    (h : s.readWord (c :: cs) = .ok t) : t.rest.length < (c :: cs).length := by
  have hdrop : (c :: cs).dropWhile isWordPart = cs.dropWhile isWordPart := by
    simp [isWordPart_of_isWordStart hc]
  have hle : (cs.dropWhile isWordPart).length ≤ cs.length := (List.dropWhile_suffix _).length_le
  unfold readWord at h
  simp only [hdrop] at h
  simp only [List.length_cons]
  split at h
  · next quote more _ hr =>
    rw [hr] at hle
    simp only [List.length_cons] at hle
    split at h
    · have := length_readString_le h; omega
    · cases h; simp only [hr, List.length_cons]; omega
  · cases h; simp only; omega

theorem length_readSymbol_lt {s t : Lexer} {c : Char} {cs : List Char}
    (h : s.readSymbol c cs = .ok t) : t.rest.length < (c :: cs).length := by
  unfold readSymbol at h
  split at h
  · simp [fail] at h
  · next symbol _ =>
    have := List.length_pos_iff.2 symbol.chars_ne_nil
    have : ((c :: cs).drop symbol.chars.length).length < (c :: cs).length := by
      simp only [List.length_drop, List.length_cons]; omega
    simp only at h
    split at h
    · cases h; exact this
    · split at h
      · simp [fail] at h
      · split at h
        · cases h; exact this
        · simp [fail] at h
    · cases h; exact this

theorem length_joined?_lt {cs rest : List Char} (h : joined? cs = some rest) :
    rest.length < cs.length := by
  unfold joined? at h
  grind

theorem length_readOne_lt {s t : Lexer} {c : Char} {cs : List Char}
    (h : s.readOne c cs = .ok t) : t.rest.length < (c :: cs).length := by
  unfold readOne at h
  split at h
  · cases h; simp
  split at h
  · cases h; have := length_skipComment_le cs; simp only [List.length_cons]; omega
  split at h
  · cases h; simp [endLine]
  split at h
  · cases h; have := length_number_le c cs; simp only [List.length_cons]; omega
  split at h
  · next hw => exact length_readWord_lt hw h
  split at h
  · have := length_readString_le h; simp only [List.length_cons]; omega
  split at h
  · have := length_joined?_lt ‹joined? cs = some _›; cases h; simp only [List.length_cons]; omega
  · exact length_readSymbol_lt h

theorem rest_shiftBlocks {s t : Lexer} {width : Nat} (h : s.shiftBlocks width = .ok t) :
    t.rest = s.rest := by
  unfold shiftBlocks fail at h
  grind

theorem length_step_lt {s t : Lexer} (h : s.step = .ok t) (hs : s.rest ≠ []) :
    t.rest.length < s.rest.length := by
  unfold step at h
  split at h
  · have hle := length_indentation_le 0 s.rest
    have hpos := List.length_pos_iff.2 hs
    unfold readLineStart at h
    simp only at h
    split at h
    · next hr => cases h; rw [hr]; exact hpos
    · next more hr =>
      cases h
      have := length_skipComment_le more
      rw [hr] at hle
      simp only [List.length_cons] at hle ⊢; omega
    · next more hr =>
      cases h
      rw [hr] at hle
      simp only [List.length_cons] at hle ⊢; omega
    · next more hr =>
      cases h
      rw [hr] at hle
      simp only [List.length_cons] at hle ⊢; omega
    · next c more _ _ _ hr =>
      rw [hr] at hle
      split at h
      · simp at h
      · exact Nat.lt_of_lt_of_le (length_readOne_lt h) hle
  · split at h
    · next hr => exact absurd hr hs
    · next c cs hr => rw [hr]; exact length_readOne_lt h

/-! ## Whole texts -/

/-- Steps until nothing is left. -/
def run (s : Lexer) : Except SyntaxError Lexer :=
  if _hs : s.rest = [] then .ok s
  else match _h : s.step with
    | .error e => .error e
    | .ok t => run t
termination_by s.rest.length
decreasing_by exact length_step_lt _h _hs

/-- Ends the last line and all blocks. A bracket that is still open is blamed on its own line. -/
def finish (s : Lexer) : Except SyntaxError (List Token) :=
  match s.brackets with
  | (b, line) :: _ => .error ⟨line, .neverClosed b⟩
  | [] =>
    let ended := if s.lineIsEmpty then s else s.push .newline s.line
    let dedents := s.indents.map fun _ => (⟨.dedent, s.line⟩ : Token)
    .ok (ended.done.reverse ++ dedents ++ [⟨.endMarker, s.line⟩])

/-- The lexer before a text. A byte order mark in front is not part of the text. -/
def start (text : List Char) : Lexer where
  rest := match text with
    | '\ufeff' :: rest => rest
    | _ => text
  line := 1
  done := []
  indents := []
  brackets := []
  lineStart := true

end Lexer

/-- The tokens of a text. -/
def tokenize (text : String) : Except SyntaxError (List Token) := do
  let s ← (Lexer.start text.toList).run
  s.finish

end DeclaredSchema.Source
