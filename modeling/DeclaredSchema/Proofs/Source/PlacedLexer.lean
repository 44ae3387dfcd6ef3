import DeclaredSchema.Proofs.Source.Places

/-! # Tokens read by places

The lexer as a reader that stands at a place of the text and looks at single places, at the one
before it in a number, and at slices for what it has read. Its tokens are those of the text, and
none of its looks fails (`tokenizeAt_eq`): by one lemma for each way in which a step reads, and for
the run from the step.
-/

namespace DeclaredSchema.Source.ByPlace

open Lexer

/-- A lexer at a place of a text. Nothing is read off the rest in its state. -/
structure Reader where
  place : Nat
  state : Lexer

namespace Reader

/-- The lexer before what stands from its place on. -/
def view (text : List Char) (r : Reader) : Lexer := { r.state with rest := text.drop r.place }

def blame (r : Reader) (cause : SyntaxError.Cause) : Checked (Except SyntaxError Reader) :=
  some (.error ⟨r.state.line, cause⟩)

end Reader

/-! ## The reader -/

/-- The width of the blanks from a place on, and the place behind them. -/
def indentationAt (text : List Char) (width place : Nat) : Nat × Nat :=
  match _h : text[place]? with
  | some c =>
    if c = ' ' then indentationAt text (width + 1) (place + 1)
    else if c = '\t' then indentationAt text ((width / tabSize + 1) * tabSize) (place + 1)
    else if c = '\x0c' then indentationAt text 0 (place + 1)
    else (width, place)
  | none => (width, place)
termination_by text.length - place
decreasing_by
  all_goals
    have := (List.getElem?_eq_some_iff.mp _h).1
    omega

/-- The place behind a comment. -/
def commentEnd (text : List Char) (place : Nat) : Nat := pastWhile (· != '\n') text place

/-- The place behind the digits, points and exponents of a number. A sign counts behind an `e`, for
which the place before is looked at. -/
def decimalEnd (text : List Char) (place : Nat) : Checked Nat :=
  match _h : text[place]? with
  | some c =>
    if c = '+' || c = '-' then do
      let before ← less? place 1
      if text[before]? = some 'e' || text[before]? = some 'E' then decimalEnd text (place + 1)
      else some place
    else if Text.isAsciiDigit c || c = '_' || c = '.' || c = 'e' || c = 'E' then
      decimalEnd text (place + 1)
    else some place
  | none => some place
termination_by text.length - place
decreasing_by
  all_goals
    have := (List.getElem?_eq_some_iff.mp _h).1
    omega

/-- The place behind a number. -/
def numberEnd (text : List Char) (first : Nat) : Checked Nat :=
  if text[first]? = some '0' && text[first + 1]?.any isRadixMark then
    some (pastWhile (fun d => Text.isHexDigit d || d = '_') text (first + 2))
  else do
    let last ← decimalEnd text first
    some (if text[last]? = some 'j' || text[last]? = some 'J' then last + 1 else last)

def readNumberAt (text : List Char) (r : Reader) : Checked (Except SyntaxError Reader) := do
  let last ← numberEnd text r.place
  let digits ← slice? text r.place last
  some (.ok ⟨last, r.state.push (.number (String.ofList digits)) r.state.line⟩)

/-- The value of a code of so many places from a place on, and the place behind it. -/
def hexEscapeAt (text : List Char) (mark : Char) (count place : Nat) :
    Checked (List Char × Nat) := do
  let last := min (place + count) text.length
  let code ← slice? text place last
  match codePoint? count code with
  | some c => some ([c], last)
  | none => some (['\\', mark], place)

/-- What a backslash and the character after it stand for, and the place behind. Only the marks of
codes look further. -/
def escapeAt (text : List Char) (raw : Bool) (next : Char) (place : Nat) :
    Checked (List Char × Nat) :=
  if raw then some (['\\', next], place)
  else if next = 'x' then hexEscapeAt text next 2 place
  else if next = 'u' then hexEscapeAt text next 4 place
  else if next = 'U' then hexEscapeAt text next 8 place
  else some ((escape next []).1, place)

/-- The value of a literal, the line ends in it and the place behind its closing quote. -/
structure PlacedBody where
  value : List Char
  lines : Nat
  place : Nat

namespace PlacedBody

def after (image : List Char) (crossed : Char) (b : PlacedBody) : PlacedBody :=
  { b with value := image ++ b.value, lines := b.lines + if crossed = '\n' then 1 else 0 }

end PlacedBody

/-- A literal from behind its opening quote on; without a value if it does not end. -/
def stringBodyAt (text : List Char) (quote : Char) (triple raw : Bool) :
    Nat → Nat → Checked (Option PlacedBody)
  | 0, _ => none
  | fuel + 1, place =>
    match text[place]? with
    | none => some none
    | some c =>
      if c = quote && !triple then some (some ⟨[], 0, place + 1⟩)
      else if c = quote && text[place + 1]? = some quote && text[place + 2]? = some quote then
        some (some ⟨[], 0, place + 3⟩)
      else if c = '\n' && !triple then some none
      else if c = '\\' then
        match text[place + 1]? with
        | none => some none
        | some next => do
          let (image, behind) ← escapeAt text raw next (place + 2)
          let body ← stringBodyAt text quote triple raw fuel behind
          some (body.map (·.after image next))
      else do
        let body ← stringBodyAt text quote triple raw fuel (place + 1)
        some (body.map (·.after [c] c))

/-- A string literal whose opening quote stands at a place. -/
def readStringAt (text : List Char) (r : Reader) (how : StringPrefix) (quote : Char) (place : Nat) :
    Checked (Except SyntaxError Reader) := do
  let triple := text[place + 1]? = some quote && text[place + 2]? = some quote
  let first := if triple then place + 3 else place + 1
  match ← stringBodyAt text quote triple how.raw (text.length + 1) first with
  | none => r.blame .unterminatedString
  | some b => some (.ok ⟨b.place, { r.state with
      line := r.state.line + b.lines
      done := pushString r.state.done b.value (!how.formatted && !how.bytes) r.state.line }⟩)

def readWordAt (text : List Char) (r : Reader) : Checked (Except SyntaxError Reader) := do
  let last := pastWhile isWordPart text r.place
  let word ← slice? text r.place last
  let plain : Checked (Except SyntaxError Reader) :=
    some (.ok ⟨last, r.state.push (.name (String.ofList word)) r.state.line⟩)
  match stringPrefix? word, text[last]? with
  | some how, some quote => if isQuote quote then readStringAt text r how quote last else plain
  | _, _ => plain

/-- A symbol is found among at most three characters from its place on. -/
def readSymbolAt (text : List Char) (r : Reader) (c : Char) :
    Checked (Except SyntaxError Reader) := do
  let front ← slice? text r.place (min (r.place + 3) text.length)
  match Symbol.atFront? front with
  | none => r.blame (.invalidCharacter c)
  | some symbol => some ((r.state.readSymbol c front.tail).map
      fun t => ⟨r.place + symbol.chars.length, t⟩)

/-- The place behind a backslash that joins two lines. -/
def joinedAt? (text : List Char) (place : Nat) : Option Nat :=
  if text[place + 1]? = some '\n' then some (place + 2)
  else if text[place + 1]? = some '\r' && text[place + 2]? = some '\n' then some (place + 3)
  else none

/-- What begins with `c`, which stands at the place of the reader. -/
def readOneAt (text : List Char) (r : Reader) (c : Char) : Checked (Except SyntaxError Reader) :=
  if c = ' ' || c = '\t' || c = '\x0c' || c = '\r' then some (.ok ⟨r.place + 1, r.state⟩)
  else if c = '#' then some (.ok ⟨commentEnd text r.place, r.state⟩)
  else if c = '\n' then some (.ok ⟨r.place + 1, r.state.endLine []⟩)
  else if Text.isAsciiDigit c || (c = '.' && text[r.place + 1]?.any Text.isAsciiDigit) then
    readNumberAt text r
  else if isWordStart c then readWordAt text r
  else if isQuote c then readStringAt text r ⟨false, false, false⟩ c r.place
  else match c, joinedAt? text r.place with
    | '\\', some place => some (.ok ⟨place, { r.state with line := r.state.line + 1 }⟩)
    | _, _ => readSymbolAt text r c

def readLineStartAt (text : List Char) (r : Reader) : Checked (Except SyntaxError Reader) :=
  let (width, place) := indentationAt text 0 r.place
  let begun : Lexer := { r.state with lineStart := false }
  let blank (behind : Nat) : Checked (Except SyntaxError Reader) :=
    some (.ok ⟨behind, { begun with line := begun.line + 1, lineStart := true }⟩)
  match text[place]? with
  | none => some (.ok ⟨place, begun⟩)
  | some c =>
    if c = '#' then some (.ok ⟨commentEnd text place, begun⟩)
    else if c = '\n' then blank (place + 1)
    else if c = '\r' && text[place + 1]? = some '\n' then blank (place + 2)
    else match begun.shiftBlocks width with
      | .error e => some (.error e)
      | .ok s => readOneAt text ⟨place, s⟩ c

def stepAt (text : List Char) (r : Reader) : Checked (Except SyntaxError Reader) :=
  if r.state.lineStart && r.state.brackets.isEmpty then readLineStartAt text r
  else match text[r.place]? with
    | none => some (.ok r)
    | some c => readOneAt text r c

/-- Steps up to the end of the text, at most so many of them. -/
def runAt (text : List Char) : Nat → Reader → Checked (Except SyntaxError Reader)
  | 0, _ => none
  | fuel + 1, r =>
    if r.place < text.length then do
      match ← stepAt text r with
      | .error e => some (.error e)
      | .ok next => runAt text fuel next
    else some (.ok r)

/-- The tokens of a text, read by its places. -/
def tokenizeAt (text : String) : Checked (Except SyntaxError (List Token)) := do
  let chars := text.toList
  let first := if chars[0]? = some '\ufeff' then 1 else 0
  match ← runAt chars (chars.length + 1) ⟨first, Lexer.start []⟩ with
  | .error e => some (.error e)
  | .ok r => some r.state.finish

/-! ## The same as the lexer -/

section Pieces

variable {text : List Char} {place : Nat} {c : Char} {rest : List Char}

theorem indentationAt_of_some (h : text[place]? = some c) (width : Nat) :
    indentationAt text width place =
      if c = ' ' then indentationAt text (width + 1) (place + 1)
      else if c = '\t' then indentationAt text ((width / tabSize + 1) * tabSize) (place + 1)
      else if c = '\x0c' then indentationAt text 0 (place + 1)
      else (width, place) := by
  rw [indentationAt]
  split
  · next d hd =>
    obtain rfl := Option.some.inj (hd.symm.trans h)
    rfl
  · next hd =>
    rw [h] at hd
    cases hd

theorem indentationAt_eq (width : Nat) (hrest : text.drop place = rest)
    (hplace : place ≤ text.length) :
    (indentationAt text width place).1 = (indentation width rest).1 ∧
      text.drop (indentationAt text width place).2 = (indentation width rest).2 ∧
      (indentationAt text width place).2 ≤ text.length := by
  induction rest generalizing place width with
  | nil =>
      have hnone : text[place]? = none := getElem?_of_drop_nil hrest
      have hat : indentationAt text width place = (width, place) := by
        rw [indentationAt]
        split
        · next hd =>
          rw [hnone] at hd
          cases hd
        · rfl
      rw [hat]
      exact ⟨rfl, hrest, hplace⟩
  | cons c rest ih =>
      have hnext : text.drop (place + 1) = rest := drop_succ_of_drop hrest
      have hlt : place + 1 ≤ text.length := lt_length_of_drop hrest
      rw [indentationAt_of_some (getElem?_of_drop hrest)]
      by_cases hblank : c = ' '
      · subst hblank
        exact ih (width + 1) hnext hlt
      by_cases htab : c = '\t'
      · subst htab
        exact ih _ hnext hlt
      by_cases hfeed : c = '\x0c'
      · subst hfeed
        exact ih 0 hnext hlt
      · rw [if_neg hblank, if_neg htab, if_neg hfeed, indentation.eq_4 _ _ (by simpa using hblank)
          (by simpa using htab) (by simpa using hfeed)]
        exact ⟨rfl, hrest, hplace⟩

theorem decimalEnd_of_some (h : text[place]? = some c) : decimalEnd text place =
    if c = '+' || c = '-' then do
      let before ← less? place 1
      if text[before]? = some 'e' || text[before]? = some 'E' then decimalEnd text (place + 1)
      else some place
    else if Text.isAsciiDigit c || c = '_' || c = '.' || c = 'e' || c = 'E' then
      decimalEnd text (place + 1)
    else some place := by
  rw [decimalEnd]
  split
  · next d hd =>
    obtain rfl := Option.some.inj (hd.symm.trans h)
    rfl
  · next hd =>
    rw [h] at hd
    cases hd

/-- Behind the first character of a number there always is a place before. -/
theorem decimalEnd_eq {last : Char} (hplace : 0 < place) (hlast : text[place - 1]? = some last)
    (hrest : text.drop place = rest) :
    decimalEnd text place = some (place + (decimalTail last rest).1.length) := by
  induction rest generalizing place last with
  | nil =>
      have hnone : text[place]? = none := getElem?_of_drop_nil hrest
      rw [decimalEnd]
      split
      · next hd =>
        rw [hnone] at hd
        cases hd
      · rfl
  | cons c rest ih =>
      have hc := getElem?_of_drop hrest
      have hmore := ih (Nat.succ_pos place) hc (drop_succ_of_drop hrest)
      rw [decimalEnd_of_some hc, less?_of_le hplace, decimalTail]
      simp only [Option.bind_eq_bind, Option.bind_some, hlast, Option.some.injEq]
      by_cases hsign : c = '+' ∨ c = '-'
      · have hplain :
            (Text.isAsciiDigit c || c = '_' || c = '.' || c = 'e' || c = 'E') = false := by
          rcases hsign with rfl | rfl <;> rfl
        by_cases hexponent : last = 'e' ∨ last = 'E'
        · simp [hsign, hexponent, hmore]
          omega
        · simp [hsign, hexponent, hplain]
      · by_cases hplain : (Text.isAsciiDigit c || c = '_' || c = '.' || c = 'e' || c = 'E') = true
        · simp [hsign, hplain, hmore]
          omega
        · simp [hsign, hplain]

end Pieces

section Numbers

variable {text : List Char} {place : Nat} {c : Char} {rest : List Char}

theorem length_imaginaryTail (cs : List Char) : (imaginaryTail cs).1.length =
    if cs.head? = some 'j' || cs.head? = some 'J' then 1 else 0 := by
  unfold imaginaryTail
  split
  · rfl
  · rfl
  · next hj hJ =>
    cases cs with
    | nil => rfl
    | cons d more =>
        have hd : d ≠ 'j' := fun h => hj more (h ▸ rfl)
        have hD : d ≠ 'J' := fun h => hJ more (h ▸ rfl)
        simp [hd, hD]

theorem numberEnd_decimal (hrest : text.drop place = c :: rest) (hc : startsNumber c rest = true)
    (hradix : (text[place]? = some '0' && text[place + 1]?.any isRadixMark) = false) :
    numberEnd text place = some (place + (decimal c rest).1.length) := by
  have hplain : (Text.isAsciiDigit c || c = '_' || c = '.' || c = 'e' || c = 'E') = true ∧
      ¬ (c = '+' ∨ c = '-') := by
    rw [startsNumber, Bool.or_eq_true] at hc
    rcases hc with hdigit | hpoint
    · refine ⟨by simp [hdigit], ?_⟩
      rintro (rfl | rfl) <;> cases hdigit
    · obtain rfl : c = '.' := by simpa using (Bool.and_eq_true_iff.mp hpoint).1
      exact ⟨rfl, by decide⟩
  have hnext : text.drop (place + 1) = rest := drop_succ_of_drop hrest
  have hbody : decimalEnd text place = some (place + 1 + (decimalTail c rest).1.length) := by
    rw [decimalEnd_of_some (getElem?_of_drop hrest), if_neg (by simpa using hplain.2),
      if_pos hplain.1]
    exact decimalEnd_eq (Nat.succ_pos place) (getElem?_of_drop hrest) hnext
  have htail : text.drop (place + 1 + (decimalTail c rest).1.length) = (decimalTail c rest).2 :=
    drop_add_of_drop (hnext.trans (decimalTail_append c rest).1)
  rw [numberEnd, hradix, if_neg (by simp), hbody]
  simp only [Option.bind_eq_bind, Option.bind_some, decimal]
  rw [← List.head?_drop, htail, List.length_append, List.length_cons, length_imaginaryTail]
  split
  · rw [Option.some.injEq]
    omega
  · rw [Option.some.injEq]
    omega

theorem numberEnd_eq (hrest : text.drop place = c :: rest) (hc : startsNumber c rest = true) :
    numberEnd text place = some (place + (number c rest).1.length) := by
  have hfirst : text[place]? = some c := getElem?_of_drop hrest
  have hnext : text.drop (place + 1) = rest := drop_succ_of_drop hrest
  unfold number
  split
  · next mark more =>
    have hmark : text[place + 1]? = some mark := getElem?_of_drop hnext
    split
    · next hradix =>
      have hbehind : text.drop (place + 2) = more := drop_succ_of_drop hnext
      rw [numberEnd, hfirst, hmark, if_pos (by simpa using hradix), pastWhile_eq, hbehind]
      simp only [List.length_cons, Option.some.injEq]
      omega
    · next hradix =>
      exact numberEnd_decimal hrest hc (by simpa [hfirst, hmark] using hradix)
  · have hmark : text[place + 1]? = none := getElem?_of_drop_nil hnext
    exact numberEnd_decimal hrest hc (by simp [hmark])

end Numbers

/-! ### Literals -/

section Literals

variable {text : List Char} {place : Nat} {cs : List Char}

theorem drop_min (xs : List Char) (n : Nat) : xs.drop (min n xs.length) = xs.drop n := by
  rcases Nat.le_total n xs.length with h | h
  · rw [Nat.min_eq_left h]
  · rw [Nat.min_eq_right h, List.drop_length, List.drop_eq_nil_of_le h]

/-- At most so many items from a place on. -/
theorem slice?_min (hplace : place ≤ text.length) (count : Nat) :
    slice? text place (min (place + count) text.length) =
      some ((text.drop place).take count) := by
  rw [slice?_of_le (by omega) (Nat.min_le_right _ _), List.drop_take]
  congr 1
  rcases Nat.le_total (place + count) text.length with h | h
  · rw [Nat.min_eq_left h, Nat.add_sub_cancel_left]
  · rw [Nat.min_eq_right h, List.take_of_length_le (by simp), List.take_of_length_le]
    rw [List.length_drop]
    omega

theorem codePoint?_take (count : Nat) (cs : List Char) :
    codePoint? count (cs.take count) = codePoint? count cs := by
  simp only [codePoint?, List.take_take, Nat.min_self]

theorem hexEscapeAt_eq (mark : Char) (count : Nat) (hplace : place ≤ text.length)
    (hrest : text.drop place = cs) :
    ∃ image behind, hexEscapeAt text mark count place = some (image, behind) ∧
      (image, text.drop behind) = hexEscape mark count cs ∧
      place ≤ behind ∧ behind ≤ text.length := by
  have hcode := slice?_min hplace count
  rw [hrest] at hcode
  simp only [hexEscapeAt, hcode, hexEscape, Option.bind_eq_bind, Option.bind_some,
    codePoint?_take]
  cases codePoint? count cs with
  | none => exact ⟨_, _, rfl, by rw [hrest], Nat.le_refl _, hplace⟩
  | some c =>
      refine ⟨_, _, rfl, ?_, by omega, Nat.min_le_right _ _⟩
      rw [drop_min, ← List.drop_drop, hrest]

theorem escapeAt_eq (raw : Bool) (next : Char) (hplace : place ≤ text.length)
    (hrest : text.drop place = cs) :
    ∃ image behind, escapeAt text raw next place = some (image, behind) ∧
      (image, text.drop behind) = escapeOrRaw raw next cs ∧
      place ≤ behind ∧ behind ≤ text.length := by
  unfold escapeAt escapeOrRaw
  cases raw with
  | true => exact ⟨_, _, rfl, by rw [hrest]; rfl, Nat.le_refl _, hplace⟩
  | false =>
      by_cases hx : next = 'x'
      · subst hx
        exact hexEscapeAt_eq 'x' 2 hplace hrest
      by_cases hu : next = 'u'
      · subst hu
        exact hexEscapeAt_eq 'u' 4 hplace hrest
      by_cases hU : next = 'U'
      · subst hU
        exact hexEscapeAt_eq 'U' 8 hplace hrest
      · refine ⟨(escape next []).1, place, by simp [hx, hu, hU], ?_, Nat.le_refl _, hplace⟩
        rw [hrest, if_neg (by simp)]
        simp only [escape, if_neg hx, if_neg hu, if_neg hU]
        repeat' split
        all_goals rfl

theorem closing?_cons (quote : Char) (triple : Bool) (c : Char) (cs : List Char) :
    closing? quote triple (c :: cs) =
      if c = quote && !triple then some cs
      else if c = quote && cs[0]? = some quote && cs[1]? = some quote then some (cs.drop 2)
      else none := by
  rcases cs with _ | ⟨a, _ | ⟨b, more⟩⟩ <;> cases triple <;> by_cases hc : c = quote <;>
    simp [closing?, hc]

namespace PlacedBody

/-- The same body, with what stands behind it. -/
def view (text : List Char) (b : PlacedBody) : StringBody := ⟨b.value, b.lines, text.drop b.place⟩

/-- More in front of a body leaves its place. -/
theorem map_after {body : Option PlacedBody} {body' : Option StringBody}
    (hview : body.map (·.view text) = body') (hbounds : ∀ b ∈ body, b.place ≤ text.length)
    (image : List Char) (c : Char) :
    (body.map (·.after image c)).map (·.view text) = body'.map (·.after image c) ∧
      ∀ b ∈ body.map (·.after image c), b.place ≤ text.length := by
  subst hview
  constructor
  · rw [Option.map_map, Option.map_map]
    rfl
  · intro b hb
    obtain ⟨inner, hinner, rfl⟩ := Option.map_eq_some_iff.mp hb
    exact hbounds inner hinner

end PlacedBody

/-- By induction on the number of steps: every step goes on to a later place. -/
theorem stringBodyAt_eq (quote : Char) (triple raw : Bool) {fuel : Nat}
    (hplace : place ≤ text.length) (enough : text.length - place < fuel)
    (hrest : text.drop place = cs) :
    ∃ body, stringBodyAt text quote triple raw fuel place = some body ∧
      body.map (·.view text) = stringBody? quote triple raw cs ∧
      ∀ b ∈ body, b.place ≤ text.length := by
  induction fuel generalizing place cs with
  | zero => omega
  | succ fuel ih =>
      cases cs with
      | nil =>
          have hnone : text[place]? = none := getElem?_of_drop_nil hrest
          refine ⟨none, by rw [stringBodyAt, hnone], ?_, nofun⟩
          rw [stringBody?.eq_def]
          rfl
      | cons c cs =>
          have hc : text[place]? = some c := getElem?_of_drop hrest
          have hnext : text.drop (place + 1) = cs := drop_succ_of_drop hrest
          have hlt : place < text.length := lt_length_of_drop hrest
          have hfirst : text[place + 1]? = cs[0]? := getElem?_add_of_drop hnext 0
          have hsecond : text[place + 2]? = cs[1]? := getElem?_add_of_drop hnext 1
          have hclose := closing?_cons quote triple c cs
          rw [stringBodyAt, hc, hfirst, hsecond]
          dsimp only
          split
          · next hends =>
            rw [if_pos hends] at hclose
            refine ⟨_, rfl, ?_, by simpa using Nat.succ_le_of_lt hlt⟩
            rw [stringBody?_of_closing? hclose, Option.map_some, PlacedBody.view, hnext]
          next hopen =>
          rw [if_neg hopen] at hclose
          split
          · next hends =>
            rw [if_pos hends] at hclose
            have hmarks : 2 ≤ cs.length := by
              have hsome : cs[1]? = some quote := by
                simpa using (Bool.and_eq_true_iff.mp hends).2
              exact (List.getElem?_eq_some_iff.mp hsome).1
            refine ⟨_, rfl, ?_, ?_⟩
            · rw [stringBody?_of_closing? hclose, Option.map_some, PlacedBody.view, ← hnext,
                List.drop_drop]
            · have hlength : cs.length = text.length - (place + 1) := by
                rw [← hnext, List.length_drop]
              simp
              omega
          next hopen =>
          rw [if_neg hopen] at hclose
          by_cases hslash : c = '\\'
          · subst hslash
            rw [if_neg (by simp), if_pos rfl]
            cases cs with
            | nil =>
                refine ⟨none, rfl, ?_, nofun⟩
                rw [stringBody?.eq_def, hclose]
                rfl
            | cons next more =>
                have hmore : text.drop (place + 2) = more := drop_succ_of_drop hnext
                have hlt := lt_length_of_drop hnext
                obtain ⟨image, behind, hescape, himage, hle, hbehind⟩ :=
                  escapeAt_eq raw next hlt hmore
                obtain ⟨body, hbody, hview, hbounds⟩ := ih hbehind (by omega) rfl
                rw [stringBody?_backslash hclose, ← himage]
                exact ⟨body.map (·.after image next), by simp [hescape, hbody],
                  PlacedBody.map_after hview hbounds image next⟩
          · rw [stringBody?_char hclose hslash]
            split
            · exact ⟨none, rfl, rfl, nofun⟩
            · obtain ⟨body, hbody, hview, hbounds⟩ := ih hlt (by omega) hnext
              exact ⟨body.map (·.after [c] c), by simp [hbody],
                PlacedBody.map_after hview hbounds [c] c⟩

end Literals

/-! ### Steps -/

/-- The reader goes on as the lexer does and stays within the text. -/
def Follows (text : List Char) (x : Checked (Except SyntaxError Reader))
    (y : Except SyntaxError Lexer) : Prop :=
  ∃ outcome, x = some outcome ∧ outcome.map (Reader.view text) = y ∧
    ∀ r, outcome = .ok r → r.place ≤ text.length

section Steps

variable {text : List Char} {r : Reader} {s : Lexer} {c : Char} {rest : List Char}

theorem Follows.ok (hview : r.view text = s) (hplace : r.place ≤ text.length) :
    Follows text (some (.ok r)) (.ok s) :=
  ⟨.ok r, rfl, congrArg Except.ok hview, fun _ h => Except.ok.inj h ▸ hplace⟩

theorem Follows.error (e : SyntaxError) : Follows text (some (.error e)) (.error e) :=
  ⟨.error e, rfl, rfl, nofun⟩

/-- A reader and the lexer that it shows differ in the rest only. -/
theorem view_eq (h : text.drop r.place = rest) : r.view text = { r.state with rest := rest } := by
  rw [Reader.view, h]

theorem follows_number (hrest : text.drop r.place = c :: rest)
    (hc : startsNumber c rest = true) : Follows text (readNumberAt text r)
      (.ok { (r.view text).push (.number (String.ofList (number c rest).1)) (r.view text).line with
        rest := (number c rest).2 }) := by
  have hne : c ≠ '\n' := by
    rintro rfl
    simp [startsNumber, Text.isAsciiDigit] at hc
  have hlt : r.place < text.length := lt_length_of_drop hrest
  have happend := hrest.trans (number_append hne rest).1
  have hslice := slice?_of_drop happend rfl (Nat.le_of_lt hlt)
  have hlength := congrArg List.length happend
  rw [List.length_drop, List.length_append] at hlength
  rw [readNumberAt, numberEnd_eq hrest hc]
  simp only [Option.bind_eq_bind, Option.bind_some, hslice]
  exact .ok (view_eq (drop_add_of_drop happend)) (by dsimp only; omega)

theorem follows_string (how : StringPrefix) (quote : Char) {place : Nat}
    (hrest : text.drop place = quote :: rest) :
    Follows text (readStringAt text r how quote place)
      ((r.view text).readString how quote rest) := by
  have hnext : text.drop (place + 1) = rest := drop_succ_of_drop hrest
  have hlt : place < text.length := lt_length_of_drop hrest
  have htriple : (text[place + 1]? = some quote && text[place + 2]? = some quote) =
      isTriple quote rest := by
    rw [getElem?_add_of_drop hnext 0, getElem?_add_of_drop hnext 1]
    rcases rest with _ | ⟨a, _ | ⟨b, more⟩⟩ <;>
      simp [isTriple, List.isPrefixOf, eq_comm, Bool.beq_eq_decide_eq]
  have hbody : ∃ first, (if isTriple quote rest then place + 3 else place + 1) = first ∧
      first ≤ text.length ∧ text.drop first = bodyBehind quote rest := by
    refine ⟨_, rfl, ?_⟩
    unfold bodyBehind
    split
    · next h =>
      have hlength : 2 ≤ rest.length :=
        (List.isPrefixOf_iff_prefix.mp h).length_le
      rw [← hnext, List.length_drop] at hlength
      exact ⟨by omega, by rw [← hnext, List.drop_drop]⟩
    · exact ⟨hlt, hnext⟩
  obtain ⟨first, hfirst, hplace, hbehind⟩ := hbody
  obtain ⟨body, hread, hview, hbounds⟩ := stringBodyAt_eq quote (isTriple quote rest) how.raw
    hplace (Nat.lt_succ_of_le (Nat.sub_le text.length first)) hbehind
  rw [readString_eq, ← hview, readStringAt]
  simp only [htriple, hfirst, hread, Option.bind_eq_bind, Option.bind_some]
  cases body with
  | none => exact .error _
  | some b => exact .ok rfl (hbounds b rfl)

theorem follows_word (hrest : text.drop r.place = c :: rest) :
    Follows text (readWordAt text r) ((r.view text).readWord (c :: rest)) := by
  obtain ⟨hslice, hbehind, -, hlast⟩ :=
    slice?_pastWhile isWordPart hrest (Nat.le_of_lt (lt_length_of_drop hrest))
  rw [readWordAt]
  simp only [Option.bind_eq_bind, Option.bind_some, hslice, readWord]
  have plain : Follows text (some (.ok (Reader.mk _ _))) (.ok _) :=
    .ok (r := ⟨pastWhile isWordPart text r.place,
      r.state.push (.name (String.ofList ((c :: rest).takeWhile isWordPart))) r.state.line⟩)
      (view_eq hbehind) hlast
  rw [← List.head?_drop, hbehind]
  cases stringPrefix? ((c :: rest).takeWhile isWordPart) with
  | none => exact plain
  | some how =>
      cases hmore : (c :: rest).dropWhile isWordPart with
      | nil =>
          rw [hmore] at plain
          exact plain
      | cons quote more =>
          rw [hmore] at plain
          dsimp only [List.head?_cons]
          split
          · exact follows_string how quote (hbehind.trans hmore)
          · exact plain

theorem length_chars_le (symbol : Symbol) : symbol.chars.length ≤ 3 := by
  cases symbol <;> decide

/-- No symbol is longer than three characters. -/
theorem atFront?_take (cs : List Char) : Symbol.atFront? (cs.take 3) = Symbol.atFront? cs := by
  have hprefix (symbol : Symbol) :
      symbol.chars.isPrefixOf (cs.take 3) = symbol.chars.isPrefixOf cs := by
    rw [Bool.eq_iff_iff, List.isPrefixOf_iff_prefix, List.isPrefixOf_iff_prefix,
      List.prefix_take_iff]
    exact and_iff_left (length_chars_le symbol)
  simp only [Symbol.atFront?, hprefix]

/-- What a symbol does to the lexer is told by the symbol alone. -/
theorem readSymbol_rest {symbol : Symbol} {cs ds : List Char} (s : Lexer)
    (hfront : Symbol.atFront? (c :: cs) = some symbol)
    (hother : Symbol.atFront? (c :: ds) = some symbol) (behind : List Char) :
    ({ s with rest := behind } : Lexer).readSymbol c cs =
      (s.readSymbol c ds).map fun t => { t with rest := (c :: cs).drop symbol.chars.length } := by
  unfold readSymbol
  rw [hfront, hother]
  dsimp only
  cases symbol.opens? with
  | some b => rfl
  | none =>
      cases symbol.closes? with
      | none => rfl
      | some b =>
          cases s.brackets with
          | nil => rfl
          | cons opened outer =>
              dsimp only
              split <;> rfl

theorem follows_symbol (hrest : text.drop r.place = c :: rest) :
    Follows text (readSymbolAt text r c) ((r.view text).readSymbol c rest) := by
  have hlt : r.place < text.length := lt_length_of_drop hrest
  have hfront := slice?_min (Nat.le_of_lt hlt) 3
  rw [hrest] at hfront
  rw [readSymbolAt]
  simp only [Option.bind_eq_bind, Option.bind_some, hfront]
  rw [atFront?_take]
  cases hsymbol : Symbol.atFront? (c :: rest) with
  | none =>
      have hread : (r.view text).readSymbol c rest =
          .error ⟨r.state.line, .invalidCharacter c⟩ := by
        unfold readSymbol
        rw [hsymbol]
        rfl
      rw [hread]
      exact .error _
  | some symbol =>
      have hother : Symbol.atFront? (c :: rest.take 2) = some symbol := by
        rw [← hsymbol, ← atFront?_take (c :: rest), List.take_succ_cons]
      have hlength := (prefix_of_atFront? hsymbol).length_le
      rw [← hrest, List.length_drop] at hlength
      have hbehind : text.drop (r.place + symbol.chars.length) =
          (c :: rest).drop symbol.chars.length := by rw [← List.drop_drop, hrest]
      refine ⟨_, rfl, ?_, ?_⟩
      · rw [view_eq hrest, readSymbol_rest r.state hsymbol hother, List.take_succ_cons,
          List.tail_cons]
        cases r.state.readSymbol c (rest.take 2) with
        | error e => rfl
        | ok t => exact congrArg Except.ok (view_eq hbehind)
      · intro next hnext
        cases hread : r.state.readSymbol c ((c :: rest).take 3).tail with
        | error e =>
            rw [hread] at hnext
            cases hnext
        | ok t =>
            rw [hread] at hnext
            cases hnext
            dsimp only
            omega

/-- A backslash that joins two lines joins them in both readings. -/
theorem joinedAt?_eq {place : Nat} (hnext : text.drop (place + 1) = rest) :
    (joinedAt? text place).map text.drop = joined? rest ∧
      ∀ behind ∈ joinedAt? text place, behind ≤ text.length := by
  have hlength : text.length - (place + 1) = rest.length := by rw [← hnext, List.length_drop]
  rw [joinedAt?, getElem?_add_of_drop hnext 0, getElem?_add_of_drop hnext 1]
  have htwo : text.drop (place + 2) = rest.drop 1 := by rw [← hnext, List.drop_drop]
  have hthree : text.drop (place + 3) = rest.drop 2 := by rw [← hnext, List.drop_drop]
  rcases rest with _ | ⟨a, more⟩
  · exact ⟨rfl, nofun⟩
  rw [List.length_cons] at hlength
  by_cases hline : a = '\n'
  · subst hline
    refine ⟨congrArg some htwo, ?_⟩
    rintro behind ⟨⟩
    omega
  rcases more with _ | ⟨b, more⟩
  · simp [joined?, hline]
  by_cases hreturn : a = '\r' ∧ b = '\n'
  · obtain ⟨rfl, rfl⟩ := hreturn
    refine ⟨congrArg some hthree, ?_⟩
    rintro behind ⟨⟩
    rw [List.length_cons] at hlength
    omega
  · have hnone : joined? (a :: b :: more) = none := by
      unfold joined?
      grind
    have hboth : (a = '\r' && b = '\n') = false := by simpa using hreturn
    simp [hnone, hline, hboth]

theorem view_endLine (hrest : text.drop (r.place + 1) = rest) :
    (Reader.mk (r.place + 1) (r.state.endLine [])).view text = (r.view text).endLine rest := by
  have hempty : (r.view text).lineIsEmpty = r.state.lineIsEmpty := rfl
  have hbrackets : (r.view text).brackets = r.state.brackets := rfl
  rw [view_eq hrest, endLine, endLine, hempty, hbrackets]
  cases r.state.brackets.isEmpty && !r.state.lineIsEmpty <;> rfl

theorem commentEnd_eq {place : Nat} (hrest : text.drop place = '#' :: rest) :
    text.drop (commentEnd text place) = skipComment rest ∧ commentEnd text place ≤ text.length := by
  obtain ⟨-, hbehind, -, hlast⟩ :=
    slice?_pastWhile (· != '\n') hrest (Nat.le_of_lt (lt_length_of_drop hrest))
  exact ⟨hbehind, hlast⟩

theorem follows_readOne (hrest : text.drop r.place = c :: rest) :
    Follows text (readOneAt text r c) ((r.view text).readOne c rest) := by
  have hnext : text.drop (r.place + 1) = rest := drop_succ_of_drop hrest
  have hlt : r.place < text.length := lt_length_of_drop hrest
  have hnumber : (Text.isAsciiDigit c || (c = '.' && text[r.place + 1]?.any Text.isAsciiDigit)) =
      startsNumber c rest := by rw [startsNumber, ← List.head?_drop, hnext]
  unfold readOneAt readOne
  rw [hnumber]
  split
  · exact .ok (view_eq hnext) hlt
  split
  · next hcomment =>
    subst hcomment
    exact .ok (view_eq (commentEnd_eq hrest).1) (commentEnd_eq hrest).2
  split
  · exact .ok (view_endLine hnext) hlt
  split
  · next hstarts => exact follows_number hrest hstarts
  split
  · exact follows_word hrest
  split
  · exact follows_string _ c hrest
  obtain ⟨hjoined, hbound⟩ := joinedAt?_eq hnext
  have hsymbol := follows_symbol hrest
  rw [← hjoined]
  by_cases hslash : c = '\\'
  · subst hslash
    cases hplace : joinedAt? text r.place with
    | none => exact hsymbol
    | some place => exact .ok rfl (hbound place hplace)
  · split
    · exact absurd rfl hslash
    · split
      · exact absurd rfl hslash
      · exact hsymbol

/-! ### Whole texts -/

theorem shiftBlocks_rest (s : Lexer) (width : Nat) (rest : List Char) :
    ({ s with rest } : Lexer).shiftBlocks width =
      (s.shiftBlocks width).map fun t => { t with rest } := by
  unfold shiftBlocks
  dsimp only
  split
  · rfl
  split
  · split <;> rfl
  · rfl

theorem follows_shiftBlocks {place : Nat} (hrest : text.drop place = c :: rest) (width : Nat) :
    Follows text
      (match s.shiftBlocks width with
        | .error e => some (.error e)
        | .ok s => readOneAt text ⟨place, s⟩ c)
      (match ({ s with rest := c :: rest } : Lexer).shiftBlocks width with
        | .error e => .error e
        | .ok s => s.readOne c rest) := by
  rw [shiftBlocks_rest s width (c :: rest)]
  cases s.shiftBlocks width with
  | error e => exact .error e
  | ok s =>
      have hread := follows_readOne (r := ⟨place, s⟩) hrest
      rw [view_eq hrest] at hread
      exact hread

theorem follows_readLineStart (hplace : r.place ≤ text.length) :
    Follows text (readLineStartAt text r) (r.view text).readLineStart := by
  obtain ⟨hwidth, hbehind, hbound⟩ := indentationAt_eq 0 rfl hplace
  rw [readLineStartAt]
  generalize indentationAt text 0 r.place = indent at hwidth hbehind hbound ⊢
  obtain ⟨width, place⟩ := indent
  dsimp only at hwidth hbehind hbound ⊢
  have hpair : indentation 0 (r.view text).rest = (width, text.drop place) :=
    Prod.ext hwidth.symm hbehind.symm
  cases hrest : text.drop place with
  | nil =>
      rw [hrest] at hpair
      rw [← List.head?_drop, hrest, readLineStart_nil hpair]
      exact .ok (view_eq hrest) hbound
  | cons c more =>
      rw [hrest] at hpair
      have hnext : text.drop (place + 1) = more := drop_succ_of_drop hrest
      have hlt : place < text.length := lt_length_of_drop hrest
      rw [getElem?_of_drop hrest, getElem?_add_of_drop hnext 0]
      dsimp only
      by_cases hcomment : c = '#'
      · subst hcomment
        rw [readLineStart_comment hpair]
        exact .ok (view_eq (commentEnd_eq hrest).1) (commentEnd_eq hrest).2
      by_cases hline : c = '\n'
      · subst hline
        rw [readLineStart_lineFeed hpair]
        exact .ok (view_eq hnext) hlt
      rw [if_neg hcomment, if_neg hline]
      by_cases hreturn : c = '\r' ∧ more.head? = some '\n'
      · obtain ⟨rfl, hsecond⟩ := hreturn
        obtain ⟨behind, rfl⟩ := List.head?_eq_some_iff.mp hsecond
        rw [readLineStart_crlf hpair]
        exact .ok (view_eq (drop_succ_of_drop hnext)) (lt_length_of_drop hnext)
      · rw [readLineStart_of_ne hpair hcomment hline hreturn, if_neg]
        · exact follows_shiftBlocks hrest width
        · simpa [List.head?_eq_getElem?] using hreturn

theorem follows_step (hplace : r.place ≤ text.length) :
    Follows text (stepAt text r) (r.view text).step := by
  unfold stepAt step
  have hstart : (r.view text).lineStart = r.state.lineStart := rfl
  have hbrackets : (r.view text).brackets = r.state.brackets := rfl
  rw [hstart, hbrackets]
  split
  · exact follows_readLineStart hplace
  · cases hrest : text.drop r.place with
    | nil =>
        rw [getElem?_of_drop_nil hrest, view_eq hrest]
        exact .ok (view_eq hrest) hplace
    | cons c rest =>
        have hread := follows_readOne hrest
        rw [getElem?_of_drop hrest]
        rw [view_eq hrest] at hread ⊢
        exact hread

/-- By induction on the number of steps: a step that succeeds leaves less of the text. -/
theorem follows_run {fuel : Nat} (hplace : r.place ≤ text.length)
    (enough : text.length - r.place < fuel) :
    Follows text (runAt text fuel r) (r.view text).run := by
  induction fuel generalizing r with
  | zero => omega
  | succ fuel ih =>
      rw [runAt, run]
      by_cases hend : r.place < text.length
      · have hne : (r.view text).rest ≠ [] := by
          rw [Reader.view, ne_eq, List.drop_eq_nil_iff]
          omega
        obtain ⟨outcome, hstep, hview, hbound⟩ := follows_step hplace
        rw [if_pos hend, dif_neg hne, hstep]
        cases outcome with
        | error e =>
            have herror : (r.view text).step = .error e := hview.symm
            split
            · next hother =>
              cases herror.symm.trans hother
              exact .error e
            · next hother => cases herror.symm.trans hother
        | ok next =>
            have hok : (r.view text).step = .ok (next.view text) := hview.symm
            have hless := length_step_lt hok hne
            rw [Reader.view, Reader.view, List.length_drop, List.length_drop] at hless
            split
            · next hother => cases hok.symm.trans hother
            · next hother =>
              cases hok.symm.trans hother
              exact ih (hbound next rfl) (by omega)
      · have hnil : (r.view text).rest = [] := List.drop_eq_nil_of_le (Nat.le_of_not_lt hend)
        rw [if_neg hend, dif_pos hnil]
        exact .ok rfl hplace

end Steps

theorem view_start (chars : List Char) :
    (Reader.mk (if chars[0]? = some '\ufeff' then 1 else 0) (Lexer.start [])).view chars =
      Lexer.start chars := by
  cases chars with
  | nil => rfl
  | cons c rest =>
      by_cases hmark : c = '\ufeff'
      · subst hmark
        rfl
      · simp [Reader.view, Lexer.start, hmark]

theorem finish_rest (s : Lexer) (rest : List Char) :
    ({ s with rest } : Lexer).finish = s.finish := by
  have hempty : ({ s with rest } : Lexer).lineIsEmpty = s.lineIsEmpty := rfl
  unfold finish
  rw [hempty]
  cases s.brackets with
  | cons opened outer => rfl
  | nil => cases hline : s.lineIsEmpty <;> rfl

/-- Of every text the tokens are read without a look, a slice or a difference that fails. -/
theorem tokenizeAt_eq (text : String) : tokenizeAt text = some (tokenize text) := by
  have hplace : (if text.toList[0]? = some '\ufeff' then 1 else 0) ≤ text.toList.length := by
    cases text.toList with
    | nil => exact Nat.le_refl 0
    | cons c rest =>
        rw [List.length_cons]
        split <;> omega
  obtain ⟨outcome, hrun, hview, -⟩ :=
    follows_run (r := ⟨if text.toList[0]? = some '\ufeff' then 1 else 0, Lexer.start []⟩) hplace
      (Nat.lt_succ_of_le (Nat.sub_le text.toList.length _))
  rw [view_start] at hview
  rw [tokenizeAt, tokenize, ← hview, hrun]
  cases outcome with
  | error e => rfl
  | ok r => exact congrArg some (finish_rest r.state (text.toList.drop r.place)).symm

end DeclaredSchema.Source.ByPlace
