import DeclaredSchema.Proofs.Source.StringValues
import DeclaredSchema.Proofs.Source.LexerMoves

/-! # String literals as they are written

A literal is its letters, its quotes and a body that the quotes end (`StringLiteral`). Literals with
nothing between them but what the lexer passes over (`Gap`) are one token, whose value is the values
of their bodies in a row (`literals_value_iff`). The value is the one that hexadecimal codes give
exactly if no code among them has a plus sign in its first place.
-/

namespace DeclaredSchema.Source

open Lexer

/-! ## Bodies and their ends -/

/-- The body of a literal up to the first marks that close it. A backslash takes the character
behind it along; nowhere else do the marks begin, and a line ends only where it may. -/
inductive Enclosed (marks : List Char) (multiline : Bool) : List Char → Prop
  | nil : Enclosed marks multiline []
  | escape (next : Char) {body : List Char} (rest : Enclosed marks multiline body) :
      Enclosed marks multiline ('\\' :: next :: body)
  | char {c : Char} {body : List Char} (plain : c ≠ '\\') (line : c = '\n' → multiline = true)
      (unclosed : ¬ marks <+: c :: (body ++ marks)) (rest : Enclosed marks multiline body) :
      Enclosed marks multiline (c :: body)

namespace Enclosed

variable {marks body : List Char} {multiline : Bool}

theorem of_append {front : List Char} (plain : ∀ c ∈ front, c ≠ '\\')
    (h : Enclosed marks multiline (front ++ body)) : Enclosed marks multiline body := by
  induction front with
  | nil => exact h
  | cons c front ih =>
      obtain ⟨hc, hfront⟩ := List.forall_mem_cons.mp plain
      rw [List.cons_append] at h
      generalize hcs : front ++ body = cs at h
      cases h with
      | escape => exact absurd rfl hc
      | char _ _ _ rest => exact ih hfront (hcs ▸ rest)

/-- What an escape leaves of a body is a body again. -/
theorem behind_escape {Code : Nat → List Char → Char → Prop} (isCode : IsCode Code)
    {next : Char}
    {image behind : List Char} (h : Enclosed marks multiline body)
    (escape : Escape Code next body image behind) : Enclosed marks multiline behind := by
  obtain ⟨code, rfl, hcode⟩ := escape.exists_code isCode
  exact h.of_append (not_backslash hcode)

/-- Every body stands for something. -/
theorem exists_decodes {Code : Nat → List Char → Char → Prop} (isCode : IsCode Code)
    (h : Enclosed marks multiline body) : ∃ value, Decodes Code body value := by
  induction hlength : body.length using Nat.strongRecOn generalizing body with
  | _ n ih =>
  cases h with
  | nil => exact ⟨[], .nil⟩
  | @char c body plain _ _ rest =>
      obtain ⟨value, hvalue⟩ := ih body.length (by simp [← hlength]) rest rfl
      exact ⟨c :: value, .char plain hvalue⟩
  | @escape next body rest =>
      obtain ⟨image, behind, escape⟩ := Escape.total Code next body
      obtain ⟨code, hbody, -⟩ := escape.exists_code isCode
      have hshorter : behind.length < n := by
        have := congrArg List.length hbody
        simp only [List.length_append, List.length_cons] at this hlength
        omega
      obtain ⟨value, hvalue⟩ := ih _ hshorter (rest.behind_escape isCode escape) rfl
      exact ⟨image ++ value, .escape escape hvalue⟩

end Enclosed

namespace Lexer

section Bodies

variable {quote next : Char} {triple : Bool} {body image behind value : List Char}

/-- No code of an escape goes on behind its body. -/
theorem codePoint?_append {count : Nat} (hcount : 0 < count) {c d : Char} (hplus : d ≠ '+')
    (hhex : Text.isHexDigit d = false) (more : List Char) :
    codePoint? count (body ++ d :: more) = some c ↔ LaxCode count (body.take count) c := by
  by_cases hle : count ≤ body.length
  · rw [codePoint?_eq_some hcount, List.take_append_of_le_length hle]
  · have hmem : d ∈ (body ++ d :: more).take count := by
      rw [List.take_append, List.mem_append]
      refine .inr ?_
      obtain ⟨n, hn⟩ : ∃ n, count - body.length = n + 1 :=
        ⟨count - body.length - 1, by omega⟩
      rw [hn]
      exact List.mem_cons_self
    rw [codePoint?_of_mem hmem hplus hhex]
    simp only [reduceCtorEq, false_iff]
    intro h
    have := h.length
    rw [List.length_take] at this
    omega

theorem hexEscape_of_code {count : Nat} {c : Char} {cs : List Char} (mark : Char)
    (h : codePoint? count cs = some c) : hexEscape mark count cs = ([c], cs.drop count) := by
  rw [hexEscape, h]

theorem hexEscape_of_none {count : Nat} {cs : List Char} (mark : Char)
    (h : codePoint? count cs = none) : hexEscape mark count cs = (['\\', mark], cs) := by
  rw [hexEscape, h]

theorem escape_of_mark {count : Nat} (known : (next, count) ∈ codeMarks) (cs : List Char) :
    0 < count ∧ escape next cs = hexEscape next count cs := by
  simp only [codeMarks, List.mem_cons, Prod.mk.injEq, List.not_mem_nil, or_false] at known
  rcases known with ⟨rfl, rfl⟩ | ⟨rfl, rfl⟩ | ⟨rfl, rfl⟩ <;> exact ⟨by decide, rfl⟩

theorem escape_of_unknown (line : next ≠ '\n') (short : ∀ image, (next, image) ∉ shortEscapes)
    (mark : ∀ count, (next, count) ∉ codeMarks) (cs : List Char) :
    escape next cs = (['\\', next], cs) := by
  have hshort (p : Char × Char) (hp : p ∈ shortEscapes) : next ≠ p.1 := by
    rintro rfl
    exact short p.2 hp
  have hmark (p : Char × Nat) (hp : p ∈ codeMarks) : next ≠ p.1 := by
    rintro rfl
    exact mark p.2 hp
  simp only [shortEscapes, codeMarks, List.forall_mem_cons] at hshort hmark
  simp [escape, line, hshort, hmark]

/-- The lexer takes an escape for what it stands for. -/
theorem escape_eq (h : Escape LaxCode next body image behind) {d : Char} (hplus : d ≠ '+')
    (hhex : Text.isHexDigit d = false) (more : List Char) :
    escape next (body ++ d :: more) = (image, behind ++ d :: more) := by
  cases h with
  | lineEnd line =>
      rw [line]
      rfl
  | short known =>
      simp only [shortEscapes, List.mem_cons, Prod.mk.injEq, List.not_mem_nil, or_false] at known
      rcases known with ⟨rfl, rfl⟩ | ⟨rfl, rfl⟩ | ⟨rfl, rfl⟩ | ⟨rfl, rfl⟩ | ⟨rfl, rfl⟩ |
        ⟨rfl, rfl⟩ | ⟨rfl, rfl⟩ <;> rfl
  | @code count c known code =>
      obtain ⟨hcount, hescape⟩ := escape_of_mark known (body ++ d :: more)
      have hle : count ≤ body.length := by
        have := code.length
        rw [List.length_take] at this
        omega
      rw [hescape, hexEscape_of_code next ((codePoint?_append hcount hplus hhex more).mpr code),
        List.drop_append_of_le_length hle]
  | other line short none =>
      by_cases hmark : ∃ count, (next, count) ∈ codeMarks
      · obtain ⟨count, known⟩ := hmark
        obtain ⟨hcount, hescape⟩ := escape_of_mark known (body ++ d :: more)
        rw [hescape, hexEscape_of_none]
        rw [Option.eq_none_iff_forall_ne_some]
        intro c hc
        exact none count c known ((codePoint?_append hcount hplus hhex more).mp hc)
      · exact escape_of_unknown line short (not_exists.mp hmark) _

theorem closingMarks_eq_cons (quote : Char) (triple : Bool) :
    ∃ more, closingMarks quote triple = quote :: more := by
  cases triple <;> exact ⟨_, rfl⟩

theorem closing?_closingMarks (quote : Char) (triple : Bool) (rest : List Char) :
    closing? quote triple (closingMarks quote triple ++ rest) = some rest := by
  rw [closing?_eq, if_pos (by simp), List.drop_left]

/-- Marks that do not begin before the end of a body do not begin there whatever follows. -/
theorem closing?_unclosed {c : Char}
    (unclosed : ¬ closingMarks quote triple <+: c :: (body ++ closingMarks quote triple))
    (rest : List Char) :
    closing? quote triple (c :: (body ++ (closingMarks quote triple ++ rest))) = none := by
  rw [closing?_eq, if_neg]
  intro h
  have hwhole : c :: (body ++ closingMarks quote triple) <+:
      c :: (body ++ (closingMarks quote triple ++ rest)) := ⟨rest, by simp⟩
  refine unclosed (List.prefix_of_prefix_length_le (List.isPrefixOf_iff_prefix.mp h) hwhole ?_)
  simp only [List.length_cons, List.length_append]
  omega

theorem count_of_code {code : List Char}
    (h : ∀ d ∈ code, d = '+' ∨ Text.isHexDigit d = true) :
    code.count '\n' = 0 := by
  rw [List.count_eq_zero]
  intro hmem
  rcases h _ hmem with he | he
  · cases he
  · exact absurd he (by decide)

variable (hquote : isQuote quote)
include hquote

theorem isQuote_ne_code : quote ≠ '\\' ∧ quote ≠ '+' ∧ Text.isHexDigit quote = false := by
  simp only [isQuote, Bool.or_eq_true, decide_eq_true_eq] at hquote
  rcases hquote with rfl | rfl <;> decide

/-- A body is read as it stands where it is raw. -/
theorem stringBody?_raw (h : Enclosed (closingMarks quote triple) triple body) (rest : List Char) :
    stringBody? quote triple true (body ++ (closingMarks quote triple ++ rest)) =
      some ⟨body, body.count '\n', rest⟩ := by
  induction h with
  | nil => exact stringBody?_of_closing? (closing?_closingMarks quote triple rest) true
  | escape next _ ih =>
      have hslash := (isQuote_ne_code hquote).1
      rw [List.cons_append, List.cons_append,
        stringBody?_backslash (closing?_of_ne (Ne.symm hslash) _)]
      simp only [escapeOrRaw, if_true, ih, Option.map_some, StringBody.after, List.count_cons]
      simp
  | @char c _ plain line unclosed _ ih =>
      have hline : (decide (c = '\n') && !triple) = false := by
        by_cases hc : c = '\n' <;> simp [hc, line]
      rw [List.cons_append, stringBody?_char (closing?_unclosed unclosed rest) plain, hline, ih]
      simp [StringBody.after, List.count_cons]

/-- Any other body is read as what it stands for. -/
theorem stringBody?_decodes (h : Enclosed (closingMarks quote triple) triple body)
    (decodes : Decodes LaxCode body value) (rest : List Char) :
    stringBody? quote triple false (body ++ (closingMarks quote triple ++ rest)) =
      some ⟨value, body.count '\n', rest⟩ := by
  obtain ⟨hslash, hplus, hhex⟩ := isQuote_ne_code hquote
  induction decodes with
  | nil => exact stringBody?_of_closing? (closing?_closingMarks quote triple rest) false
  | @char c body value plain _ ih =>
      cases h with
      | escape => exact absurd rfl plain
      | char _ line unclosed h =>
      have hline : (decide (c = '\n') && !triple) = false := by
        by_cases hc : c = '\n' <;> simp [hc, line]
      rw [List.cons_append, stringBody?_char (closing?_unclosed unclosed rest) plain, hline, ih h]
      simp [StringBody.after, List.count_cons]
  | @escape next body image behind value escape _ ih =>
      cases h with
      | char plain => exact absurd rfl plain
      | escape _ h =>
      obtain ⟨code, hbody, hcode⟩ := escape.exists_code isCode_laxCode
      obtain ⟨more, hmarks⟩ := closingMarks_eq_cons quote triple
      have hescape : escapeOrRaw false next (body ++ (closingMarks quote triple ++ rest)) =
          (image, behind ++ (closingMarks quote triple ++ rest)) := by
        rw [hmarks]
        exact escape_eq escape hplus hhex (more ++ rest)
      have hcount : body.count '\n' = behind.count '\n' := by
        rw [hbody, List.count_append, count_of_code hcode, Nat.zero_add]
      rw [List.cons_append, List.cons_append,
        stringBody?_backslash (closing?_of_ne (Ne.symm hslash) _), hescape]
      simp [ih (h.behind_escape isCode_laxCode escape), StringBody.after, List.count_cons, hcount]

end Bodies

end Lexer

/-! ## Literals -/

/-- A string literal with the letters in front of it and its quotes. -/
structure StringLiteral where
  letters : List Char
  quote : Char
  triple : Bool
  body : List Char
  accepted : letters.length ≤ 2 ∧ ∀ c ∈ letters, Text.asciiLower c ∈ ['r', 'b', 'u', 'f']
  quoted : quote = '"' ∨ quote = '\''
  enclosed : Enclosed (closingMarks quote triple) triple body

namespace StringLiteral

def marks (l : StringLiteral) : List Char := closingMarks l.quote l.triple

def text (l : StringLiteral) : List Char := l.letters ++ (l.marks ++ (l.body ++ l.marks))

/-- A letter in either case stands in front of the literal. -/
def hasLetter (l : StringLiteral) (c : Char) : Bool := (l.letters.map Text.asciiLower).contains c

def raw (l : StringLiteral) : Bool := l.hasLetter 'r'

/-- Formatted and byte literals are not plain. -/
def plain (l : StringLiteral) : Bool := !l.hasLetter 'f' && !l.hasLetter 'b'

/-- What the literal stands for. -/
def HasValue (Code : Nat → List Char → Char → Prop) (l : StringLiteral) (value : List Char) :
    Prop :=
  if l.raw then value = l.body else Decodes Code l.body value

/-- Some escape of the literal has a code with a plus sign. -/
def HasSigned (l : StringLiteral) : Prop := l.raw = false ∧ Source.HasSigned l.body

/-- Two quotes are no literal before a third one. -/
def EndsBefore (l : StringLiteral) (rest : List Char) : Prop :=
  l.triple = false → l.body = [] → rest.head? ≠ some l.quote

section Values

variable {Code : Nat → List Char → Char → Prop} {l : StringLiteral} {value strict : List Char}

theorem exists_value (isCode : IsCode Code) (l : StringLiteral) :
    ∃ value, l.HasValue Code value := by
  by_cases hraw : l.raw = true
  · exact ⟨l.body, by rw [HasValue, if_pos hraw]⟩
  · obtain ⟨value, h⟩ := l.enclosed.exists_decodes isCode
    exact ⟨value, by rwa [HasValue, if_neg hraw]⟩

theorem HasValue.compare (read : l.HasValue LaxCode value) (stands : l.HasValue HexCode strict) :
    value.length ≤ strict.length ∧ (l.HasSigned → value.length < strict.length) ∧
      (¬ l.HasSigned → value = strict) := by
  unfold HasValue at read stands
  unfold HasSigned
  by_cases hraw : l.raw = true
  · rw [if_pos hraw] at read stands
    rw [read, stands]
    exact ⟨Nat.le_refl _, fun h => absurd (hraw.symm.trans h.1) (by decide), fun _ => rfl⟩
  · rw [if_neg hraw] at read stands
    rw [Bool.not_eq_true] at hraw
    obtain ⟨hle, hlt, heq⟩ := read.compare stands
    exact ⟨hle, fun h => hlt h.2, fun h => heq fun hs => h ⟨hraw, hs⟩⟩

end Values

end StringLiteral

/-- What literals stand for that are one token. -/
def HasValues (Code : Nat → List Char → Char → Prop) (ls : List StringLiteral)
    (value : List Char) : Prop :=
  ∃ values, List.Forall₂ (StringLiteral.HasValue Code) ls values ∧ value = values.flatten

section Values

variable {ls : List StringLiteral} {values strict : List (List Char)}

theorem exists_values {Code : Nat → List Char → Char → Prop} (isCode : IsCode Code)
    (ls : List StringLiteral) :
    ∃ values, List.Forall₂ (StringLiteral.HasValue Code) ls values := by
  induction ls with
  | nil => exact ⟨[], .nil⟩
  | cons l ls ih =>
      obtain ⟨value, hvalue⟩ := l.exists_value isCode
      obtain ⟨values, hvalues⟩ := ih
      exact ⟨value :: values, .cons hvalue hvalues⟩

theorem values_compare (read : List.Forall₂ (StringLiteral.HasValue LaxCode) ls values)
    (stands : List.Forall₂ (StringLiteral.HasValue HexCode) ls strict) :
    values.flatten.length ≤ strict.flatten.length ∧
      ((∃ l ∈ ls, l.HasSigned) → values.flatten.length < strict.flatten.length) ∧
      ((∀ l ∈ ls, ¬ l.HasSigned) → values = strict) := by
  induction read generalizing strict with
  | nil =>
      cases stands
      simp
  | @cons l value ls values hvalue _ ih =>
      cases stands with
      | @cons _ w _ ws hw hws =>
      obtain ⟨hle, hlt, heq⟩ := hvalue.compare hw
      obtain ⟨hles, hlts, heqs⟩ := ih hws
      simp only [List.flatten_cons, List.length_append, List.exists_mem_cons_iff,
        List.forall_mem_cons]
      refine ⟨by omega, ?_, fun h => by rw [heq h.1, heqs h.2]⟩
      rintro (h | h)
      · have := hlt h
        omega
      · have := hlts h
        omega

/-- What is read is what the literals stand for exactly if none of them has a signed code. -/
theorem HasValues.hexCode_iff {value : List Char} (read : HasValues LaxCode ls value) :
    HasValues HexCode ls value ↔ ∀ l ∈ ls, ¬ l.HasSigned := by
  obtain ⟨values, hvalues, rfl⟩ := read
  constructor
  · rintro ⟨strict, hstrict, hsame⟩ l hl hsigned
    have hlt := (values_compare hvalues hstrict).2.1 ⟨l, hl, hsigned⟩
    rw [hsame] at hlt
    exact Nat.lt_irrefl _ hlt
  · intro h
    obtain ⟨strict, hstrict⟩ := exists_values isCode_hexCode ls
    exact ⟨strict, hstrict, by rw [(values_compare hvalues hstrict).2.2 h]⟩

end Values

/-! ## Literals in a text -/

/-- What may stand between two literals of one token: blanks and joined lines, and within brackets
also line ends and comments. -/
inductive Gap (inside : Bool) : List Char → Prop
  | nil : Gap inside []
  | blank {c : Char} {gap : List Char} (known : c ∈ [' ', '\t', '\x0c', '\r'])
      (rest : Gap inside gap) : Gap inside (c :: gap)
  | joined {gap : List Char} (rest : Gap inside gap) : Gap inside ('\\' :: '\n' :: gap)
  | joinedReturn {gap : List Char} (rest : Gap inside gap) :
      Gap inside ('\\' :: '\r' :: '\n' :: gap)
  | lineEnd {gap : List Char} (bracketed : inside = true) (rest : Gap inside gap) :
      Gap inside ('\n' :: gap)
  | comment {text gap : List Char} (bracketed : inside = true) (line : '\n' ∉ text)
      (rest : Gap inside gap) : Gap inside ('#' :: (text ++ '\n' :: gap))

/-- A text that begins with literals of one token and goes on with `rest`. -/
inductive Spelled (inside : Bool) (rest : List Char) : List StringLiteral → List Char → Prop
  | last {l : StringLiteral} (ends : l.EndsBefore rest) : Spelled inside rest [l] (l.text ++ rest)
  | next {l : StringLiteral} {ls : List StringLiteral} {gap text : List Char}
      (ends : l.EndsBefore (gap ++ text)) (between : Gap inside gap)
      (more : Spelled inside rest ls text) : Spelled inside rest (l :: ls) (l.text ++ (gap ++ text))

namespace Lexer

variable {s b t u : Lexer} {l : StringLiteral} {ls : List StringLiteral} {rest value : List Char}
  {c : Char} {cs : List Char}

/-! ### One literal -/

theorem ascii_letters : ∀ n < 128, Text.asciiLower (Char.ofNat n) ∈ ['r', 'b', 'u', 'f'] →
    isWordStart (Char.ofNat n) = true := by
  decide +kernel

theorem isWordStart_of_letter (h : Text.asciiLower c ∈ ['r', 'b', 'u', 'f']) :
    isWordStart c = true := by
  have hascii : ∀ d ∈ ['r', 'b', 'u', 'f'], d.toNat < 128 := by simp
  have hc := ascii_letters c.toNat (toNat_lt_of_asciiLower (hascii _ h))
  rw [Char.ofNat_toNat] at hc
  exact hc h

theorem isQuote_quote (l : StringLiteral) : isQuote l.quote = true := by
  rcases l.quoted with h | h <;> rw [h] <;> rfl

theorem stringPrefix?_letters (l : StringLiteral) :
    stringPrefix? l.letters = some ⟨l.raw, l.hasLetter 'f', l.hasLetter 'b'⟩ := by
  have hall : (l.letters.map Text.asciiLower).all
      (fun c => c = 'r' || c = 'b' || c = 'u' || c = 'f') = true := by
    rw [List.all_map, List.all_eq_true]
    intro c hc
    simpa [or_assoc] using l.accepted.2 c hc
  rw [stringPrefix?, if_pos (by simp [l.accepted.1, hall])]
  rfl

/-- A single quote does not open a literal in triple quotes. -/
theorem isTriple_eq_false (ends : l.EndsBefore rest) (single : l.triple = false) :
    isTriple l.quote (l.body ++ (l.marks ++ rest)) = false := by
  have hslash := (isQuote_ne_code (isQuote_quote l)).1
  have henclosed := l.enclosed
  have hends := ends single
  have hmarks : l.marks = [l.quote] := by
    rw [StringLiteral.marks, single]
    rfl
  rw [hmarks]
  rw [single, show closingMarks l.quote false = [l.quote] from rfl] at henclosed
  generalize l.body = body at henclosed hends
  cases henclosed with
  | nil =>
      cases rest with
      | nil => simp [isTriple, List.isPrefixOf]
      | cons d ds =>
          have hd : ¬ l.quote = d := by simpa [eq_comm] using hends rfl
          simp [isTriple, List.isPrefixOf, hd]
  | escape => simp [isTriple, List.isPrefixOf, hslash]
  | @char c body _ _ unclosed =>
      have hc : ¬ l.quote = c := by
        rintro rfl
        exact unclosed (by simp)
      simp [isTriple, List.isPrefixOf, hc]

/-- The text behind the opening quote. -/
theorem isTriple_marks (ends : l.EndsBefore rest) {more : List Char}
    (h : l.marks = l.quote :: more) :
    isTriple l.quote (more ++ (l.body ++ (l.marks ++ rest))) = l.triple ∧
      bodyBehind l.quote (more ++ (l.body ++ (l.marks ++ rest))) =
        l.body ++ (l.marks ++ rest) := by
  unfold StringLiteral.marks at h
  cases htriple : l.triple with
  | true =>
      rw [htriple] at h
      obtain rfl : more = [l.quote, l.quote] := (List.cons.inj h).2.symm
      have : isTriple l.quote ([l.quote, l.quote] ++ (l.body ++ (l.marks ++ rest))) = true := by
        simp [isTriple, List.isPrefixOf]
      exact ⟨this, by rw [bodyBehind, if_pos this]; rfl⟩
  | false =>
      rw [htriple] at h
      obtain rfl : more = [] := (List.cons.inj h).2.symm
      have := isTriple_eq_false ends htriple
      exact ⟨this, by rw [List.nil_append, bodyBehind, this]; rfl⟩

theorem stringBody?_literal (hvalue : l.HasValue LaxCode value) (rest : List Char) :
    stringBody? l.quote l.triple l.raw (l.body ++ (l.marks ++ rest)) =
      some ⟨value, l.body.count '\n', rest⟩ := by
  unfold StringLiteral.HasValue at hvalue
  cases hraw : l.raw with
  | true =>
      rw [hraw, if_pos rfl] at hvalue
      rw [hvalue]
      exact stringBody?_raw (isQuote_quote l) l.enclosed rest
  | false =>
      rw [hraw, if_neg Bool.false_ne_true] at hvalue
      exact stringBody?_decodes (isQuote_quote l) l.enclosed hvalue rest

/-- A literal is read as a whole. -/
theorem readOne_literal (s : Lexer) (hvalue : l.HasValue LaxCode value)
    (ends : l.EndsBefore rest) (h : l.text ++ rest = c :: cs) :
    s.readOne c cs = .ok { s with
      rest
      line := s.line + l.body.count '\n'
      done := pushString s.done value l.plain s.line } := by
  obtain ⟨more, hmarks⟩ := closingMarks_eq_cons l.quote l.triple
  have hquote := isQuote_quote l
  have hread (s : Lexer) : s.readString ⟨l.raw, l.hasLetter 'f', l.hasLetter 'b'⟩ l.quote
      (more ++ (l.body ++ (l.marks ++ rest))) = .ok { s with
        rest
        line := s.line + l.body.count '\n'
        done := pushString s.done value l.plain s.line } := by
    obtain ⟨htriple, hbody⟩ := isTriple_marks ends hmarks
    rw [readString_eq, htriple, hbody, stringBody?_literal hvalue]
    rfl
  have htext : l.text ++ rest =
      l.letters ++ l.quote :: (more ++ (l.body ++ (l.marks ++ rest))) := by
    simp [StringLiteral.text, StringLiteral.marks, hmarks]
  have hpart : isWordPart l.quote = false := by
    rcases l.quoted with hq | hq <;> rw [hq] <;> decide
  have hhow := stringPrefix?_letters l
  rw [htext] at h
  cases hletters : l.letters with
  | nil =>
      rw [hletters] at h hhow
      obtain ⟨rfl, rfl⟩ := List.cons.inj h
      obtain hhow := Option.some.inj hhow
      rw [readOne_of_isQuote hquote, ← hread, ← hhow]
      rfl
  | cons first letters =>
      have hword : ∀ d ∈ l.letters, isWordPart d = true := fun d hd =>
        isWordPart_of_isWordStart (isWordStart_of_letter (l.accepted.2 d hd))
      have hspan : (c :: cs).takeWhile isWordPart = l.letters ∧ (c :: cs).dropWhile isWordPart =
          l.quote :: (more ++ (l.body ++ (l.marks ++ rest))) := by
        rw [← h, List.takeWhile_append_of_pos hword, List.dropWhile_append_of_pos hword]
        simp [hpart]
      have hc : isWordStart c = true := by
        rw [hletters] at h
        rw [← (List.cons.inj h).1]
        exact isWordStart_of_letter (l.accepted.2 first (hletters ▸ List.mem_cons_self))
      rw [readOne_of_isWordStart hc, readWord, hspan.1, hspan.2, hhow]
      simp only [hquote, if_true, hread]

/-! ### Literals of one token -/

/-- A line that has been begun is read on where it stands. -/
theorem step_of_begun (begun : s.lineStart = false) (hs : s.rest = c :: cs) :
    s.step = s.readOne c cs := by
  rw [step, begun, hs]
  rfl

/-- The lexer before the first token of a line, once the blocks are as wide as the line wants them,
or before any other token. -/
def lineBegun (s : Lexer) : Except SyntaxError Lexer :=
  if s.lineStart then
    shiftBlocks { s with rest := (indentation 0 s.rest).2, lineStart := false }
      (indentation 0 s.rest).1
  else .ok s

theorem lineStart_shiftBlocks {width : Nat} (h : s.shiftBlocks width = .ok t) :
    t.lineStart = s.lineStart := by
  unfold shiftBlocks fail at h
  grind

theorem lineStart_lineBegun (h : s.lineBegun = .ok b) : b.lineStart = false := by
  unfold lineBegun at h
  split at h
  · exact lineStart_shiftBlocks h
  · cases h
    exact Bool.eq_false_iff.mpr ‹_›

theorem rest_lineBegun (hs : s.AtRest) (h : s.lineBegun = .ok b) : b.rest = s.ahead := by
  unfold lineBegun at h
  unfold ahead
  cases hstart : s.lineStart with
  | false =>
      rw [hstart] at h
      cases h
      rfl
  | true =>
      rw [hstart] at h
      rw [(hs hstart).1, rest_shiftBlocks h]
      rfl

/-- What begins like a literal is read from the lexer that has begun the line. -/
theorem step_of_lineBegun (hs : s.AtRest) (h : s.lineBegun = .ok b) (hb : b.rest = c :: cs)
    (hc : c ≠ '#' ∧ c ≠ '\n' ∧ c ≠ '\r') : s.step = b.readOne c cs := by
  have hahead : s.ahead = c :: cs := by rw [← rest_lineBegun hs h, hb]
  unfold lineBegun at h
  cases hstart : s.lineStart with
  | false =>
      rw [hstart] at h
      cases h
      exact step_of_begun hstart hb
  | true =>
      have hopen : (s.lineStart && s.brackets.isEmpty) = true := by rw [hstart, (hs hstart).1]; rfl
      rw [hstart, if_pos rfl] at h
      rw [ahead, if_pos hopen] at hahead
      have hindent : indentation 0 s.rest = ((indentation 0 s.rest).1, c :: cs) := by
        rw [← hahead]
      rw [hahead] at h
      rw [step, if_pos hopen, readLineStart_of_ne hindent hc.1 hc.2.1 fun h => hc.2.2 h.1, h]

/-- A run comes to a later place in the text and has changed nothing but the line. -/
def PassesTo (s : Lexer) (rest : List Char) : Prop := ∃ line, s.Reaches { s with rest, line }

theorem PassesTo.of_step {line : Nat} {behind : List Char} (begun : s.lineStart = false)
    (hs : s.rest = c :: cs) (h : s.readOne c cs = .ok { s with rest := behind, line })
    (more : PassesTo { s with rest := behind, line } rest) : s.PassesTo rest := by
  obtain ⟨last, hlast⟩ := more
  refine ⟨last, .head ⟨?_, (step_of_begun begun hs).trans h⟩ hlast⟩
  rw [hs]
  exact List.cons_ne_nil c cs

/-- Within brackets a line end means nothing. -/
theorem endLine_bracketed (begun : s.lineStart = false) (h : s.brackets.isEmpty = false)
    (cs : List Char) : s.endLine cs = { s with rest := cs, line := s.line + 1 } := by
  rw [endLine, h, Bool.false_and, if_neg Bool.false_ne_true, begun]

theorem skipComment_line {text : List Char} (line : '\n' ∉ text) (rest : List Char) :
    skipComment (text ++ '\n' :: rest) = '\n' :: rest := by
  have hall : ∀ c ∈ text, (c != '\n') = true := by
    intro c hc
    simpa using fun he : c = '\n' => line (he ▸ hc)
  rw [skipComment, List.dropWhile_append_of_pos hall]
  rfl

theorem readOne_blank (h : c ∈ [' ', '\t', '\x0c', '\r']) (cs : List Char) :
    s.readOne c cs = .ok { s with rest := cs } := by
  simp only [List.mem_cons, List.not_mem_nil, or_false] at h
  rcases h with rfl | rfl | rfl | rfl <;> rfl

/-- A gap is passed over. -/
theorem passesTo_gap (begun : s.lineStart = false) {inside : Bool} {gap : List Char}
    (h : Gap inside gap) (hinside : s.brackets.isEmpty = !inside) (hs : s.rest = gap ++ rest) :
    s.PassesTo rest := by
  induction h generalizing s with
  | nil => exact ⟨s.line, by rw [← show s.rest = rest from hs]; exact .refl⟩
  | blank known _ ih => exact .of_step begun hs (readOne_blank known _) (ih begun hinside rfl)
  | joined _ ih => exact .of_step begun hs rfl (ih begun hinside rfl)
  | joinedReturn _ ih => exact .of_step begun hs rfl (ih begun hinside rfl)
  | lineEnd bracketed _ ih =>
      have hopen : s.brackets.isEmpty = false := by rw [hinside, bracketed]; rfl
      exact .of_step begun hs (congrArg _ (endLine_bracketed begun hopen _))
        (ih begun hinside rfl)
  | @comment text gap bracketed line _ ih =>
      have hopen : s.brackets.isEmpty = false := by rw [hinside, bracketed]; rfl
      have hskip : skipComment (text ++ '\n' :: gap ++ rest) = '\n' :: (gap ++ rest) := by
        rw [List.append_assoc]
        exact skipComment_line line _
      let behind : Lexer := { s with rest := '\n' :: (gap ++ rest), line := s.line }
      have hend : behind.PassesTo rest := .of_step begun rfl
        (congrArg _ (endLine_bracketed (s := behind) begun hopen _)) (ih begun hinside rfl)
      refine .of_step begun hs ?_ hend
      rw [← hskip]
      rfl

theorem text_eq_cons (l : StringLiteral) (rest : List Char) :
    ∃ c cs, l.text ++ rest = c :: cs ∧ c ≠ '#' ∧ c ≠ '\n' ∧ c ≠ '\r' := by
  obtain ⟨more, hmarks⟩ := closingMarks_eq_cons l.quote l.triple
  cases hletters : l.letters with
  | nil =>
      refine ⟨l.quote, more ++ (l.body ++ l.marks) ++ rest, ?_, ?_⟩
      · simp [StringLiteral.text, hletters, StringLiteral.marks, hmarks]
      · rcases l.quoted with h | h <;> rw [h] <;> decide
  | cons c letters =>
      have hc := isWordStart_of_letter (l.accepted.2 c (hletters ▸ List.mem_cons_self))
      refine ⟨c, letters ++ (l.marks ++ (l.body ++ l.marks)) ++ rest, ?_,
        isWordStart_ne hc (by decide), isWordStart_ne hc (by decide),
        isWordStart_ne hc (by decide)⟩
      rw [StringLiteral.text, hletters]
      rfl

/-- Literals behind another one continue its token. -/
theorem reaches_literals (begun : s.lineStart = false)
    {inside : Bool} (hinside : s.brackets.isEmpty = !inside)
    (spelled : Spelled inside rest ls s.rest)
    {values : List (List Char)} (hvalues : List.Forall₂ (StringLiteral.HasValue LaxCode) ls values)
    {before : String} {plain : Bool} {first : Nat} {done : List Token}
    (hdone : s.done = ⟨.str before plain, first⟩ :: done) :
    ∃ line, s.Reaches { s with
      rest, line
      done := ⟨.str (before ++ String.ofList values.flatten) (plain && ls.all (·.plain)), first⟩ ::
        done } := by
  generalize htext : s.rest = text at spelled
  -- one literal of the token
  have hstep {s : Lexer} {l : StringLiteral} {value rest : List Char} {before : String}
      {plain : Bool} (begun : s.lineStart = false) (hs : s.rest = l.text ++ rest)
      (hvalue : l.HasValue LaxCode value) (ends : l.EndsBefore rest)
      (hdone : s.done = ⟨.str before plain, first⟩ :: done) :
      s.rest ≠ [] ∧ s.step = .ok { s with
        rest
        line := s.line + l.body.count '\n'
        done := ⟨.str (before ++ String.ofList value) (plain && l.plain), first⟩ :: done } := by
    obtain ⟨c, cs, hcs, -⟩ := text_eq_cons l rest
    refine ⟨by rw [hs, hcs]; exact List.cons_ne_nil c cs, ?_⟩
    rw [step_of_begun begun (hs.trans hcs), readOne_literal s hvalue ends hcs, hdone]
    rfl
  induction spelled generalizing s values before plain with
  | @last l ends =>
      obtain ⟨value, hvalue, rfl⟩ : ∃ value, l.HasValue LaxCode value ∧ values = [value] := by
        cases hvalues with
        | cons hvalue hnil => cases hnil; exact ⟨_, hvalue, rfl⟩
      refine ⟨s.line + l.body.count '\n', .single ?_⟩
      simpa using hstep begun htext hvalue ends hdone
  | @next l ls gap text ends between more ih =>
      cases hvalues with
      | @cons _ value _ values hvalue hvalues =>
      let read : Lexer := { s with
        rest := gap ++ text
        line := s.line + l.body.count '\n'
        done := ⟨.str (before ++ String.ofList value) (plain && l.plain), first⟩ :: done }
      have hread : s.Reaches read := .single (hstep begun htext hvalue ends hdone)
      obtain ⟨line, hgap⟩ := passesTo_gap (s := read) begun between hinside rfl
      obtain ⟨last, hmore⟩ :=
        ih (s := { read with rest := text, line }) begun hinside hvalues rfl rfl
      refine ⟨last, (hread.trans hgap).trans ?_⟩
      rw [List.flatten_cons, String.ofList_append, ← String.append_assoc, List.all_cons,
        ← Bool.and_assoc]
      exact hmore

/-! ### The tokens that have been read -/

theorem reaches_of_run (h : s.run = .ok t) : s.Reaches t ∧ t.rest = [] := by
  fun_induction run s with
  | case1 s hs =>
      cases h
      exact ⟨.refl, hs⟩
  | case2 => cases h
  | case3 s hs u hstep ih =>
      obtain ⟨hreaches, hrest⟩ := ih h
      exact ⟨.head ⟨hs, hstep⟩ hreaches, hrest⟩

theorem run_of_reaches (h : s.Reaches t) : s.run = t.run := by
  induction h with
  | refl => rfl
  | tail _ hstep ih => rw [ih, run_of_step hstep.1 hstep.2]

theorem Reaches.atRest (h : s.Reaches t) (hs : s.AtRest) : t.AtRest := by
  induction h with
  | refl => exact hs
  | tail _ hstep ih => exact (moves_of_step ih hstep.2).atRest ih

theorem done_readSymbol (h : s.readSymbol c cs = .ok t) : ∃ token, t.done = token :: s.done := by
  unfold readSymbol fail at h
  split at h
  · cases h
  dsimp only at h
  split at h
  · cases h
    exact ⟨_, rfl⟩
  · split at h
    · cases h
    · split at h
      · cases h
        exact ⟨_, rfl⟩
      · cases h
  · cases h
    exact ⟨_, rfl⟩

/-- A word that is no literal is a name. -/
theorem done_readWord (hc : isWordStart c = true) (hnone : literalAt? (c :: cs) = none)
    (h : s.readWord (c :: cs) = .ok t) : ∃ token, t.done = token :: s.done := by
  rw [literalAt?, if_pos hc] at hnone
  unfold readWord at h
  dsimp only at h
  split at h
  · next hhow hrest =>
      rw [hhow, hrest] at hnone
      dsimp only at hnone
      split at h
      · next hquote =>
          rw [if_pos hquote] at hnone
          cases hnone
      · cases h
        exact ⟨_, rfl⟩
  · cases h
    exact ⟨_, rfl⟩

/-- What does not begin with a literal adds at most one token. -/
theorem done_readOne (hnone : literalAt? (c :: cs) = none) (h : s.readOne c cs = .ok t) :
    t.done = s.done ∨ ∃ token, t.done = token :: s.done := by
  unfold readOne at h
  split at h
  · cases h
    exact .inl rfl
  split at h
  · cases h
    exact .inl rfl
  split at h
  · cases h
    unfold endLine
    split
    · exact .inr ⟨_, rfl⟩
    · exact .inl rfl
  split at h
  · cases h
    exact .inr ⟨_, rfl⟩
  split at h
  · next hword => exact .inr (done_readWord hword hnone h)
  split at h
  · next hword hquote =>
      rw [literalAt?, if_neg hword, if_pos hquote] at hnone
      cases hnone
  split at h
  · cases h
    exact .inl rfl
  · exact .inr (done_readSymbol h)

/-- More tokens have been read since an earlier moment. -/
def LiesOn (done : List Token) (s : Lexer) : Prop :=
  ∃ token more, s.done = token :: (more ++ done)

theorem LiesOn.of_cons {done : List Token} {token : Token} (h : LiesOn done s)
    (ht : t.done = token :: s.done) : LiesOn done t := by
  obtain ⟨last, more, hdone⟩ := h
  exact ⟨token, last :: more, by rw [ht, hdone, List.cons_append]⟩

theorem LiesOn.move {done : List Token} (h : LiesOn done s) (hmove : Move s t) : LiesOn done t := by
  cases hmove with
  | skip same =>
      obtain ⟨last, more, hdone⟩ := h
      exact ⟨last, more, same.trans hdone⟩
  | literal value plain line pushed =>
      obtain ⟨last, more, hdone⟩ := id h
      rcases pushString_cases s.done value plain line with ⟨hcons, -⟩ | ⟨_, _, _, rest, _, _, hs, ht⟩
      · exact h.of_cons (pushed.trans hcons)
      · obtain rfl := (List.cons.inj (hs.symm.trans hdone)).2
        exact ⟨_, more, pushed.trans ht⟩
  | token _ _ _ pushed | opens _ _ _ _ pushed | closes _ _ _ _ _ _ pushed
  | newline _ _ _ pushed | indent _ _ _ _ pushed | dedent _ _ _ _ pushed => exact h.of_cons pushed

theorem LiesOn.moves {done : List Token} (h : LiesOn done s) (hmoves : Moves s t) :
    LiesOn done t := by
  induction hmoves with
  | refl => exact h
  | tail _ hmove ih => exact ih.move hmove

/-- The next token that a run reads is no literal. -/
def LiteralEnds (s : Lexer) : Prop :=
  ∀ t, s.Reaches t → t.done = s.done → literalAt? t.ahead = none

/-- The tokens that have been read stay when no literal continues the last of them. -/
theorem LiteralEnds.keeps (ends : s.LiteralEnds) (hs : s.AtRest) {value : String} {plain : Bool}
    {first : Nat} {done : List Token} (hdone : s.done = ⟨.str value plain, first⟩ :: done)
    (h : s.Reaches t) : t.done = s.done ∨ LiesOn s.done t := by
  induction h with
  | refl => exact .inl rfl
  | @tail u t hreaches hstep ih =>
      have hu := Reaches.atRest hreaches hs
      rcases ih with hsame | hlies
      · have hbegun : u.lineStart = false := by
          rw [Bool.eq_false_iff]
          intro hstart
          have hempty := (hu hstart).2
          rw [lineIsEmpty, hsame, hdone] at hempty
          cases hempty
        obtain ⟨c, cs, hrest⟩ := List.exists_cons_of_ne_nil hstep.1
        have hnone := ends u hreaches hsame
        rw [ahead, hbegun, Bool.false_and, if_neg Bool.false_ne_true, hrest] at hnone
        rw [← hsame]
        rcases done_readOne hnone ((step_of_begun hbegun hrest).symm.trans hstep.2) with
          h | ⟨token, h⟩
        · exact .inl h
        · exact .inr ⟨token, [], h⟩
      · exact .inr (hlies.moves (moves_of_step hu hstep.2))

/-- The end of a text adds tokens behind all others. -/
theorem prefix_of_finish {ts : List Token} (h : s.finish = .ok ts) : s.done.reverse <+: ts := by
  unfold finish at h
  split at h
  · cases h
  · cases h
    split
    · exact ⟨_, (List.append_assoc _ _ _).symm⟩
    · simp only [push, List.reverse_cons, List.append_assoc]
      exact List.prefix_append _ _

/-- A new token in front of which no literal stands. -/
theorem pushString_of_first {done : List Token} (first : ∀ t ∈ done.head?, t.isString = false)
    (value : List Char) (plain : Bool) (line : Nat) :
    pushString done value plain line = ⟨.str (String.ofList value) plain, line⟩ :: done := by
  rcases pushString_cases done value plain line with ⟨h, -⟩ | ⟨before, p, line', rest, _, _, h, -⟩
  · exact h
  · have hstring := first ⟨.str before p, line'⟩ (by rw [h]; rfl)
    cases hstring

/-- The lexer behind literals that are one token. -/
def behindLiterals (b : Lexer) (ls : List StringLiteral) (value rest : List Char) (line : Nat) :
    Lexer :=
  { b with
    rest, line
    done := ⟨.str (String.ofList value) (ls.all (·.plain)), b.line⟩ :: b.done }

/-- Literals that are one token are read as that token. -/
theorem reaches_behindLiterals (hs : s.AtRest) (begun : s.lineBegun = .ok b)
    (first : ∀ t ∈ b.done.head?, t.isString = false)
    (spelled : Spelled (!b.brackets.isEmpty) rest ls b.rest) {values : List (List Char)}
    (hvalues : List.Forall₂ (StringLiteral.HasValue LaxCode) ls values) :
    ∃ line, s.Reaches (b.behindLiterals ls values.flatten rest line) := by
  have hb := lineStart_lineBegun begun
  have hstep {l : StringLiteral} {value rest : List Char} (hrest : b.rest = l.text ++ rest)
      (hvalue : l.HasValue LaxCode value) (ends : l.EndsBefore rest) :
      s.Reaches { b with
        rest
        line := b.line + l.body.count '\n'
        done := ⟨.str (String.ofList value) l.plain, b.line⟩ :: b.done } := by
    obtain ⟨c, cs, hcs, hc⟩ := text_eq_cons l rest
    have hne : s.rest ≠ [] := by
      intro hnil
      have hahead := rest_lineBegun hs begun
      rw [ahead_of_nil hnil, hrest, hcs] at hahead
      cases hahead
    refine .single ⟨hne, ?_⟩
    rw [step_of_lineBegun hs begun (hrest.trans hcs) hc, readOne_literal b hvalue ends hcs,
      pushString_of_first first]
  generalize htext : b.rest = text at spelled
  cases spelled with
  | @last l ends =>
      cases hvalues with
      | @cons _ value _ _ hvalue hnil =>
      cases hnil
      refine ⟨b.line + l.body.count '\n', ?_⟩
      have hread := hstep htext hvalue ends
      simpa [behindLiterals] using hread
  | @next l ls gap text ends between more =>
      cases hvalues with
      | @cons _ value _ values hvalue hvalues =>
      have hopen : b.brackets.isEmpty = !!b.brackets.isEmpty := (Bool.not_not _).symm
      have hread := hstep htext hvalue ends
      let read : Lexer := { b with
        rest := gap ++ text
        line := b.line + l.body.count '\n'
        done := ⟨.str (String.ofList value) l.plain, b.line⟩ :: b.done }
      obtain ⟨line, hgap⟩ := passesTo_gap (s := read) hb between hopen rfl
      obtain ⟨last, hmore⟩ :=
        reaches_literals (s := { read with rest := text, line }) hb hopen more hvalues rfl
      refine ⟨last, (hread.trans hgap).trans ?_⟩
      rw [behindLiterals, List.flatten_cons, String.ofList_append, List.all_cons]
      exact hmore

end Lexer

/-! ## The value of a token -/

/-- Literals that are one token of a text, with none of their kind right before and behind them,
are read as that token and without a fault. It is plain if all of them are, and its value is theirs
in a row, where the first place of a code may be a plus sign. So it is what the literals stand for
exactly if no code among them has one. -/
theorem literals_value_iff {text : String} {s b : Lexer} {ls : List StringLiteral}
    {rest : List Char} (reached : (start text.toList).Reaches s) (begun : s.lineBegun = .ok b)
    (first : ∀ t ∈ b.done.head?, t.isString = false)
    (spelled : Spelled (!b.brackets.isEmpty) rest ls b.rest) :
    ∃ value line,
      HasValues LaxCode ls value ∧
      (HasValues HexCode ls value ↔ ∀ l ∈ ls, ¬ l.HasSigned) ∧
      s.Reaches (b.behindLiterals ls value rest line) ∧
      ((b.behindLiterals ls value rest line).LiteralEnds → ∀ ts, tokenize text = .ok ts →
        b.done.reverse ++ [⟨.str (String.ofList value) (ls.all (·.plain)), b.line⟩] <+: ts) := by
  have hs := Reaches.atRest reached (atRest_start _)
  obtain ⟨values, hvalues⟩ := exists_values isCode_laxCode ls
  obtain ⟨line, hreaches⟩ := reaches_behindLiterals hs begun first spelled hvalues
  have hread : HasValues LaxCode ls values.flatten := ⟨values, hvalues, rfl⟩
  refine ⟨values.flatten, line, hread, hread.hexCode_iff, hreaches, fun ends ts hts => ?_⟩
  rw [tokenize_eq, run_of_reaches (reached.trans hreaches)] at hts
  generalize hbehind : b.behindLiterals ls values.flatten rest line = behind at hreaches ends hts
  have hdone : behind.done =
      ⟨.str (String.ofList values.flatten) (ls.all (·.plain)), b.line⟩ :: b.done := by
    rw [← hbehind]
    rfl
  have hrest := Reaches.atRest hreaches hs
  cases hrun : behind.run with
  | error e =>
      rw [hrun] at hts
      cases hts
  | ok t =>
      rw [hrun] at hts
      have hkept : behind.done.reverse <+: t.done.reverse := by
        rcases ends.keeps hrest hdone (reaches_of_run hrun).1 with h | ⟨token, more, h⟩
        · exact h ▸ List.prefix_rfl
        · rw [h, ← List.cons_append, List.reverse_append]
          exact List.prefix_append _ _
      rw [hdone, List.reverse_cons] at hkept
      exact hkept.trans (prefix_of_finish hts)

/-- A literal with an escaped quote and the code of a letter. -/
def escapedLiteral : StringLiteral where
  letters := []
  quote := '\''
  triple := false
  body := "\\'\\x41".toList
  accepted := ⟨by decide, List.forall_mem_nil _⟩
  quoted := .inr rfl
  enclosed := .escape '\'' (.escape 'x' (.char (by decide) (by decide) (by decide)
    (.char (by decide) (by decide) (by decide) .nil)))

/-- A raw literal with a backslash. -/
def rawLiteral : StringLiteral where
  letters := ['R']
  quote := '"'
  triple := false
  body := "\\d".toList
  accepted := ⟨by decide, List.forall_mem_singleton.mpr (by decide)⟩
  quoted := .inl rfl
  enclosed := .escape 'd' .nil

theorem literals_value_iff_call : ∃ s b,
    (start "f('\\'\\x41' R\"\\d\")".toList).Reaches s ∧ s.lineBegun = .ok b ∧
      (∀ t ∈ b.done.head?, t.isString = false) ∧
      Spelled (!b.brackets.isEmpty) [')'] [escapedLiteral, rawLiteral] b.rest ∧
      ∃ value line,
        HasValues LaxCode [escapedLiteral, rawLiteral] value ∧
        (HasValues HexCode [escapedLiteral, rawLiteral] value ↔
          ∀ l ∈ [escapedLiteral, rawLiteral], ¬ l.HasSigned) ∧
        s.Reaches (b.behindLiterals [escapedLiteral, rawLiteral] value [')'] line) ∧
        ((b.behindLiterals [escapedLiteral, rawLiteral] value [')'] line).LiteralEnds →
          ∀ ts, tokenize "f('\\'\\x41' R\"\\d\")" = .ok ts →
            b.done.reverse ++ [⟨.str (String.ofList value) true, b.line⟩] <+: ts) := by
  let s : Lexer := within 1 [⟨.symbol .openParen, 1⟩, ⟨.name "f", 1⟩] [] [(.paren, 1)]
    (escapedLiteral.text ++ ([' '] ++ (rawLiteral.text ++ [')'])))
  have hname : (start "f('\\'\\x41' R\"\\d\")".toList).step =
      .ok (within 1 [⟨.name "f", 1⟩] [] [] "('\\'\\x41' R\"\\d\")".toList) := by
    with_unfolding_all rfl
  have hopen : (within 1 [⟨.name "f", 1⟩] [] [] "('\\'\\x41' R\"\\d\")".toList).step = .ok s := by
    with_unfolding_all rfl
  have hreached : (start "f('\\'\\x41' R\"\\d\")".toList).Reaches s :=
    .head ⟨List.cons_ne_nil _ _, hname⟩ (.single ⟨List.cons_ne_nil _ _, hopen⟩)
  have hspelled : Spelled (!s.brackets.isEmpty) [')'] [escapedLiteral, rawLiteral] s.rest :=
    .next (fun _ => nofun) (.blank (by decide) .nil) (.last fun _ => nofun)
  exact ⟨s, s, hreached, rfl, by decide, hspelled,
    literals_value_iff hreached rfl (by decide) hspelled⟩

/-- A plus sign and one digit are read as the code of a character, although there are no two
digits. -/
theorem signed_code_is_read : ∃ l : StringLiteral, l.text = "'\\x+f'".toList ∧
    tokenize "'\\x+f'" = .ok [⟨.str "\x0f" true, 1⟩, ⟨.newline, 1⟩, ⟨.endMarker, 1⟩] ∧
    ∀ value, l.HasValue HexCode value ↔ value = "\\x+f".toList := by
  let l : StringLiteral := {
    letters := []
    quote := '\''
    triple := false
    body := "\\x+f".toList
    accepted := ⟨by decide, List.forall_mem_nil _⟩
    quoted := .inr rfl
    enclosed := .escape 'x' (.char (by decide) (by decide) (by decide)
      (.char (by decide) (by decide) (by decide) .nil)) }
  have hvalue : Decodes HexCode "\\x+f".toList "\\x+f".toList := by
    have hescape : Escape HexCode 'x' ['+', 'f'] ['\\', 'x'] ['+', 'f'] := by
      refine .other (by decide) (by simp [shortEscapes]) fun count c known => ?_
      obtain rfl : count = 2 := by simpa [codeMarks] using known
      exact not_hexCode_plus
    exact .escape hescape (.char (by decide) (.char (by decide) .nil))
  refine ⟨l, rfl, ?_, fun value => ⟨fun h => ?_, ?_⟩⟩
  · rw [tokenize_eq_steps]
    with_unfolding_all rfl
  · exact Decodes.unique isCode_hexCode h hvalue
  · rintro rfl
    exact hvalue

end DeclaredSchema.Source
