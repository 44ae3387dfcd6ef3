import Mathlib.Data.List.Basic
import DeclaredSchema.Proofs.Source.Lexing

/-! # Texts whose lines end in a carriage return and a line feed

`crlf` writes a text the way it is stored where a line ends in two characters. The readers of the
lexer that stop before a line end do not see the difference: each of them reads the same from both
texts and leaves the same behind. A string literal is the exception. Where one runs over `k` line
ends, it is refused in single quotes, and in triple quotes its value has `k` carriage returns more.
-/

namespace DeclaredSchema.Source

/-- A text with a carriage return before every line feed. -/
def crlf (cs : List Char) : List Char := cs.flatMap fun c => if c = '\n' then ['\r', '\n'] else [c]

@[simp] theorem crlf_nil : crlf [] = [] := rfl

@[simp] theorem crlf_lineFeed (cs : List Char) : crlf ('\n' :: cs) = '\r' :: '\n' :: crlf cs := rfl

theorem crlf_cons {c : Char} (hc : c ≠ '\n') (cs : List Char) : crlf (c :: cs) = c :: crlf cs := by
  simp [crlf, hc]

theorem crlf_append (cs ds : List Char) : crlf (cs ++ ds) = crlf cs ++ crlf ds :=
  List.flatMap_append

theorem crlf_of_not_mem {cs : List Char} (h : '\n' ∉ cs) : crlf cs = cs := by
  induction cs with
  | nil => rfl
  | cons c cs ih =>
      rw [List.mem_cons, not_or] at h
      rw [crlf_cons (Ne.symm h.1), ih h.2]

namespace Lexer

/-! ## Readers that stop before a line end -/

section Spans

variable {p : Char → Bool} (hcr : p '\r' = false) (hlf : p '\n' = false)
include hcr hlf

theorem takeWhile_crlf (cs : List Char) : (crlf cs).takeWhile p = cs.takeWhile p := by
  induction cs with
  | nil => rfl
  | cons c cs ih =>
      by_cases hc : c = '\n'
      · simp [hc, hcr, hlf]
      · simp only [crlf_cons hc, List.takeWhile_cons, ih]

theorem dropWhile_crlf (cs : List Char) : (crlf cs).dropWhile p = crlf (cs.dropWhile p) := by
  induction cs with
  | nil => rfl
  | cons c cs ih =>
      by_cases hc : c = '\n'
      · simp [hc, hcr, hlf]
      · simp only [crlf_cons hc, List.dropWhile_cons, ih]
        split
        · rfl
        · rw [crlf_cons hc]

omit hcr hlf in
/-- What is tested of the character in front only. -/
theorem any_head?_crlf (hline : p '\r' = p '\n') (cs : List Char) :
    (crlf cs).head?.any p = cs.head?.any p := by
  cases cs with
  | nil => rfl
  | cons c cs =>
      by_cases hc : c = '\n'
      · simp [hc, hline]
      · simp [crlf_cons hc]

end Spans

/-- A word without line ends is in front of both texts or of neither. -/
theorem isPrefixOf_crlf {word : List Char} (hcr : '\r' ∉ word) (hlf : '\n' ∉ word)
    (cs : List Char) : word.isPrefixOf (crlf cs) = word.isPrefixOf cs := by
  induction word generalizing cs with
  | nil => simp [List.isPrefixOf]
  | cons w word ih =>
      rw [List.mem_cons, not_or] at hcr hlf
      cases cs with
      | nil => rfl
      | cons c cs =>
          by_cases hc : c = '\n'
          · simp [hc, List.isPrefixOf, beq_false_of_ne (Ne.symm hcr.1),
              beq_false_of_ne (Ne.symm hlf.1)]
          · rw [crlf_cons hc, List.isPrefixOf, List.isPrefixOf, ih hcr.2 hlf.2]

theorem drop_crlf {word cs : List Char} (hlf : '\n' ∉ word) (h : word.isPrefixOf cs) :
    (crlf cs).drop word.length = crlf (cs.drop word.length) := by
  obtain ⟨rest, rfl⟩ := List.isPrefixOf_iff_prefix.mp h
  rw [crlf_append, crlf_of_not_mem hlf, List.drop_left, List.drop_left]

theorem indentation_crlf (width : Nat) (cs : List Char) :
    indentation width (crlf cs) = ((indentation width cs).1, crlf (indentation width cs).2) := by
  fun_induction indentation width cs with
  | case1 width cs ih => rw [crlf_cons (by decide), indentation, ih]
  | case2 width cs ih => rw [crlf_cons (by decide), indentation, ih]
  | case3 width cs ih => rw [crlf_cons (by decide), indentation, ih]
  | case4 width cs hspace htab hfeed =>
      cases cs with
      | nil => rfl
      | cons c cs =>
          by_cases hc : c = '\n'
          · subst hc
            rfl
          · rw [crlf_cons hc]
            exact indentation.eq_4 _ _ (fun r h => hspace cs (by rw [(List.cons.inj h).1]))
              (fun r h => htab cs (by rw [(List.cons.inj h).1]))
              (fun r h => hfeed cs (by rw [(List.cons.inj h).1]))

theorem decimalTail_crlf (last : Char) (cs : List Char) :
    decimalTail last (crlf cs) = ((decimalTail last cs).1, crlf (decimalTail last cs).2) := by
  induction cs generalizing last with
  | nil => rfl
  | cons c cs ih =>
      by_cases hc : c = '\n'
      · subst hc
        simp [decimalTail, Text.isAsciiDigit]
      · simp only [crlf_cons hc, decimalTail, ih]
        split
        · rfl
        · rw [crlf_cons hc]

theorem imaginaryTail_crlf (cs : List Char) :
    imaginaryTail (crlf cs) = ((imaginaryTail cs).1, crlf (imaginaryTail cs).2) := by
  cases cs with
  | nil => rfl
  | cons c cs =>
      by_cases hc : c = '\n'
      · subst hc
        rfl
      · by_cases hj : c = 'j' ∨ c = 'J'
        · rcases hj with rfl | rfl <;> rfl
        · rw [not_or] at hj
          simp [crlf_cons hc, imaginaryTail, hj.1, hj.2]

theorem decimal_crlf (c : Char) (cs : List Char) :
    decimal c (crlf cs) = ((decimal c cs).1, crlf (decimal c cs).2) := by
  simp only [decimal, decimalTail_crlf, imaginaryTail_crlf]

theorem number_crlf (c : Char) (cs : List Char) :
    number c (crlf cs) = ((number c cs).1, crlf (number c cs).2) := by
  cases cs with
  | nil => rfl
  | cons mark cs =>
      by_cases hm : mark = '\n'
      · subst hm
        have hr : isRadixMark '\r' = false := rfl
        have hn : isRadixMark '\n' = false := rfl
        simp only [crlf_lineFeed, number, hr, hn, Bool.and_false]
        exact decimal_crlf c ('\n' :: cs)
      · rw [crlf_cons hm]
        simp only [number, takeWhile_crlf (p := fun d => Text.isHexDigit d || d = '_') rfl rfl,
          dropWhile_crlf (p := fun d => Text.isHexDigit d || d = '_') rfl rfl]
        split
        · rfl
        · rw [← crlf_cons hm]
          exact decimal_crlf c (mark :: cs)

theorem startsNumber_crlf (c : Char) (cs : List Char) :
    startsNumber c (crlf cs) = startsNumber c cs := by
  rw [startsNumber, startsNumber, any_head?_crlf (by decide)]

/-- The end of a line behind a backslash is one or two characters, and both are taken. -/
theorem joined?_crlf {cs : List Char} (hcr : '\r' ∉ cs) :
    joined? (crlf cs) = (joined? cs).map crlf := by
  cases cs with
  | nil => rfl
  | cons c cs =>
      by_cases hc : c = '\n'
      · subst hc
        rfl
      · have hne : c ≠ '\r' := fun h => hcr (h ▸ List.mem_cons_self)
        rw [crlf_cons hc]
        unfold joined?
        split <;> split <;> simp_all

theorem not_mem_chars (symbol : Symbol) : '\r' ∉ symbol.chars ∧ '\n' ∉ symbol.chars := by
  cases symbol <;> decide

theorem atFront?_crlf (cs : List Char) : Symbol.atFront? (crlf cs) = Symbol.atFront? cs := by
  unfold Symbol.atFront?
  congr 1
  funext symbol
  exact isPrefixOf_crlf (not_mem_chars symbol).1 (not_mem_chars symbol).2 cs

/-! ## Escapes -/

/-- A code is made of hexadecimal digits, so it ends before the line does. -/
theorem codePoint?_of_mem {count : Nat} {cs : List Char} {c : Char} (hmem : c ∈ cs.take count)
    (hplus : c ≠ '+') (hhex : Text.isHexDigit c = false) : codePoint? count cs = none := by
  unfold codePoint?
  simp only
  rw [if_neg]
  intro h
  have hdigit := List.all_eq_true.mp (Bool.and_eq_true_iff.mp h).2
  split at hdigit
  · next more htake =>
      rw [htake, List.mem_cons] at hmem
      rw [hdigit c (hmem.resolve_left hplus)] at hhex
      cases hhex
  · rw [hdigit c hmem] at hhex
    cases hhex

/-- So many characters at the front are the same in both texts, or a line ends among them. -/
theorem take_crlf (count : Nat) (cs : List Char) :
    ((crlf cs).take count = cs.take count ∧ (crlf cs).drop count = crlf (cs.drop count)) ∨
      ('\n' ∈ cs.take count ∧ '\r' ∈ (crlf cs).take count) := by
  induction count generalizing cs with
  | zero => simp
  | succ count ih =>
      cases cs with
      | nil => simp
      | cons c cs =>
          by_cases hc : c = '\n'
          · simp [hc]
          · rw [crlf_cons hc]
            rcases ih cs with ⟨htake, hdrop⟩ | ⟨hlf, hcr⟩
            · exact .inl ⟨by simp [htake], by simpa using hdrop⟩
            · exact .inr ⟨by simp [hlf], by simp [hcr]⟩

theorem hexEscape_crlf (mark : Char) (count : Nat) (cs : List Char) :
    hexEscape mark count (crlf cs) =
      ((hexEscape mark count cs).1, crlf (hexEscape mark count cs).2) := by
  rcases take_crlf count cs with ⟨htake, hdrop⟩ | ⟨hlf, hcr⟩
  · have hcode : codePoint? count (crlf cs) = codePoint? count cs := by
      rw [codePoint?, codePoint?, htake]
    unfold hexEscape
    rw [hcode, hdrop]
    split <;> rfl
  · rw [hexEscape, hexEscape, codePoint?_of_mem hlf (by decide) (by decide),
      codePoint?_of_mem hcr (by decide) (by decide)]

theorem escapeOrRaw_crlf (raw : Bool) (next : Char) (cs : List Char) :
    escapeOrRaw raw next (crlf cs) =
      ((escapeOrRaw raw next cs).1, crlf (escapeOrRaw raw next cs).2) := by
  obtain ⟨image, -, hread⟩ | ⟨count, -, hread⟩ := escapeOrRaw_cases raw next
  · rw [hread, hread]
  · rw [hread, hread, hexEscape_crlf]

theorem suffix_escapeOrRaw (raw : Bool) (next : Char) (cs : List Char) :
    (escapeOrRaw raw next cs).2 <:+ cs := by
  obtain ⟨image, -, hread⟩ | ⟨count, -, hread⟩ := escapeOrRaw_cases raw next
  · rewrite [hread]
    exact List.suffix_rfl
  · rewrite [hread, hexEscape]
    split
    · exact List.drop_suffix count cs
    · exact List.suffix_rfl

/-! ## Literals -/

/-- The quotes that close a literal. -/
def closingMarks (quote : Char) (triple : Bool) : List Char :=
  if triple then [quote, quote, quote] else [quote]

theorem closing?_eq (quote : Char) (triple : Bool) (cs : List Char) :
    closing? quote triple cs =
      if (closingMarks quote triple).isPrefixOf cs
      then some (cs.drop (closingMarks quote triple).length) else none := by
  rcases cs with _ | ⟨a, _ | ⟨b, _ | ⟨c, rest⟩⟩⟩ <;> cases triple <;>
    grind [closing?, closingMarks, List.isPrefixOf]

variable {quote : Char}

theorem isQuote_ne (hquote : isQuote quote) : '\r' ≠ quote ∧ '\n' ≠ quote := by
  constructor <;> rintro rfl <;> exact absurd hquote (by decide)

theorem closing?_crlf (hquote : isQuote quote) (triple : Bool) (cs : List Char) :
    closing? quote triple (crlf cs) = (closing? quote triple cs).map crlf := by
  obtain ⟨hcr, hlf⟩ := isQuote_ne hquote
  have hmarks : '\r' ∉ closingMarks quote triple ∧ '\n' ∉ closingMarks quote triple := by
    cases triple <;> simp [closingMarks, hcr, hlf]
  rw [closing?_eq, closing?_eq, isPrefixOf_crlf hmarks.1 hmarks.2]
  split
  · next h => rw [drop_crlf hmarks.2 h, Option.map_some]
  · rfl

/-- A value that has so many carriage returns more than another, and is the same if it has none
more. -/
def Returned (more : Nat) (value crlfValue : List Char) : Prop :=
  crlfValue.count '\r' = value.count '\r' + more ∧ (more = 0 → crlfValue = value)

theorem Returned.refl (value : List Char) : Returned 0 value value := ⟨rfl, fun _ => rfl⟩

theorem Returned.append {m n : Nat} {v v' w w' : List Char} (hv : Returned m v v')
    (hw : Returned n w w') : Returned (m + n) (v ++ w) (v' ++ w') := by
  refine ⟨?_, fun h => ?_⟩
  · rw [List.count_append, List.count_append, hv.1, hw.1]
    omega
  · rw [hv.2 (by omega), hw.2 (by omega)]

/-- How the two texts of a literal's body are read. -/
inductive SameBody (triple : Bool) : Option StringBody → Option StringBody → Prop
  /-- It is not closed in either. -/
  | open : SameBody triple none none
  /-- It is closed at the same place, and every line end it crosses adds a carriage return. -/
  | closed (b : StringBody) (value : List Char) (hline : triple = true ∨ b.lines = 0)
      (hvalue : Returned b.lines b.value value) :
      SameBody triple (some b) (some ⟨value, b.lines, crlf b.rest⟩)
  /-- In single quotes no line end is crossed once it is two characters. -/
  | broken {b : StringBody} (hline : triple = false) (hcrossed : 0 < b.lines) :
      SameBody triple (some b) none

namespace SameBody

variable {triple : Bool} {b b' : Option StringBody} {image image' : List Char}

/-- A piece within a line is put before both bodies. -/
theorem within (h : SameBody triple b b') {c : Char} (hc : c ≠ '\n') :
    SameBody triple (b.map (·.after image c)) (b'.map (·.after image c)) := by
  cases h with
  | «open» => exact .open
  | closed b value hline hvalue =>
      have hlines : (b.after image c).lines = b.lines := by simp [StringBody.after, hc]
      have hafter := (Returned.refl image).append hvalue
      rw [Nat.zero_add] at hafter
      exact .closed (b.after image c) (image ++ value) (hlines ▸ hline) (hlines ▸ hafter)
  | @broken b hline hcrossed =>
      exact .broken hline (by simpa [StringBody.after, hc] using hcrossed)

/-- A line end in triple quotes is put before both bodies. -/
theorem across (h : SameBody true b b') (himage : Returned 1 image image') :
    SameBody true (b.map (·.after image '\n')) (b'.map (·.after image' '\n')) := by
  cases h with
  | «open» => exact .open
  | closed b value hline hvalue =>
      refine .closed (b.after image '\n') (image' ++ value) (.inl rfl) ?_
      have hlines : (b.after image '\n').lines = 1 + b.lines := Nat.add_comm _ _
      rw [hlines]
      exact himage.append hvalue
  | broken hline _ => cases hline

/-- Behind an escaped line end in single quotes the other body meets a line end of its own. -/
theorem cut (b : Option StringBody) : SameBody false (b.map (·.after image '\n')) none := by
  cases b with
  | none => exact .open
  | some b => exact .broken rfl (by simp [StringBody.after])

end SameBody

theorem stringBody?_crlf (hquote : isQuote quote) (triple raw : Bool) {cs : List Char}
    (hcr : '\r' ∉ cs) :
    SameBody triple (stringBody? quote triple raw cs) (stringBody? quote triple raw (crlf cs)) := by
  obtain ⟨hqcr, hqlf⟩ := isQuote_ne hquote
  have hopens {cs : List Char} (h : closing? quote triple cs = none) :
      closing? quote triple (crlf cs) = none := by
    rw [closing?_crlf hquote, h, Option.map_none]
  fun_induction stringBody? quote triple raw cs with
  | case1 cs rest hclose =>
      have hclose' : closing? quote triple (crlf cs) = some (crlf rest) := by
        rw [closing?_crlf hquote, hclose, Option.map_some]
      rw [stringBody?_of_closing? hclose']
      exact .closed ⟨[], 0, rest⟩ [] (.inr rfl) (Returned.refl [])
  | case2 =>
      rw [stringBody?.eq_def]
      exact .open
  | case3 hopen =>
      rw [crlf_cons (by decide), crlf_nil, stringBody?.eq_def, hopen]
      exact .open
  | case4 next more hopen ih =>
      have hopen' := hopens hopen
      have hmore : '\r' ∉ (escapeOrRaw raw next more).2 := fun h =>
        hcr (.tail _ (.tail _ ((suffix_escapeOrRaw raw next more).subset h)))
      rw [crlf_cons (by decide)] at hopen' ⊢
      by_cases hnext : next = '\n'
      · subst hnext
        have hcarriage : escapeOrRaw raw '\r' ('\n' :: crlf more) =
            (['\\', '\r'], '\n' :: crlf more) := by cases raw <;> rfl
        have hescaped : (escapeOrRaw raw '\n' more).2 = more := by cases raw <;> rfl
        rw [crlf_lineFeed] at hopen' ⊢
        rw [stringBody?_backslash hopen', hcarriage,
          stringBody?_char (closing?_of_ne hqlf _) (by decide)]
        cases triple with
        | false => exact .cut _
        | true =>
            have himage : Returned 1 (escapeOrRaw raw '\n' more).1 ['\\', '\r', '\n'] := by
              cases raw <;> simp [Returned, escapeOrRaw, escape]
            have hbody := (ih hmore).across himage
            rw [hescaped] at hbody ⊢
            simpa [StringBody.after, Function.comp_def] using hbody
      · rw [crlf_cons hnext] at hopen' ⊢
        rw [stringBody?_backslash hopen', escapeOrRaw_crlf raw next]
        exact (ih hmore).within hnext
  | case5 c more hlone hpair hline hopen =>
      obtain ⟨rfl, rfl⟩ : c = '\n' ∧ triple = false := by simpa using hline
      rw [crlf_lineFeed, stringBody?_char (closing?_of_ne hqcr _) (by decide),
        stringBody?_char (closing?_of_ne hqlf _) (by decide)]
      exact .open
  | case6 c more hlone hpair hline hopen ih =>
      have hopen' := hopens hopen
      have hbody := ih fun h => hcr (.tail _ h)
      have hslash : c ≠ '\\' := by
        rintro rfl
        cases more with
        | nil => exact hlone rfl rfl
        | cons next more => exact hpair next more rfl rfl
      by_cases hc : c = '\n'
      · subst hc
        have htriple : triple = true := by simpa using hline
        subst htriple
        have himage : Returned 1 ['\n'] ['\r', '\n'] := by simp [Returned]
        rw [crlf_lineFeed, stringBody?_char (closing?_of_ne hqcr _) (by decide),
          stringBody?_char (closing?_of_ne hqlf _) (by decide)]
        simpa [StringBody.after, Function.comp_def] using hbody.across himage
      · rw [crlf_cons hc] at hopen' ⊢
        rw [stringBody?_char hopen' hslash]
        simpa [hc] using hbody.within hc

/-! ## What is left is the end of the text -/

theorem suffix_indentation (width : Nat) (cs : List Char) : (indentation width cs).2 <:+ cs := by
  fun_induction indentation width cs with
  | case4 => exact List.suffix_rfl
  | _ => rename_i ih; exact ih.trans (List.suffix_cons _ _)

theorem suffix_decimalTail (last : Char) (cs : List Char) : (decimalTail last cs).2 <:+ cs := by
  induction cs generalizing last with
  | nil => exact List.suffix_rfl
  | cons c cs ih =>
      simp only [decimalTail]
      split
      · exact (ih c).trans (List.suffix_cons c cs)
      · exact List.suffix_rfl

theorem suffix_imaginaryTail (cs : List Char) : (imaginaryTail cs).2 <:+ cs := by
  unfold imaginaryTail
  split
  · exact List.suffix_cons _ _
  · exact List.suffix_cons _ _
  · exact List.suffix_rfl

theorem suffix_number (c : Char) (cs : List Char) : (number c cs).2 <:+ cs := by
  have hdecimal (cs : List Char) : (decimal c cs).2 <:+ cs :=
    (suffix_imaginaryTail _).trans (suffix_decimalTail c cs)
  unfold number
  split
  · split
    · exact (List.dropWhile_suffix _).trans (List.suffix_cons _ _)
    · exact hdecimal _
  · exact List.nil_suffix

theorem suffix_joined? {cs rest : List Char} (h : joined? cs = some rest) : rest <:+ cs := by
  unfold joined? at h
  split at h
  · exact Option.some.inj h ▸ List.suffix_cons _ _
  · exact Option.some.inj h ▸ (List.suffix_cons _ _).trans (List.suffix_cons _ _)
  · cases h

theorem suffix_stringBody? {quote : Char} {triple raw : Bool} {cs : List Char} {b : StringBody}
    (h : stringBody? quote triple raw cs = some b) : b.rest <:+ cs := by
  fun_induction stringBody? quote triple raw cs generalizing b with
  | case1 cs rest hclose =>
      rw [closing?_eq] at hclose
      split at hclose
      · cases h
        exact Option.some.inj hclose ▸ List.drop_suffix _ _
      · cases hclose
  | case4 next more _ ih =>
      obtain ⟨b', hb, rfl⟩ := Option.map_eq_some_iff.mp h
      exact ((ih hb).trans (suffix_escapeOrRaw raw next more)).trans
        ((List.suffix_cons _ _).trans (List.suffix_cons _ _))
  | case6 c more _ _ _ _ ih =>
      obtain ⟨b', hb, rfl⟩ := Option.map_eq_some_iff.mp h
      exact (ih hb).trans (List.suffix_cons _ _)
  | _ => cases h

end Lexer

end DeclaredSchema.Source
