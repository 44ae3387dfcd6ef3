import DeclaredSchema.Proofs.Source.StandingLines

/-! # Texts that more text follows

The lexer looks ahead, but never past the end of a line. So what it reads from whole lines it reads
whatever follows them (`reaches_followed`), but for a literal in triple quotes that they leave open;
and what it has read where a line begins is what it reads from the text up to there alone
(`exists_reaches_followed`).
-/

namespace DeclaredSchema.Source

/-- Nothing, or a text that ends where a line does. -/
def FullLines (cs : List Char) : Prop := cs = [] ∨ ['\n'] <:+ cs

section FullLines

variable {c : Char} {cs rest : List Char}

theorem FullLines.suffix (h : FullLines cs) (hrest : rest <:+ cs) : FullLines rest := by
  rcases h with rfl | hline
  · exact .inl (List.suffix_nil.mp hrest)
  · rcases List.suffix_or_suffix_of_suffix hline hrest with h | h
    · exact .inr h
    · rcases List.suffix_cons_iff.mp h with rfl | h
      · exact .inr List.suffix_rfl
      · exact .inl (List.suffix_nil.mp h)

theorem FullLines.mem (h : FullLines cs) (hne : cs ≠ []) : '\n' ∈ cs :=
  (h.resolve_left hne).mem List.mem_cons_self

/-- A line does not end with another character. -/
theorem FullLines.tail (h : FullLines (c :: cs)) (hc : c ≠ '\n') : '\n' ∈ cs :=
  (List.mem_cons.mp (h.mem (List.cons_ne_nil c cs))).resolve_left (Ne.symm hc)

end FullLines

namespace Lexer

/-! ## Readers that stop before a line end -/

section Readers

variable {cs : List Char} (more : List Char)

section Spans

variable {p : Char → Bool} (hp : p '\n' = false) (hline : '\n' ∈ cs)
include hp hline

theorem takeWhile_followed : (cs ++ more).takeWhile p = cs.takeWhile p := by
  induction cs with
  | nil => cases hline
  | cons c cs ih =>
      rw [List.cons_append, List.takeWhile_cons, List.takeWhile_cons]
      split
      · next hc =>
          have hne : '\n' ≠ c := by
            rintro rfl
            rw [hp] at hc
            cases hc
          rw [ih ((List.mem_cons.mp hline).resolve_left hne)]
      · rfl

theorem dropWhile_followed : (cs ++ more).dropWhile p = cs.dropWhile p ++ more := by
  have hwhole := List.takeWhile_append_dropWhile (p := p) (l := cs ++ more)
  rw [takeWhile_followed more hp hline] at hwhole
  refine List.append_cancel_left (hwhole.trans ?_)
  rw [← List.append_assoc, List.takeWhile_append_dropWhile]

end Spans

/-- A word without line ends is in front of both texts or of neither. -/
theorem isPrefixOf_followed {word : List Char} (hword : '\n' ∉ word) (hline : '\n' ∈ cs) :
    word.isPrefixOf (cs ++ more) = word.isPrefixOf cs := by
  induction word generalizing cs with
  | nil => simp [List.isPrefixOf]
  | cons w word ih =>
      rw [List.mem_cons, not_or] at hword
      cases cs with
      | nil => cases hline
      | cons c cs =>
          rw [List.cons_append, List.isPrefixOf, List.isPrefixOf]
          by_cases hc : w = c
          · rw [ih hword.2 ((List.mem_cons.mp hline).resolve_left (hc ▸ hword.1))]
          · rw [beq_false_of_ne hc, Bool.false_and, Bool.false_and]

theorem drop_followed {word : List Char} (h : word.isPrefixOf cs = true) :
    (cs ++ more).drop word.length = cs.drop word.length ++ more := by
  obtain ⟨rest, rfl⟩ := List.isPrefixOf_iff_prefix.mp h
  rw [List.append_assoc, List.drop_left, List.drop_left]

theorem indentation_followed (width : Nat) (hline : '\n' ∈ cs) :
    indentation width (cs ++ more) =
      ((indentation width cs).1, (indentation width cs).2 ++ more) := by
  fun_induction indentation width cs with
  | case1 width cs ih => exact ih ((List.mem_cons.mp hline).resolve_left (by decide))
  | case2 width cs ih => exact ih ((List.mem_cons.mp hline).resolve_left (by decide))
  | case3 width cs ih => exact ih ((List.mem_cons.mp hline).resolve_left (by decide))
  | case4 width cs hspace htab hfeed =>
      cases cs with
      | nil => cases hline
      | cons c cs =>
          exact indentation.eq_4 _ _ (fun r h => hspace cs (by rw [(List.cons.inj h).1]))
            (fun r h => htab cs (by rw [(List.cons.inj h).1]))
            (fun r h => hfeed cs (by rw [(List.cons.inj h).1]))

theorem decimalTail_followed (last : Char) (hline : '\n' ∈ cs) :
    decimalTail last (cs ++ more) =
      ((decimalTail last cs).1, (decimalTail last cs).2 ++ more) := by
  induction cs generalizing last with
  | nil => cases hline
  | cons c cs ih =>
      by_cases hc : c = '\n'
      · subst hc
        simp [decimalTail, Text.isAsciiDigit]
      · simp only [List.cons_append, decimalTail,
          ih c ((List.mem_cons.mp hline).resolve_left (Ne.symm hc))]
        split <;> rfl

theorem imaginaryTail_followed (hline : '\n' ∈ cs) :
    imaginaryTail (cs ++ more) = ((imaginaryTail cs).1, (imaginaryTail cs).2 ++ more) := by
  cases cs with
  | nil => cases hline
  | cons c cs =>
      by_cases hj : c = 'j' ∨ c = 'J'
      · rcases hj with rfl | rfl <;> rfl
      · rw [not_or] at hj
        simp [imaginaryTail, hj.1, hj.2]

theorem decimal_followed (c : Char) (hline : '\n' ∈ cs) :
    decimal c (cs ++ more) = ((decimal c cs).1, (decimal c cs).2 ++ more) := by
  have hrest : '\n' ∈ (decimalTail c cs).2 := by
    obtain ⟨happend, hbody⟩ := decimalTail_append c cs
    rw [happend] at hline
    exact (List.mem_append.mp hline).resolve_left hbody
  simp only [decimal, decimalTail_followed more c hline, imaginaryTail_followed more hrest]

theorem number_followed (c : Char) (hline : '\n' ∈ cs) :
    number c (cs ++ more) = ((number c cs).1, (number c cs).2 ++ more) := by
  cases cs with
  | nil => cases hline
  | cons mark cs =>
      rw [List.cons_append]
      simp only [number]
      split
      · next hradix =>
          have hmark : '\n' ≠ mark := by
            rintro rfl
            simp [isRadixMark] at hradix
          have hcs := (List.mem_cons.mp hline).resolve_left hmark
          rw [takeWhile_followed more rfl hcs, dropWhile_followed more rfl hcs]
      · exact decimal_followed more c hline

theorem head?_followed (hne : cs ≠ []) : (cs ++ more).head? = cs.head? := by
  obtain ⟨c, rest, rfl⟩ := List.exists_cons_of_ne_nil hne
  rfl

theorem joined?_followed (hline : '\n' ∈ cs) :
    joined? (cs ++ more) = (joined? cs).map (· ++ more) := by
  rcases cs with _ | ⟨c, _ | ⟨d, cs⟩⟩
  · cases hline
  · obtain rfl := List.mem_singleton.mp hline
    rfl
  · unfold joined?
    split <;> split <;> simp_all

theorem atFront?_followed (hline : '\n' ∈ cs) :
    Symbol.atFront? (cs ++ more) = Symbol.atFront? cs := by
  unfold Symbol.atFront?
  congr 1
  funext symbol
  exact isPrefixOf_followed more (not_mem_chars symbol).2 hline

/-! ## Escapes -/

theorem hexEscape_followed (mark : Char) (count : Nat) (hline : '\n' ∈ cs) :
    hexEscape mark count (cs ++ more) =
      ((hexEscape mark count cs).1, (hexEscape mark count cs).2 ++ more) := by
  rcases Nat.le_total count cs.length with hcount | hcount
  · have hcode : codePoint? count (cs ++ more) = codePoint? count cs := by
      rw [codePoint?, codePoint?, List.take_append_of_le_length hcount]
    unfold hexEscape
    rw [hcode, List.drop_append_of_le_length hcount]
    split <;> rfl
  · -- the code would go on over the line end
    have hmem : '\n' ∈ cs.take count := by rwa [List.take_of_length_le hcount]
    have hmem' : '\n' ∈ (cs ++ more).take count := by
      rw [List.take_append]
      exact List.mem_append_left _ hmem
    rw [hexEscape, hexEscape, codePoint?_of_mem hmem (by decide) (by decide),
      codePoint?_of_mem hmem' (by decide) (by decide)]

theorem escapeOrRaw_followed (raw : Bool) (next : Char) (hline : next = '\n' ∨ '\n' ∈ cs) :
    escapeOrRaw raw next (cs ++ more) =
      ((escapeOrRaw raw next cs).1, (escapeOrRaw raw next cs).2 ++ more) := by
  obtain ⟨image, -, hread⟩ | ⟨count, hnext, hread⟩ := escapeOrRaw_cases raw next
  · rw [hread, hread]
  · rw [hread, hread, hexEscape_followed more _ _ (hline.resolve_left hnext)]

/-! ## Literals -/

variable {quote : Char} (hquote : isQuote quote)
include hquote

theorem closing?_followed (triple : Bool) (hline : '\n' ∈ cs) :
    closing? quote triple (cs ++ more) = (closing? quote triple cs).map (· ++ more) := by
  have hmarks : '\n' ∉ closingMarks quote triple := by
    cases triple <;> simp [closingMarks, (isQuote_ne hquote).2]
  rw [closing?_eq, closing?_eq, isPrefixOf_followed more hmarks hline]
  split
  · next h => rw [drop_followed more h, Option.map_some]
  · rfl

omit hquote in
theorem length_stringBody?_lt {triple raw : Bool} {b : StringBody}
    (h : stringBody? quote triple raw cs = some b) : b.rest.length < cs.length := by
  fun_induction stringBody? quote triple raw cs generalizing b with
  | case1 cs rest hclose =>
      cases h
      exact length_closing?_lt hclose
  | case4 next rest _ ih =>
      obtain ⟨b', hb, rfl⟩ := Option.map_eq_some_iff.mp h
      have hrest := length_escapeOrRaw_le raw next rest
      have hlt := ih hb
      simp only [StringBody.after, List.length_cons]
      omega
  | case6 c rest _ _ _ _ ih =>
      obtain ⟨b', hb, rfl⟩ := Option.map_eq_some_iff.mp h
      have hlt : b'.rest.length < rest.length := ih hb
      exact Nat.lt_succ_of_lt hlt
  | _ => cases h

/-- How a body is read from whole lines, and from more text. -/
inductive SameEnd (more : List Char) : Option StringBody → Option StringBody → Prop
  | closed (b : StringBody) : SameEnd more (some b) (some { b with rest := b.rest ++ more })
  /-- It is closed in what follows, if at all. -/
  | open {b? : Option StringBody} (h : ∀ b ∈ b?, b.rest.length < more.length) :
      SameEnd more none b?

omit hquote in
theorem SameEnd.after {more : List Char} {b? b'? : Option StringBody}
    (h : SameEnd more b? b'?) (image : List Char) (c : Char) :
    SameEnd more (b?.map (·.after image c)) (b'?.map (·.after image c)) := by
  cases h with
  | closed b => exact .closed (b.after image c)
  | «open» h =>
      refine .open fun b hb => ?_
      obtain ⟨b', hb', rfl⟩ := Option.map_eq_some_iff.mp hb
      exact h b' hb'

/-- By induction on the reading of the whole lines. -/
theorem stringBody?_followed (triple raw : Bool) (whole : FullLines cs) :
    SameEnd more (stringBody? quote triple raw cs) (stringBody? quote triple raw (cs ++ more)) := by
  fun_induction stringBody? quote triple raw cs with
  | case1 cs rest hclose =>
      have hne : cs ≠ [] := by
        rintro rfl
        cases hclose
      have hclose' := closing?_followed more hquote triple (whole.mem hne)
      rw [hclose] at hclose'
      rw [stringBody?_of_closing? hclose']
      exact .closed ⟨[], 0, rest⟩
  | case2 => exact .open fun b hb => length_stringBody?_lt hb
  | case3 => exact absurd (whole.tail (by decide)) List.not_mem_nil
  | case4 next rest hopen ih =>
      have hopen' := closing?_followed more hquote triple (whole.mem (List.cons_ne_nil _ _))
      rw [hopen, Option.map_none, List.cons_append, List.cons_append] at hopen'
      have hline : next = '\n' ∨ '\n' ∈ rest :=
        (List.mem_cons.mp (whole.tail (by decide))).imp_left Eq.symm
      have hrest : FullLines (escapeOrRaw raw next rest).2 :=
        whole.suffix ((suffix_escapeOrRaw raw next rest).trans
          ((List.suffix_cons _ _).trans (List.suffix_cons _ _)))
      rw [List.cons_append, List.cons_append, stringBody?_backslash hopen',
        escapeOrRaw_followed more raw next hline]
      exact (ih hrest).after _ next
  | case5 c rest hlone hpair hline hopen =>
      obtain ⟨rfl, rfl⟩ : c = '\n' ∧ triple = false := by simpa using hline
      rw [List.cons_append, stringBody?_char
        (closing?_of_ne (isQuote_ne hquote).2 _) (by decide)]
      exact .open fun b hb => by cases hb
  | case6 c rest hlone hpair hline hopen ih =>
      have hslash : c ≠ '\\' := by
        rintro rfl
        cases rest with
        | nil => exact hlone rfl rfl
        | cons next rest => exact hpair next rest rfl rfl
      have hopen' := closing?_followed more hquote triple (whole.mem (List.cons_ne_nil _ _))
      rw [hopen, Option.map_none, List.cons_append] at hopen'
      rw [List.cons_append, stringBody?_char hopen' hslash, if_neg hline]
      exact (ih (whole.suffix (List.suffix_cons _ _))).after [c] c

theorem bodyBehind_followed (hline : '\n' ∈ cs) :
    isTriple quote (cs ++ more) = isTriple quote cs ∧
      bodyBehind quote (cs ++ more) = bodyBehind quote cs ++ more := by
  have hmarks : '\n' ∉ [quote, quote] := by simpa using (isQuote_ne hquote).2
  have htriple : isTriple quote (cs ++ more) = isTriple quote cs :=
    isPrefixOf_followed more hmarks hline
  refine ⟨htriple, ?_⟩
  unfold bodyBehind
  rw [htriple]
  split
  · next h =>
      have hdrop : (cs ++ more).drop [quote, quote].length =
          cs.drop [quote, quote].length ++ more := drop_followed more h
      exact hdrop
  · rfl

end Readers

/-! ## One step -/

/-- The same lexer before more text. -/
def followed (s : Lexer) (more : List Char) : Lexer := { s with rest := s.rest ++ more }

/-- What comes of a step in whole lines, and in more text. -/
inductive SameStep (more : List Char) :
    Except SyntaxError Lexer → Except SyntaxError Lexer → Prop
  | error (e : SyntaxError) : SameStep more (.error e) (.error e)
  | ok (t : Lexer) : SameStep more (.ok t) (.ok (t.followed more))
  /-- A literal that the lines leave open is closed in what follows, if at all. -/
  | open {e : SyntaxError} {result : Except SyntaxError Lexer}
      (h : ∀ t, result = .ok t → t.rest.length < more.length) : SameStep more (.error e) result

section Steps

variable {s : Lexer} {c : Char} {cs : List Char} (more rest : List Char)

theorem followed_readString {how : StringPrefix} {quote : Char} (hquote : isQuote quote)
    (whole : FullLines (quote :: cs)) :
    SameStep more (s.readString how quote cs)
      (readString { s with rest } how quote (cs ++ more)) := by
  obtain ⟨htriple, hbehind⟩ :=
    bodyBehind_followed more hquote (whole.tail (Ne.symm (isQuote_ne hquote).2))
  have hsuffix : bodyBehind quote cs <:+ quote :: cs :=
    (suffix_bodyBehind quote cs).trans (List.suffix_cons _ _)
  have hbody := stringBody?_followed more hquote (isTriple quote cs) how.raw (whole.suffix hsuffix)
  rw [readString_eq, readString_eq, htriple, hbehind]
  generalize stringBody? quote (isTriple quote cs) how.raw (bodyBehind quote cs) = b? at *
  generalize stringBody? quote (isTriple quote cs) how.raw (bodyBehind quote cs ++ more) = b'? at *
  cases hbody with
  | closed b => exact .ok { s with
      rest := b.rest
      line := s.line + b.lines
      done := pushString s.done b.value (!how.formatted && !how.bytes) s.line }
  | «open» h =>
      refine .open fun t ht => ?_
      split at ht
      · cases ht
      · next b =>
          cases ht
          exact h b rfl

theorem followed_readWord (whole : FullLines (c :: cs)) :
    SameStep more (s.readWord (c :: cs)) (readWord { s with rest } (c :: cs ++ more)) := by
  have hline := whole.mem (List.cons_ne_nil c cs)
  have htake := takeWhile_followed more (p := isWordPart) (by decide) hline
  have hdrop := dropWhile_followed more (p := isWordPart) (by decide) hline
  have hword : '\n' ∈ (c :: cs).dropWhile isWordPart := by
    obtain ⟨word, happend, hword⟩ := SameLine.dropWhile (p := isWordPart) (by decide) (c :: cs)
    rw [happend] at hline
    exact (List.mem_append.mp hline).resolve_left hword
  have hrest : FullLines ((c :: cs).dropWhile isWordPart) :=
    whole.suffix (List.dropWhile_suffix _)
  unfold readWord
  rw [htake, hdrop]
  generalize (c :: cs).takeWhile isWordPart = word at *
  generalize (c :: cs).dropWhile isWordPart = behind at *
  let named : Lexer := { s.push (.name (String.ofList word)) s.line with rest := behind }
  have hplain : SameStep more (.ok named) (.ok (named.followed more)) := .ok named
  cases behind with
  | nil => cases hword
  | cons quote body =>
      rw [List.cons_append]
      dsimp only
      cases stringPrefix? word with
      | none => exact hplain
      | some how =>
          dsimp only
          by_cases hquote : isQuote quote
          · rw [if_pos hquote, if_pos hquote]
            exact followed_readString more rest hquote hrest
          · rw [if_neg hquote, if_neg hquote]
            exact hplain

theorem followed_readSymbol (whole : FullLines (c :: cs)) :
    SameStep more (s.readSymbol c cs) (readSymbol { s with rest } c (cs ++ more)) := by
  have hline := whole.mem (List.cons_ne_nil c cs)
  have hfront := atFront?_followed more hline
  rw [List.cons_append] at hfront
  unfold readSymbol
  rw [hfront]
  cases hsymbol : Symbol.atFront? (c :: cs) with
  | none => exact .error _
  | some symbol =>
      have hdrop : (c :: (cs ++ more)).drop symbol.chars.length =
          (c :: cs).drop symbol.chars.length ++ more :=
        drop_followed more (List.isPrefixOf_iff_prefix.mpr (prefix_of_atFront? hsymbol))
      dsimp only
      rw [hdrop]
      cases symbol.opens? with
      | some b => exact .ok { s.push (.symbol symbol) s.line with
          rest := (c :: cs).drop symbol.chars.length, brackets := (b, s.line) :: s.brackets }
      | none =>
          cases symbol.closes? with
          | none => exact .ok { s.push (.symbol symbol) s.line with
              rest := (c :: cs).drop symbol.chars.length }
          | some b =>
              dsimp only
              cases s.brackets with
              | nil => exact .error _
              | cons opened outer =>
                  dsimp only
                  split
                  · exact .ok { s.push (.symbol symbol) s.line with
                      rest := (c :: cs).drop symbol.chars.length, brackets := outer }
                  · exact .error _

theorem followed_endLine :
    endLine { s with rest } (cs ++ more) = (s.endLine cs).followed more := by
  unfold endLine
  have hempty : lineIsEmpty { s with rest } = s.lineIsEmpty := rfl
  rw [hempty]
  split <;> rfl

theorem followed_readOne (whole : FullLines (c :: cs)) :
    SameStep more (s.readOne c cs) (readOne { s with rest } c (cs ++ more)) := by
  by_cases hlf : c = '\n'
  · subst hlf
    have hread : readOne { s with rest } '\n' (cs ++ more) =
        .ok (endLine { s with rest } (cs ++ more)) := rfl
    rw [hread, followed_endLine]
    exact .ok (s.endLine cs)
  have hline := whole.tail hlf
  have hstarts : startsNumber c (cs ++ more) = startsNumber c cs := by
    rw [startsNumber, startsNumber, head?_followed more (List.ne_nil_of_mem hline)]
  unfold readOne
  rw [hstarts, if_neg hlf, if_neg hlf]
  split
  · exact .ok { s with rest := cs }
  split
  · have hskip : skipComment (cs ++ more) = skipComment cs ++ more :=
      dropWhile_followed more rfl hline
    rw [hskip]
    exact .ok { s with rest := skipComment cs }
  split
  · rw [number_followed more c hline]
    exact .ok { s.push (.number (String.ofList (number c cs).1)) s.line with
      rest := (number c cs).2 }
  split
  · exact followed_readWord more rest whole
  split
  · next hquote => exact followed_readString more rest hquote whole
  rw [joined?_followed more hline]
  have hsymbol := followed_readSymbol (s := s) more rest whole
  cases joined? cs with
  | none => simpa using hsymbol
  | some behind =>
      by_cases hslash : c = '\\'
      · subst hslash
        exact .ok { s with rest := behind, line := s.line + 1 }
      · simpa [hslash] using hsymbol

/-- The blocks do not depend on the text. -/
theorem shiftBlocks_followed (width : Nat) :
    (∃ e, s.shiftBlocks width = .error e ∧ shiftBlocks { s with rest } width = .error e) ∨
    ∃ t, s.shiftBlocks width = .ok t ∧ t.rest = s.rest ∧
      shiftBlocks { s with rest } width = .ok { t with rest } := by
  unfold shiftBlocks
  dsimp only
  split
  · exact .inr ⟨_, rfl, rfl, rfl⟩
  split
  · split
    · exact .inr ⟨_, rfl, rfl, rfl⟩
    · exact .inl ⟨_, rfl, rfl⟩
  · exact .inr ⟨s, rfl, rfl, rfl⟩

theorem readLineStart_token {width : Nat} (h : indentation 0 s.rest = (width, c :: cs))
    (hcomment : c ≠ '#') (hlf : c ≠ '\n') (hcrlf : ∀ rest, c = '\r' → cs ≠ '\n' :: rest) :
    s.readLineStart =
      match shiftBlocks { s with rest := c :: cs, lineStart := false } width with
      | .error e => .error e
      | .ok s => s.readOne c cs := by
  rw [readLineStart, h]
  dsimp only
  split
  · next h => cases h
  · next h => exact absurd (List.cons.inj h).1 hcomment
  · next h => exact absurd (List.cons.inj h).1 hlf
  · next h => exact absurd (List.cons.inj h).2 (hcrlf _ (List.cons.inj h).1)
  · next h =>
      obtain ⟨rfl, rfl⟩ := List.cons.inj h
      rfl

theorem followed_readLineStart (whole : FullLines s.rest) (hne : s.rest ≠ []) :
    SameStep more s.readLineStart (s.followed more).readLineStart := by
  have hindent := indentation_followed more 0 (whole.mem hne)
  have hline : '\n' ∈ (indentation 0 s.rest).2 := by
    obtain ⟨blanks, happend, hblanks⟩ := sameLine_indentation 0 s.rest
    have hmem := whole.mem hne
    rw [happend] at hmem
    exact (List.mem_append.mp hmem).resolve_left hblanks
  have hbehind : FullLines (indentation 0 s.rest).2 := whole.suffix (suffix_indentation 0 s.rest)
  generalize hwidth : indentation 0 s.rest = measured at hindent hline hbehind
  obtain ⟨width, behind⟩ := measured
  have hindent' : indentation 0 (s.followed more).rest = (width, behind ++ more) := hindent
  cases behind with
  | nil => cases hline
  | cons c behind =>
      rw [List.cons_append] at hindent'
      by_cases hcomment : c = '#'
      · subst hcomment
        have hskip : skipComment (behind ++ more) = skipComment behind ++ more :=
          dropWhile_followed more rfl (hbehind.tail (by decide))
        rw [readLineStart_comment hwidth, readLineStart_comment hindent', hskip]
        exact .ok { s with rest := skipComment behind, lineStart := false }
      by_cases hlf : c = '\n'
      · subst hlf
        rw [readLineStart_lineFeed hwidth, readLineStart_lineFeed hindent']
        exact .ok { s with rest := behind, line := s.line + 1, lineStart := true }
      by_cases hcrlf : ∃ rest, c = '\r' ∧ behind = '\n' :: rest
      · obtain ⟨rest, rfl, rfl⟩ := hcrlf
        rw [readLineStart_crlf hwidth, readLineStart_crlf hindent']
        exact .ok { s with rest := rest, line := s.line + 1, lineStart := true }
      have hapart : ∀ rest, c = '\r' → behind ≠ '\n' :: rest := fun rest hc hrest =>
        hcrlf ⟨rest, hc, hrest⟩
      have hapart' : ∀ rest, c = '\r' → behind ++ more ≠ '\n' :: rest := by
        intro rest hc hrest
        obtain ⟨d, ds, rfl⟩ := List.exists_cons_of_ne_nil (List.ne_nil_of_mem (hbehind.tail hlf))
        exact hapart ds hc (by rw [(List.cons.inj hrest).1])
      rw [readLineStart_token hwidth hcomment hlf hapart,
        readLineStart_token hindent' hcomment hlf hapart']
      rcases shiftBlocks_followed (s := { s with rest := c :: behind, lineStart := false })
          (c :: (behind ++ more)) width with ⟨e, hs, ht⟩ | ⟨t, hs, -, ht⟩
      · have ht' : shiftBlocks { s.followed more with
            rest := c :: (behind ++ more), lineStart := false } width = .error e := ht
        rw [hs, ht']
        exact .error e
      · have ht' : shiftBlocks { s.followed more with
            rest := c :: (behind ++ more), lineStart := false } width =
              .ok { t with rest := c :: (behind ++ more) } := ht
        rw [hs, ht']
        exact followed_readOne more _ hbehind

theorem step_followed (whole : FullLines s.rest) (hne : s.rest ≠ []) :
    SameStep more s.step (s.followed more).step := by
  obtain ⟨c, cs, hcs⟩ := List.exists_cons_of_ne_nil hne
  unfold step
  have hstart : (s.followed more).lineStart = s.lineStart := rfl
  have hbrackets : (s.followed more).brackets = s.brackets := rfl
  have hrest : (s.followed more).rest = c :: (cs ++ more) := by
    rw [followed, hcs]
    rfl
  rw [hstart, hbrackets, hrest, hcs]
  split
  · exact followed_readLineStart more whole hne
  · exact followed_readOne more _ (hcs ▸ whole)

end Steps

/-! ## Runs -/

section Runs

variable {s t u : Lexer} {c : Char} {cs more : List Char}

theorem suffix_of_step (hs : s.AtRest) (hne : s.rest ≠ []) (h : s.step = .ok t) :
    t.rest <:+ s.rest := by
  obtain ⟨piece, hpiece, -⟩ := (taken_of_step hs hne h).counted
  obtain ⟨blanks, hblanks, -⟩ := sameLine_ahead s
  exact ⟨blanks ++ piece, by rw [List.append_assoc, ← hpiece, ← hblanks]⟩

theorem Reaches.suffix (h : s.Reaches t) (hs : s.AtRest) : t.rest <:+ s.rest := by
  induction h with
  | refl => exact List.suffix_rfl
  | tail hreaches hstep ih =>
      exact (suffix_of_step (Reaches.atRest hreaches hs) hstep.1 hstep.2).trans ih

theorem reaches_of_steps {n : Nat} (h : steps n s = .ok t) : s.Reaches t := by
  induction n generalizing s with
  | zero =>
      cases h
      exact .refl
  | succ n ih =>
      rw [steps] at h
      split at h
      · cases h
        exact .refl
      · next hne =>
          cases hstep : s.step with
          | error e =>
              rw [hstep] at h
              cases h
          | ok u =>
              rw [hstep] at h
              exact .head ⟨hne, hstep⟩ (ih h)

/-- What is read from whole lines is read from them whatever follows. -/
theorem reaches_followed (h : s.Reaches t) (hs : s.AtRest) (whole : FullLines s.rest)
    (more : List Char) : (s.followed more).Reaches (t.followed more) := by
  induction h with
  | refl => exact .refl
  | @tail u t hreaches hstep ih =>
      have hwhole := whole.suffix (Reaches.suffix hreaches hs)
      have hsame := step_followed more hwhole hstep.1
      rw [hstep.2] at hsame
      refine ih.tail ⟨List.append_ne_nil_of_left_ne_nil hstep.1 more, ?_⟩
      generalize (u.followed more).step = result at hsame ⊢
      cases hsame
      rfl

/-- What has been read while the text that follows was not touched is read from the whole lines
alone. By induction on the run. -/
theorem exists_reaches_followed (hs : s.AtRest) (whole : FullLines s.rest)
    (h : (s.followed more).Reaches u) (hmore : more <:+ u.rest) :
    ∃ t, s.Reaches t ∧ u = t.followed more := by
  generalize hv : s.followed more = v at h
  induction h using Relation.ReflTransGen.head_induction_on generalizing s with
  | refl => exact ⟨s, .refl, hv.symm⟩
  | @head v w hstep hreaches ih =>
      subst hv
      have hfollowed : (s.followed more).AtRest := hs
      have hlength : more.length ≤ w.rest.length :=
        (hmore.trans (Reaches.suffix hreaches
          ((moves_of_step hfollowed hstep.2).atRest hfollowed))).length_le
      have hne : s.rest ≠ [] := by
        intro hnil
        have hlt := length_step_lt hstep.2 hstep.1
        rw [followed, hnil, List.nil_append] at hlt
        exact absurd hlt (Nat.not_lt.mpr hlength)
      have hsame := step_followed more whole hne
      rw [hstep.2] at hsame
      generalize hresult : s.step = result at hsame
      cases hsame with
      | ok x =>
          obtain ⟨t, ht, rfl⟩ := ih ((moves_of_step hs hresult).atRest hs)
            (whole.suffix (suffix_of_step hs hne hresult)) rfl
          exact ⟨t, .head ⟨hne, hresult⟩ ht, rfl⟩
      | «open» hopen => exact absurd (hopen w rfl) (Nat.not_lt.mpr hlength)

/-! ## Where a line begins -/

theorem lineStart_readString {how : StringPrefix} {quote : Char}
    (h : s.readString how quote cs = .ok t) : t.lineStart = s.lineStart := by
  rw [readString_eq] at h
  split at h <;> cases h
  rfl

theorem lineStart_readWord (h : s.readWord cs = .ok t) : t.lineStart = s.lineStart := by
  unfold readWord at h
  dsimp only at h
  split at h
  · split at h
    · exact lineStart_readString h
    · cases h
      rfl
  · cases h
    rfl

theorem lineStart_readSymbol (h : s.readSymbol c cs = .ok t) : t.lineStart = s.lineStart := by
  unfold readSymbol at h
  split at h
  · cases h
  dsimp only at h
  split at h
  · cases h
    rfl
  · split at h
    · cases h
    · split at h <;> cases h
      rfl
  · cases h
    rfl

/-- Only the end of a line makes another one begin. -/
theorem lineStart_readOne (hc : c ≠ '\n') (h : s.readOne c cs = .ok t) :
    t.lineStart = s.lineStart := by
  unfold readOne at h
  rw [if_neg hc] at h
  split at h
  · cases h
    rfl
  split at h
  · cases h
    rfl
  split at h
  · cases h
    rfl
  split at h
  · exact lineStart_readWord h
  split at h
  · exact lineStart_readString h
  split at h
  · cases h
    rfl
  · exact lineStart_readSymbol h

theorem lineEnd_of_step (hs : s.AtRest) (hne : s.rest ≠ []) (h : s.step = .ok t)
    (start : t.lineStart = true) : ['\n'] ++ t.rest <:+ s.rest := by
  cases hstart : s.lineStart with
  | false =>
      obtain ⟨c, cs, hcs⟩ := List.exists_cons_of_ne_nil hne
      rw [step_of_begun hstart hcs] at h
      by_cases hc : c = '\n'
      · subst hc
        cases h
        exact hcs ▸ List.suffix_rfl
      · rw [lineStart_readOne hc h, hstart] at start
        cases start
  | true =>
      have hblanks := suffix_indentation 0 s.rest
      rw [step, hstart, (hs hstart).1] at h
      change s.readLineStart = .ok t at h
      unfold readLineStart at h
      dsimp only at h
      split at h
      · cases h
        cases start
      · cases h
        cases start
      · next more hrest =>
          cases h
          rw [hrest] at hblanks
          exact hblanks
      · next more hrest =>
          cases h
          rw [hrest] at hblanks
          exact (List.suffix_cons _ _).trans hblanks
      · next hlf _ _ =>
          split at h
          · cases h
          · next u hshift =>
              rw [lineStart_readOne hlf h, lineStart_shiftBlocks hshift] at start
              cases start

/-- Where a line begins whole lines have been read. -/
theorem fullLines_of_reaches (h : s.Reaches t) (hs : s.AtRest) (start : t.lineStart = true) :
    ∃ lines, s.rest = lines ++ t.rest ∧ FullLines lines := by
  cases h with
  | refl => exact ⟨[], rfl, .inl rfl⟩
  | tail hreaches hstep =>
      obtain ⟨piece, hpiece⟩ :=
        lineEnd_of_step (Reaches.atRest hreaches hs) hstep.1 hstep.2 start
      obtain ⟨front, hfront⟩ := Reaches.suffix hreaches hs
      refine ⟨front ++ (piece ++ ['\n']), ?_, .inr ⟨front ++ piece, List.append_assoc _ _ _⟩⟩
      rw [List.append_assoc, List.append_assoc, hpiece, hfront]

end Runs

end Lexer

end DeclaredSchema.Source
