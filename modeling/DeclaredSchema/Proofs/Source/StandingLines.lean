import DeclaredSchema.Proofs.Source.StringLiterals

/-! # The lines that tokens and faults stand on

A place in a text is given by the text from there on, and stands on the line that the line ends in
front of it count to (`StandsOn`). Every step of the lexer counts the line ends it takes off the
text (`taken_of_step`). So a token is numbered with the line of the place it is read at, and a fault
with the line where what is wrong begins (`lines_are_exact`).
-/

namespace DeclaredSchema.Source

/-- A place is on the line that is counted from one by the line ends in front of it. -/
def StandsOn (text place : List Char) (line : Nat) : Prop :=
  ∃ before, text = before ++ place ∧ line = before.count '\n' + 1

/-- A later place within the line of the first. -/
def SameLine (place later : List Char) : Prop := ∃ piece, place = piece ++ later ∧ '\n' ∉ piece

section Places

variable {text place later front : List Char} {line : Nat}

theorem StandsOn.behind {piece : List Char} (h : StandsOn text (piece ++ later) line) :
    StandsOn text later (line + piece.count '\n') := by
  obtain ⟨before, rfl, rfl⟩ := h
  refine ⟨before ++ piece, (List.append_assoc _ _ _).symm, ?_⟩
  rw [List.count_append]
  omega

theorem StandsOn.sameLine (h : StandsOn text place line) (hlater : SameLine place later) :
    StandsOn text later line := by
  obtain ⟨piece, rfl, hpiece⟩ := hlater
  have hbehind := h.behind
  rwa [List.count_eq_zero.mpr hpiece] at hbehind

/-- Later places stand on later lines. -/
theorem StandsOn.le {n : Nat} (h : StandsOn text place line) (hn : StandsOn text later n)
    (hlater : later <:+ place) : line ≤ n := by
  obtain ⟨piece, rfl⟩ := hlater
  obtain ⟨before, htext, rfl⟩ := hn
  obtain ⟨before', rfl, rfl⟩ := h
  rw [← List.append_assoc] at htext
  rw [← List.append_cancel_right htext, List.count_append]
  omega

theorem SameLine.refl (place : List Char) : SameLine place place := ⟨[], rfl, List.not_mem_nil⟩

theorem SameLine.cons {c : Char} (hc : c ≠ '\n') (h : SameLine place later) :
    SameLine (c :: place) later := by
  obtain ⟨piece, rfl, hpiece⟩ := h
  exact ⟨c :: piece, rfl, List.not_mem_cons_of_ne_of_not_mem (Ne.symm hc) hpiece⟩

theorem SameLine.trans (h : SameLine front place) (h' : SameLine place later) :
    SameLine front later := by
  obtain ⟨piece, rfl, hpiece⟩ := h
  obtain ⟨piece', rfl, hpiece'⟩ := h'
  exact ⟨piece ++ piece', (List.append_assoc _ _ _).symm,
    fun h => (List.mem_append.mp h).elim hpiece hpiece'⟩

theorem SameLine.dropWhile {p : Char → Bool} (hp : p '\n' = false) (cs : List Char) :
    SameLine cs (cs.dropWhile p) := by
  refine ⟨cs.takeWhile p, List.takeWhile_append_dropWhile.symm, fun h => ?_⟩
  have hline := List.mem_takeWhile_imp h
  rw [hp] at hline
  cases hline

/-- So many characters are left out, with no line end among them. -/
theorem SameLine.drop {n : Nat} {cs : List Char} (h : '\n' ∉ cs.take n) :
    SameLine cs (cs.drop n) := ⟨cs.take n, (List.take_append_drop n cs).symm, h⟩

/-- A word that has no line end is left out. -/
theorem SameLine.word {word cs : List Char} (hword : '\n' ∉ word) (h : word <+: cs) :
    SameLine cs (cs.drop word.length) := by
  obtain ⟨rest, rfl⟩ := h
  exact ⟨word, by rw [List.drop_left], hword⟩

end Places

namespace Lexer

/-! ## What the readers leave -/

theorem sameLine_indentation (width : Nat) (cs : List Char) :
    SameLine cs (indentation width cs).2 := by
  fun_induction indentation width cs with
  | case1 _ _ ih | case2 _ _ ih | case3 _ _ ih => exact ih.cons (by decide)
  | case4 _ cs => exact .refl cs

theorem sameLine_skipComment (cs : List Char) : SameLine cs (skipComment cs) :=
  .dropWhile rfl cs

/-- The text of a decimal number is what is taken off. -/
theorem decimalTail_append (last : Char) (cs : List Char) :
    cs = (decimalTail last cs).1 ++ (decimalTail last cs).2 ∧
      '\n' ∉ (decimalTail last cs).1 := by
  induction cs generalizing last with
  | nil => exact ⟨rfl, List.not_mem_nil⟩
  | cons c cs ih =>
      obtain ⟨happend, hline⟩ := ih c
      by_cases hc : c = '\n'
      · subst hc
        simp [decimalTail, Text.isAsciiDigit]
      · simp only [decimalTail]
        split
        · exact ⟨congrArg _ happend, List.not_mem_cons_of_ne_of_not_mem (Ne.symm hc) hline⟩
        · exact ⟨rfl, List.not_mem_nil⟩

theorem imaginaryTail_append (cs : List Char) :
    cs = (imaginaryTail cs).1 ++ (imaginaryTail cs).2 ∧ '\n' ∉ (imaginaryTail cs).1 := by
  unfold imaginaryTail
  split <;> simp

/-- The text of a number is what is taken off. -/
theorem number_append {c : Char} (hc : c ≠ '\n') (cs : List Char) :
    c :: cs = (number c cs).1 ++ (number c cs).2 ∧ '\n' ∉ (number c cs).1 := by
  have hdecimal (cs : List Char) :
      c :: cs = (decimal c cs).1 ++ (decimal c cs).2 ∧ '\n' ∉ (decimal c cs).1 := by
    obtain ⟨hbody, hline⟩ := decimalTail_append c cs
    obtain ⟨hmark, hline'⟩ := imaginaryTail_append (decimalTail c cs).2
    simp only [decimal, List.cons_append, List.append_assoc, ← hmark, ← hbody, true_and,
      List.mem_cons, List.mem_append, not_or]
    exact ⟨Ne.symm hc, hline, hline'⟩
  unfold number
  split
  · next mark more =>
      split
      · next hradix =>
          have hmark : mark ≠ '\n' := by
            rintro rfl
            simp [isRadixMark] at hradix
          obtain ⟨digits, hdigits, hline⟩ :=
            SameLine.dropWhile (p := fun d => Text.isHexDigit d || d = '_') rfl more
          refine ⟨?_, ?_⟩
          · rw [List.cons_append, List.cons_append, List.takeWhile_append_dropWhile]
          · have htake : more.takeWhile (fun d => Text.isHexDigit d || d = '_') = digits :=
              List.append_cancel_right (List.takeWhile_append_dropWhile.trans hdigits)
            dsimp only
            rw [htake, List.mem_cons, List.mem_cons, not_or, not_or]
            exact ⟨Ne.symm hc, Ne.symm hmark, hline⟩
      · exact hdecimal _
  · exact ⟨rfl, by simpa using Ne.symm hc⟩

/-- A code that stands for a character has no line end. -/
theorem sameLine_hexEscape (mark : Char) (count : Nat) (cs : List Char) :
    SameLine cs (hexEscape mark count cs).2 := by
  unfold hexEscape
  split
  · next c hcode =>
      refine .drop fun h => ?_
      rw [codePoint?_of_mem h (by decide) (by decide)] at hcode
      cases hcode
  · exact .refl cs

theorem sameLine_escapeOrRaw (raw : Bool) (next : Char) (cs : List Char) :
    SameLine cs (escapeOrRaw raw next cs).2 := by
  obtain ⟨image, -, hread⟩ | ⟨count, -, hread⟩ := escapeOrRaw_cases raw next
  · rewrite [hread]
    exact .refl cs
  · rewrite [hread]
    exact sameLine_hexEscape next count cs

/-- The line ends of a body are those that are taken off. -/
theorem stringBody?_append {quote : Char} (hquote : isQuote quote) {triple raw : Bool}
    {cs : List Char} {b : StringBody} (h : stringBody? quote triple raw cs = some b) :
    ∃ piece, cs = piece ++ b.rest ∧ b.lines = piece.count '\n' := by
  have hafter {b : StringBody} {piece cs : List Char} (happend : cs = piece ++ b.rest)
      (hlines : b.lines = piece.count '\n') (image : List Char) (c : Char) :
      ∃ piece, c :: cs = piece ++ (b.after image c).rest ∧
        (b.after image c).lines = piece.count '\n' := by
    refine ⟨c :: piece, congrArg _ happend, ?_⟩
    rw [StringBody.after, List.count_cons, hlines]
    simp only [beq_iff_eq]
  fun_induction stringBody? quote triple raw cs generalizing b with
  | case1 cs rest hclose =>
      cases h
      rw [closing?_eq] at hclose
      split at hclose
      · next hmarks =>
          have hline : '\n' ∉ closingMarks quote triple := by
            cases triple <;> simp [closingMarks, (isQuote_ne hquote).2]
          obtain ⟨piece, happend, hpiece⟩ :=
            SameLine.word hline (List.isPrefixOf_iff_prefix.mp hmarks)
          refine ⟨piece, ?_, (List.count_eq_zero.mpr hpiece).symm⟩
          rwa [Option.some.inj hclose] at happend
      · cases hclose
  | case4 next more _ ih =>
      obtain ⟨b', hb, rfl⟩ := Option.map_eq_some_iff.mp h
      obtain ⟨piece, happend, hlines⟩ := ih hb
      obtain ⟨code, hcode, hline⟩ := sameLine_escapeOrRaw raw next more
      have hmore : more = (code ++ piece) ++ b'.rest := by
        rw [List.append_assoc, ← happend, ← hcode]
      have hcount : b'.lines = (code ++ piece).count '\n' := by
        rw [List.count_append, List.count_eq_zero.mpr hline, Nat.zero_add, hlines]
      obtain ⟨piece, happend, hlines⟩ :=
        hafter hmore hcount (escapeOrRaw raw next more).1 next
      refine ⟨'\\' :: piece, congrArg _ happend, ?_⟩
      rw [hlines, List.count_cons_of_ne (by decide)]
  | case6 c more _ _ _ _ ih =>
      obtain ⟨b', hb, rfl⟩ := Option.map_eq_some_iff.mp h
      obtain ⟨piece, happend, hlines⟩ := ih hb
      exact hafter happend hlines [c] c
  | _ => cases h

theorem sameLine_bodyBehind {quote : Char} (hquote : isQuote quote) (cs : List Char) :
    SameLine cs (bodyBehind quote cs) := by
  unfold bodyBehind
  split
  · next htriple =>
      have hline : '\n' ∉ [quote, quote] := by simpa using (isQuote_ne hquote).2
      exact .word hline (List.isPrefixOf_iff_prefix.mp htriple)
  · exact .refl cs

end Lexer

/-! ## What is read at a place -/

/-- What a token has in the text where it begins. A block is closed where a line begins or at the
end of the text. -/
def Token.Kind.BeginsAt (place : List Char) : Token.Kind → Prop
  | .name word => word.toList <+: place
  | .number digits => digits.toList <+: place
  | .symbol s => s.chars <+: place
  | .str _ _ => (Lexer.literalAt? place).isSome
  | .newline => place = [] ∨ ['\n'] <+: place
  | .indent => ∃ c cs, place = c :: cs ∧ c ∉ [' ', '\t', '\x0c', '\n']
  | .dedent => ∀ c ∈ place.head?, c ∉ [' ', '\t', '\x0c', '\n']
  | .endMarker => place = []

namespace Lexer

/-- How the tokens change when something is read at a place of a line. -/
inductive Added (place : List Char) (line : Nat) : List Token → List Token → Prop
  | tokens {done : List Token} (more : List Token)
      (begin : ∀ t ∈ more, t.line = line ∧ t.kind.BeginsAt place) :
      Added place line done (more ++ done)
  /-- A literal continues the one before it. -/
  | joined {done : List Token} {before value : String} {p q : Bool} {first : Nat} :
      Added place line (⟨.str before p, first⟩ :: done) (⟨.str value q, first⟩ :: done)

/-- How the open brackets change when something is read at a place of a line. -/
inductive Bracketed (place : List Char) (line : Nat) :
    List (Bracket × Nat) → List (Bracket × Nat) → Prop
  | same (brackets : List (Bracket × Nat)) : Bracketed place line brackets brackets
  | opened {brackets : List (Bracket × Nat)} {b : Bracket} (opening : [b.opening] <+: place) :
      Bracketed place line brackets ((b, line) :: brackets)
  | closed {b : Bracket × Nat} {brackets : List (Bracket × Nat)} :
      Bracketed place line (b :: brackets) brackets

/-- What reading at a place does: the line ends that are taken off are counted, and whatever is new
is numbered with the line of the place. -/
structure Taken (place : List Char) (s t : Lexer) : Prop where
  counted : ∃ piece, place = piece ++ t.rest ∧ t.line = s.line + piece.count '\n'
  tokens : Added place s.line s.done t.done
  brackets : Bracketed place s.line s.brackets t.brackets

/-- How reading at a place fails, and the place where what is wrong begins. -/
inductive Misread (ahead : List Char) (brackets : List (Bracket × Nat)) :
    SyntaxError.Cause → List Char → Prop
  | unterminated {how : StringPrefix} {quote : Char} {behind : List Char}
      (literal : literalAt? ahead = some (how, quote, behind))
      (body : stringBody? quote (isTriple quote behind) how.raw (bodyBehind quote behind) = none) :
      Misread ahead brackets .unterminatedString (quote :: behind)
  | invalid {c : Char} {cs : List Char} (front : ahead = c :: cs)
      (none : Symbol.atFront? (c :: cs) = none) :
      Misread ahead brackets (.invalidCharacter c) (c :: cs)
  | unmatched {b : Bracket} {cs : List Char} (front : ahead = b.closing :: cs)
      (outside : brackets = []) : Misread ahead brackets (.unmatchedClose b) (b.closing :: cs)
  | mismatched {b opened : Bracket} {line : Nat} {cs : List Char}
      {outer : List (Bracket × Nat)} (front : ahead = b.closing :: cs)
      (inside : brackets = (opened, line) :: outer) (differ : opened ≠ b) :
      Misread ahead brackets (.mismatchedClose b opened) (b.closing :: cs)

/-- What comes of reading at a place. -/
inductive ReadsAt (place : List Char) (s : Lexer) : Except SyntaxError Lexer → Prop
  | ok {t : Lexer} (taken : Taken place s t) : ReadsAt place s (.ok t)
  | error {cause : SyntaxError.Cause} {wrong : List Char}
      (misread : Misread place s.brackets cause wrong) (sameLine : SameLine place wrong) :
      ReadsAt place s (.error ⟨s.line, cause⟩)

variable {s t : Lexer} {place : List Char} {line : Nat} {c : Char} {cs : List Char}

theorem Added.none (done : List Token) : Added place line done done :=
  .tokens [] (List.forall_mem_nil _)

theorem Added.one {token : Token} (done : List Token) (hline : token.line = line)
    (hbegin : token.kind.BeginsAt place) : Added place line done (token :: done) :=
  .tokens [token] (List.forall_mem_singleton.mpr ⟨hline, hbegin⟩)

/-- Tokens that are no literals come before what is read at the same place. -/
theorem Added.after {done new more : List Token}
    (begin : ∀ t ∈ more, t.line = line ∧ t.kind.BeginsAt place)
    (first : ∀ t ∈ (more ++ done).head?, t.isString = false)
    (h : Added place line (more ++ done) new) : Added place line done new := by
  generalize hold : more ++ done = old at h first
  cases h with
  | tokens added hadded =>
      rw [← hold, ← List.append_assoc]
      exact .tokens (added ++ more) fun t ht => (List.mem_append.mp ht).elim (hadded t) (begin t)
  | joined => cases first _ rfl

/-- Nothing is read but what stays within the line. -/
theorem Taken.skip {rest : List Char} (h : SameLine place rest) (start : Bool) :
    Taken place s { s with rest, lineStart := start } := by
  obtain ⟨piece, hpiece, hline⟩ := h
  refine ⟨⟨piece, hpiece, ?_⟩, .none _, .same _⟩
  rw [List.count_eq_zero.mpr hline]
  rfl

/-- One token is read within the line. -/
theorem Taken.token {rest : List Char} {kind : Token.Kind} (h : SameLine place rest)
    (hbegin : kind.BeginsAt place) : Taken place s { s.push kind s.line with rest } := by
  obtain ⟨piece, hpiece, hline⟩ := h
  refine ⟨⟨piece, hpiece, ?_⟩, .one _ rfl hbegin, .same _⟩
  rw [List.count_eq_zero.mpr hline]
  rfl

/-- A literal begins with the letters in front of its quote. -/
theorem readsAt_readString {how : StringPrefix} {quote : Char} (hquote : isQuote quote)
    (hliteral : literalAt? place = some (how, quote, cs)) (hplace : SameLine place (quote :: cs)) :
    ReadsAt place s (s.readString how quote cs) := by
  have hbehind : SameLine place (bodyBehind quote cs) :=
    hplace.trans ((sameLine_bodyBehind hquote cs).cons (Ne.symm (isQuote_ne hquote).2))
  rw [readString_eq]
  split
  · next hbody => exact .error (.unterminated hliteral hbody) hplace
  · next b hbody =>
      obtain ⟨front, hfront, hline⟩ := hbehind
      obtain ⟨piece, hpiece, hlines⟩ := stringBody?_append hquote hbody
      refine .ok ⟨⟨front ++ piece, ?_, ?_⟩, ?_, .same _⟩
      · rw [hfront, hpiece, List.append_assoc]
      · rw [List.count_append, List.count_eq_zero.mpr hline, Nat.zero_add, hlines]
      · rcases pushString_cases s.done b.value (!how.formatted && !how.bytes) s.line with
          ⟨hpushed, -⟩ | ⟨_, _, _, _, _, _, hdone, hpushed⟩
        · dsimp only
          rw [hpushed]
          exact .one _ rfl (by rw [Token.Kind.BeginsAt, hliteral]; rfl)
        · dsimp only
          rw [hpushed, hdone]
          exact .joined

theorem readsAt_readWord (hc : isWordStart c) : ReadsAt (c :: cs) s (s.readWord (c :: cs)) := by
  have hrest : SameLine (c :: cs) ((c :: cs).dropWhile isWordPart) := .dropWhile (by decide) _
  have hplain : ReadsAt (c :: cs) s (.ok { s.push (.name (String.ofList
      ((c :: cs).takeWhile isWordPart))) s.line with rest := (c :: cs).dropWhile isWordPart }) := by
    refine .ok (.token hrest ?_)
    rw [Token.Kind.BeginsAt, String.toList_ofList]
    exact List.takeWhile_prefix _
  unfold readWord
  dsimp only
  split
  · next how quote more hhow hquote =>
      split
      · next hmark =>
          refine readsAt_readString hmark ?_ (hquote ▸ hrest)
          rw [literalAt?, if_pos hc, hhow, hquote]
          exact if_pos hmark
      · exact hquote ▸ hplain
  · exact hplain

theorem chars_of_opens? {symbol : Symbol} {b : Bracket} (h : symbol.opens? = some b) :
    symbol.chars = [b.opening] := by
  cases symbol <;> cases h <;> rfl

theorem chars_of_closes? {symbol : Symbol} {b : Bracket} (h : symbol.closes? = some b) :
    symbol.chars = [b.closing] := by
  cases symbol <;> cases h <;> rfl

theorem prefix_of_atFront? {symbol : Symbol} (h : Symbol.atFront? cs = some symbol) :
    symbol.chars <+: cs := by
  have hfound := List.find?_some h
  exact List.isPrefixOf_iff_prefix.mp hfound

theorem readsAt_readSymbol : ReadsAt (c :: cs) s (s.readSymbol c cs) := by
  unfold readSymbol
  split
  · next hnone => exact .error (.invalid rfl hnone) (.refl _)
  next symbol hfront =>
  have hprefix := prefix_of_atFront? hfront
  have hread : Taken (c :: cs) s { s.push (.symbol symbol) s.line with
      rest := (c :: cs).drop symbol.chars.length } :=
    .token (.word (not_mem_chars symbol).2 hprefix) hprefix
  dsimp only
  split
  · next b hopens =>
      rw [chars_of_opens? hopens] at hprefix
      exact .ok { counted := hread.counted, tokens := hread.tokens, brackets := .opened hprefix }
  · next b hopens hcloses =>
      obtain ⟨rest, hplace⟩ : ∃ rest, b.closing :: rest = c :: cs := by
        rw [chars_of_closes? hcloses] at hprefix
        exact hprefix
      split
      · next houtside => exact .error (hplace ▸ .unmatched rfl houtside) (.refl _)
      · next opened line outer hbrackets =>
          split
          · next hmatch =>
              refine .ok { counted := hread.counted, tokens := hread.tokens, brackets := ?_ }
              rw [hbrackets]
              exact .closed
          · next hdiffer => exact .error (hplace ▸ .mismatched rfl hbrackets hdiffer) (.refl _)
  · exact .ok hread

theorem joined?_eq {rest : List Char} (h : joined? cs = some rest) :
    cs = '\n' :: rest ∨ cs = '\r' :: '\n' :: rest := by
  unfold joined? at h
  split at h <;> cases h
  · exact .inl rfl
  · exact .inr rfl

theorem taken_endLine : Taken ('\n' :: cs) s (s.endLine cs) := by
  unfold endLine
  split
  · exact ⟨⟨['\n'], rfl, rfl⟩, .one _ rfl (Or.inr ⟨cs, rfl⟩), .same _⟩
  · exact ⟨⟨['\n'], rfl, rfl⟩, .none _, .same _⟩

theorem readsAt_readOne : ReadsAt (c :: cs) s (s.readOne c cs) := by
  unfold readOne
  split
  · next hblank =>
      have hc : c ≠ '\n' := by
        rintro rfl
        revert hblank
        decide
      exact .ok (.skip ((SameLine.refl cs).cons hc) _)
  split
  · next hcomment =>
      have hc : c ≠ '\n' := by
        rw [hcomment]
        decide
      exact .ok (.skip ((sameLine_skipComment cs).cons hc) _)
  split
  · next hline => exact hline ▸ .ok taken_endLine
  next hline =>
  split
  · obtain ⟨happend, hdigits⟩ := number_append hline cs
    refine .ok (.token ⟨_, happend, hdigits⟩ ?_)
    rw [Token.Kind.BeginsAt, String.toList_ofList]
    exact ⟨_, happend.symm⟩
  split
  · next hword => exact readsAt_readWord hword
  next hword =>
  split
  · next hquote =>
      refine readsAt_readString hquote ?_ (.refl _)
      rw [literalAt?, if_neg hword, if_pos hquote]
  split
  · refine .ok ⟨?_, .none _, .same _⟩
    rcases joined?_eq ‹joined? cs = some _› with rfl | rfl
    · exact ⟨['\\', '\n'], rfl, rfl⟩
    · exact ⟨['\\', '\r', '\n'], rfl, rfl⟩
  · exact readsAt_readSymbol

/-! ## One step -/

/-- The blocks that are closed are the innermost ones that are wider. -/
theorem closeBlocks_eq (line width : Nat) (indents : List Nat) (done : List Token) :
    closeBlocks line width indents done = (indents.dropWhile (width < ·),
      List.replicate (indents.takeWhile (width < ·)).length ⟨.dedent, line⟩ ++ done) := by
  induction indents generalizing done with
  | nil => rfl
  | cons w ws ih =>
      rw [closeBlocks, List.dropWhile_cons, List.takeWhile_cons]
      by_cases hwider : w > width
      · rw [if_pos hwider, ih, if_pos (by simpa using hwider), if_pos (by simpa using hwider),
          List.length_cons, List.replicate_succ', List.append_assoc]
        rfl
      · rw [if_neg hwider, if_neg (by simpa using hwider), if_neg (by simpa using hwider)]
        rfl

/-- A line is narrower than the innermost block, and no block that is left is as wide as it. -/
structure Misaligned (s : Lexer) (width : Nat) : Prop where
  narrower : width < s.indents.headD 0
  none : (s.indents.dropWhile (width < ·)).headD 0 ≠ width

/-- What comes of opening and closing blocks for the line whose first token begins at a place. -/
inductive Shifted (place : List Char) (s : Lexer) (width : Nat) : Except SyntaxError Lexer → Prop
  | ok {t : Lexer} (more : List Token)
      (begin : ∀ u ∈ more, u.line = s.line ∧ u.kind.BeginsAt place)
      (layout : ∀ u ∈ more, u.isLayout = true) (done : t.done = more ++ s.done)
      (line : t.line = s.line) (brackets : t.brackets = s.brackets) :
      Shifted place s width (.ok t)
  | error (misaligned : s.Misaligned width) :
      Shifted place s width (.error ⟨s.line, .inconsistentDedent⟩)

theorem shifted_shiftBlocks (width : Nat) (hc : c ∉ [' ', '\t', '\x0c', '\n']) :
    Shifted (c :: cs) s width (s.shiftBlocks width) := by
  unfold shiftBlocks
  dsimp only
  split
  · exact .ok [⟨.indent, s.line⟩] (List.forall_mem_singleton.mpr ⟨rfl, c, cs, rfl, hc⟩)
      (List.forall_mem_singleton.mpr rfl) rfl rfl rfl
  split
  · next hnarrower =>
      rw [closeBlocks_eq]
      dsimp only
      split
      · refine .ok _ (fun u hu => ?_) (fun u hu => ?_) rfl rfl rfl
        · rw [List.eq_of_mem_replicate hu]
          refine ⟨rfl, fun d hd => ?_⟩
          cases hd
          exact hc
        · rw [List.eq_of_mem_replicate hu]
          rfl
      · next hnone => exact .error ⟨hnarrower, hnone⟩
  · exact .ok [] (List.forall_mem_nil _) (List.forall_mem_nil _) rfl rfl rfl

/-- What comes of one step. -/
inductive Stepped (s : Lexer) : Except SyntaxError Lexer → Prop
  | read {result : Except SyntaxError Lexer} (h : ReadsAt s.ahead s result) : Stepped s result
  | misaligned (start : s.lineStart = true) (outside : s.brackets = [])
      (h : s.Misaligned (indentation 0 s.rest).1) : Stepped s (.error ⟨s.line, .inconsistentDedent⟩)

theorem isString_of_layout {token : Token} (h : token.isLayout = true) :
    token.isString = false := by
  rcases token with ⟨kind, line⟩
  cases kind <;> first | rfl | cases h

/-- Blanks are measured up to another character. -/
theorem indentation_head (width : Nat) (cs : List Char) :
    ∀ c ∈ (indentation width cs).2.head?, c ∉ [' ', '\t', '\x0c'] := by
  fun_induction indentation width cs with
  | case1 _ _ ih | case2 _ _ ih | case3 _ _ ih => exact ih
  | case4 _ cs hspace htab hfeed =>
      intro c hc
      obtain ⟨rest, rfl⟩ := List.head?_eq_some_iff.mp hc
      simp only [List.mem_cons, List.not_mem_nil, or_false, not_or]
      exact ⟨fun h => hspace rest (h ▸ rfl), fun h => htab rest (h ▸ rfl),
        fun h => hfeed rest (h ▸ rfl)⟩

/-- Behind the layout of a line its first token is read. -/
theorem ReadsAt.behind_layout {result : Except SyntaxError Lexer} {added : List Token}
    (h : ReadsAt place t result) (begin : ∀ u ∈ added, u.line = s.line ∧ u.kind.BeginsAt place)
    (layout : ∀ u ∈ added, u.isLayout = true) (done : t.done = added ++ s.done)
    (line : t.line = s.line) (brackets : t.brackets = s.brackets)
    (empty : s.lineIsEmpty = true) : ReadsAt place s result := by
  cases h with
  | error misread sameLine =>
      rw [line]
      exact .error (brackets ▸ misread) sameLine
  | ok taken =>
      obtain ⟨counted, tokens, bracketed⟩ := taken
      rw [line] at counted tokens bracketed
      rw [done] at tokens
      refine .ok ⟨counted, tokens.after begin fun token htoken => ?_, brackets ▸ bracketed⟩
      cases added with
      | cons first added =>
          cases htoken
          exact isString_of_layout (layout _ List.mem_cons_self)
      | nil =>
          obtain ⟨rest, hdone⟩ := List.head?_eq_some_iff.mp htoken
          rw [lineIsEmpty, show s.done = token :: rest from hdone] at empty
          exact isString_of_layout empty

theorem stepped_readLineStart (start : s.lineStart = true) (outside : s.brackets = [])
    (empty : s.lineIsEmpty = true) : Stepped s s.readLineStart := by
  have hahead : s.ahead = (indentation 0 s.rest).2 := by
    rw [ahead, start, outside]
    rfl
  have hhead := indentation_head 0 s.rest
  unfold readLineStart
  dsimp only
  split
  · next hrest =>
      refine .read (.ok ?_)
      rw [hahead, hrest]
      exact .skip (.refl []) _
  · next more hrest =>
      refine .read (.ok ?_)
      rw [hahead, hrest]
      exact .skip ((sameLine_skipComment more).cons (by decide)) _
  · next more hrest =>
      refine .read (.ok ?_)
      rw [hahead, hrest]
      exact ⟨⟨['\n'], rfl, rfl⟩, .none _, .same _⟩
  · next more hrest =>
      refine .read (.ok ?_)
      rw [hahead, hrest]
      exact ⟨⟨['\r', '\n'], rfl, rfl⟩, .none _, .same _⟩
  · next c more _ hlf _ hrest =>
      rw [hrest] at hhead
      have hc : c ∉ [' ', '\t', '\x0c', '\n'] := by
        have hblank := hhead c rfl
        have hne : c ≠ '\n' := hlf
        simp only [List.mem_cons, List.not_mem_nil, or_false, not_or] at hblank ⊢
        exact ⟨hblank.1, hblank.2.1, hblank.2.2, hne⟩
      generalize hresult : shiftBlocks _ _ = result
      let begun : Lexer := { s with rest := c :: more, lineStart := false }
      have hshifted : Shifted (c :: more) begun (indentation 0 s.rest).1
          (begun.shiftBlocks (indentation 0 s.rest).1) := shifted_shiftBlocks _ hc
      have hbegun : begun = { s with rest := (indentation 0 s.rest).2, lineStart := false } := by
        rw [hrest]
      rw [hbegun, hresult] at hshifted
      cases hshifted with
      | error misaligned => exact .misaligned start outside ⟨misaligned.narrower, misaligned.none⟩
      | ok added begin layout done line brackets =>
          refine .read ?_
          rw [hahead, hrest]
          exact readsAt_readOne.behind_layout begin layout done line brackets empty

theorem stepped_step (hs : s.AtRest) (hrest : s.rest ≠ []) : Stepped s s.step := by
  obtain ⟨c, cs, hcs⟩ := List.exists_cons_of_ne_nil hrest
  cases hstart : s.lineStart with
  | true =>
      obtain ⟨outside, empty⟩ := hs hstart
      rw [step, hstart, outside]
      exact stepped_readLineStart hstart outside empty
  | false =>
      have hahead : s.ahead = c :: cs := by
        rw [ahead, hstart, hcs]
        rfl
      rw [step_of_begun hstart hcs]
      exact .read (hahead ▸ readsAt_readOne)

/-! ## Where tokens and brackets begin -/

/-- The places of the tokens that have been read and of the brackets that are open, latest first. -/
structure Places where
  tokens : List (List Char)
  brackets : List (List Char)

/-- What a step adds begins where it reads. -/
def Places.after (p : Places) (s t : Lexer) : Places where
  tokens := List.replicate (t.done.length - s.done.length) s.ahead ++ p.tokens
  brackets :=
    if s.brackets.length < t.brackets.length then s.ahead :: p.brackets
    else p.brackets.drop (s.brackets.length - t.brackets.length)

/-- A run comes to a lexer, and its tokens and open brackets have been read at these places. -/
inductive Located (first : Lexer) : Lexer → Places → Prop
  | start : Located first first ⟨[], []⟩
  | step {s t : Lexer} {p : Places} (before : Located first s p) (more : s.rest ≠ [])
      (read : s.step = .ok t) : Located first t (p.after s t)

/-- A token has at its place what it is made of, and is numbered with the line of the place. -/
def TokenAt (text : List Char) (t : Token) (place : List Char) : Prop :=
  t.kind.BeginsAt place ∧ StandsOn text place t.line

def BracketAt (text : List Char) (b : Bracket × Nat) (place : List Char) : Prop :=
  [b.1.opening] <+: place ∧ StandsOn text place b.2

/-- All that a lexer has counted is right. -/
structure Standing (text : List Char) (s : Lexer) (p : Places) : Prop where
  atRest : s.AtRest
  here : StandsOn text s.rest s.line
  tokens : List.Forall₂ (TokenAt text) s.done p.tokens
  brackets : List.Forall₂ (BracketAt text) s.brackets p.brackets
  /-- Later tokens begin at later places. -/
  order : (s.rest :: p.tokens).Pairwise (· <:+ ·)

variable {text : List Char} {p : Places}

theorem forall₂_replicate {α β : Type} {R : α → β → Prop} {xs : List α} {y : β}
    (h : ∀ x ∈ xs, R x y) : List.Forall₂ R xs (List.replicate xs.length y) := by
  induction xs with
  | nil => exact .nil
  | cons x xs ih =>
      obtain ⟨hx, hxs⟩ := List.forall_mem_cons.mp h
      exact .cons hx (ih hxs)

theorem Added.standing {done done' : List Token} {places : List (List Char)}
    (h : Added place line done done') (hplace : StandsOn text place line)
    (hdone : List.Forall₂ (TokenAt text) done places) :
    List.Forall₂ (TokenAt text) done'
      (List.replicate (done'.length - done.length) place ++ places) := by
  cases h with
  | tokens more begin =>
      rw [List.length_append, Nat.add_sub_cancel]
      refine List.rel_append (forall₂_replicate fun t ht => ?_) hdone
      obtain ⟨hline, hbegin⟩ := begin t ht
      exact ⟨hbegin, hline ▸ hplace⟩
  | joined =>
      rw [List.length_cons, List.length_cons, Nat.sub_self, List.replicate_zero, List.nil_append]
      cases hdone with
      | cons first rest => exact .cons first rest

theorem Bracketed.standing {brackets brackets' : List (Bracket × Nat)}
    {places : List (List Char)} (h : Bracketed place line brackets brackets')
    (hplace : StandsOn text place line)
    (hopen : List.Forall₂ (BracketAt text) brackets places) :
    List.Forall₂ (BracketAt text) brackets'
      (if brackets.length < brackets'.length then place :: places
        else places.drop (brackets.length - brackets'.length)) := by
  cases h with
  | same => simpa using hopen
  | opened opening => simpa using List.Forall₂.cons ⟨opening, hplace⟩ hopen
  | closed =>
      cases hopen with
      | cons _ outer => simpa using outer

theorem sameLine_ahead (s : Lexer) : SameLine s.rest s.ahead := by
  unfold ahead
  split
  · exact sameLine_indentation 0 s.rest
  · exact .refl _

theorem taken_of_step (hs : s.AtRest) (hrest : s.rest ≠ []) (h : s.step = .ok t) :
    Taken s.ahead s t := by
  have hstep := stepped_step hs hrest
  rw [h] at hstep
  cases hstep with
  | read h =>
      cases h with
      | ok taken => exact taken

theorem Standing.step (h : Standing text s p) (hrest : s.rest ≠ []) (hstep : s.step = .ok t) :
    Standing text t (p.after s t) := by
  obtain ⟨⟨piece, hpiece, hline⟩, htokens, hbrackets⟩ := taken_of_step h.atRest hrest hstep
  have hplace := h.here.sameLine (sameLine_ahead s)
  have hahead : s.ahead <:+ s.rest := by
    obtain ⟨blanks, hblanks, -⟩ := sameLine_ahead s
    exact ⟨blanks, hblanks.symm⟩
  have hbehind : t.rest <:+ s.ahead := ⟨piece, hpiece.symm⟩
  obtain ⟨hearlier, horder⟩ := List.pairwise_cons.mp h.order
  constructor
  · exact (moves_of_step h.atRest hstep).atRest h.atRest
  · rw [hpiece] at hplace
    exact hline ▸ hplace.behind
  · exact htokens.standing hplace h.tokens
  · exact hbrackets.standing hplace h.brackets
  · have hplaces : ∀ q ∈ (p.after s t).tokens, s.ahead <:+ q := by
      intro q hq
      rcases List.mem_append.mp hq with hq | hq
      · exact List.eq_of_mem_replicate hq ▸ List.suffix_rfl
      · exact hahead.trans (hearlier q hq)
    refine List.pairwise_cons.mpr ⟨fun q hq => hbehind.trans (hplaces q hq), ?_⟩
    refine List.pairwise_append.mpr ⟨List.pairwise_replicate.mpr (.inr List.suffix_rfl), horder, ?_⟩
    intro q hq q' hq'
    exact List.eq_of_mem_replicate hq ▸ hahead.trans (hearlier q' hq')

theorem standing_start (cs : List Char) : Standing cs (start cs) ⟨[], []⟩ := by
  refine ⟨atRest_start cs, ?_, .nil, .nil, List.pairwise_singleton _ _⟩
  cases cs with
  | nil => exact ⟨[], rfl, rfl⟩
  | cons c cs =>
      by_cases hmark : c = '\ufeff'
      · exact ⟨[c], by rw [hmark]; rfl, by rw [hmark]; rfl⟩
      · exact ⟨[], by simp [start, hmark], rfl⟩

theorem Located.standing (h : Located (Lexer.start text) s p) : Standing text s p := by
  induction h with
  | start => exact standing_start text
  | step _ hrest hstep ih => exact ih.step hrest hstep

theorem exists_located {first : Lexer} (h : first.Reaches s) : ∃ p, Located first s p := by
  induction h with
  | refl => exact ⟨_, .start⟩
  | tail _ hstep ih =>
      obtain ⟨p, hp⟩ := ih
      exact ⟨_, hp.step hstep.1 hstep.2⟩

theorem standsOn_of_reaches (h : (start text).Reaches s) : StandsOn text s.rest s.line := by
  obtain ⟨p, hp⟩ := exists_located h
  exact hp.standing.here

/-! ## What is blamed -/

/-- What makes a text refused, and the place where it begins. -/
inductive Blamed (first : Lexer) : SyntaxError.Cause → List Char → Prop
  | misread {s : Lexer} {cause : SyntaxError.Cause} {place : List Char} (reached : first.Reaches s)
      (h : Misread s.ahead s.brackets cause place) : Blamed first cause place
  /-- The line that begins here is as wide as no open block. -/
  | misaligned {s : Lexer} (reached : first.Reaches s) (start : s.lineStart = true)
      (outside : s.brackets = []) (h : s.Misaligned (indentation 0 s.rest).1) :
      Blamed first .inconsistentDedent s.rest
  /-- The innermost bracket that is open at the end of the text. -/
  | neverClosed {s : Lexer} {p : Places} {b : Bracket} {line : Nat} {outer : List (Bracket × Nat)}
      {place : List Char} {places : List (List Char)} (located : Located first s p)
      (ended : s.rest = []) (inside : s.brackets = (b, line) :: outer)
      (opened : p.brackets = place :: places) : Blamed first (.neverClosed b) place

/-- A run that fails does so in one of its steps. -/
theorem step_of_run_error {e : SyntaxError} (h : s.run = .error e) :
    ∃ u, s.Reaches u ∧ u.rest ≠ [] ∧ u.step = .error e := by
  fun_induction run s with
  | case1 s hs => cases h
  | case2 s hs e' hstep =>
      cases h
      exact ⟨s, .refl, hs, hstep⟩
  | case3 s hs t hstep ih =>
      obtain ⟨u, hreaches, hu⟩ := ih h
      exact ⟨u, .head ⟨hs, hstep⟩ hreaches, hu⟩

theorem blamed_of_run {e : SyntaxError} (h : (start text).run = .error e) :
    ∃ place, Blamed (start text) e.cause place ∧ StandsOn text place e.line := by
  obtain ⟨u, hreaches, hrest, hstep⟩ := step_of_run_error h
  have hhere := standsOn_of_reaches hreaches
  have hstepped := stepped_step (hreaches.atRest (atRest_start text)) hrest
  rw [hstep] at hstepped
  cases hstepped with
  | read h =>
      cases h with
      | error misread sameLine =>
          exact ⟨_, .misread hreaches misread,
            hhere.sameLine ((sameLine_ahead u).trans sameLine)⟩
  | misaligned start outside hwidth => exact ⟨_, .misaligned hreaches start outside hwidth, hhere⟩

theorem blamed_of_finish {e : SyntaxError} (hs : (start text).Reaches s) (ended : s.rest = [])
    (h : s.finish = .error e) :
    ∃ place, Blamed (start text) e.cause place ∧ StandsOn text place e.line := by
  obtain ⟨p, hp⟩ := exists_located hs
  have hbrackets := hp.standing.brackets
  unfold finish at h
  split at h
  · next b line outer hinside =>
      cases h
      rw [hinside] at hbrackets
      generalize hopened : p.brackets = places at hbrackets
      cases hbrackets with
      | cons hplace _ => exact ⟨_, .neverClosed hp ended hinside hopened, hplace.2⟩
  · cases h

/-! ## Whole texts -/

/-- What the end of a text adds stands there. -/
theorem finish_append {ts : List Token} (h : s.finish = .ok ts) :
    ∃ more, ts = s.done.reverse ++ more ∧
      ∀ t ∈ more, t.line = s.line ∧ t.kind.BeginsAt [] := by
  have hdedents : ∀ t ∈ s.indents.map (fun _ => (⟨.dedent, s.line⟩ : Token)) ++
      [⟨.endMarker, s.line⟩], t.line = s.line ∧ t.kind.BeginsAt [] := by
    intro t ht
    rcases List.mem_append.mp ht with ht | ht
    · obtain ⟨_, _, rfl⟩ := List.mem_map.mp ht
      exact ⟨rfl, nofun⟩
    · rw [List.mem_singleton.mp ht]
      exact ⟨rfl, rfl⟩
  unfold finish at h
  split at h
  · cases h
  · cases h
    split
    · exact ⟨_, List.append_assoc _ _ _, hdedents⟩
    · refine ⟨⟨.newline, s.line⟩ :: _, ?_, List.forall_mem_cons.mpr ⟨⟨rfl, .inl rfl⟩, hdedents⟩⟩
      simp [push]

/-- What is ordered by places is ordered by lines. -/
theorem pairwise_line {ts : List Token} {places : List (List Char)}
    (h : List.Forall₂ (TokenAt text) ts places) (order : places.Pairwise fun p q => q <:+ p) :
    ts.Pairwise (·.line ≤ ·.line) := by
  induction h with
  | nil => exact .nil
  | @cons t place ts places ht hts ih =>
      obtain ⟨hlater, horder⟩ := List.pairwise_cons.mp order
      refine List.pairwise_cons.mpr ⟨fun u hu => ?_, ih horder⟩
      obtain ⟨i, hi, rfl⟩ := List.getElem_of_mem hu
      have hlength := hts.length_eq
      exact ht.2.le (hts.get hi (hlength ▸ hi)).2 (hlater _ (List.get_mem _ _))

end Lexer

open Lexer in
/-- The lines are exact. The lexer has counted the line ends that it has taken off the text; each
token is numbered with the line of the place where it was read, or the first of its literals, and so
later tokens with later lines; and a fault is numbered with the line where what is wrong begins. -/
theorem lines_are_exact (text : String) :
    (∀ s, (start text.toList).Reaches s → StandsOn text.toList s.rest s.line) ∧
    (∀ ts, tokenize text = .ok ts → ts.Pairwise (·.line ≤ ·.line) ∧
      ∃ s p, Located (start text.toList) s p ∧ s.rest = [] ∧
        List.Forall₂ (TokenAt text.toList) ts
          (p.tokens.reverse ++ List.replicate (ts.length - s.done.length) [])) ∧
    (∀ e, tokenize text = .error e →
      ∃ place, Blamed (start text.toList) e.cause place ∧ StandsOn text.toList place e.line) := by
  refine ⟨fun s => standsOn_of_reaches, fun ts h => ?_, fun e h => ?_⟩
  · rw [tokenize_eq] at h
    cases hrun : (start text.toList).run with
    | error e =>
        rw [hrun] at h
        cases h
    | ok s =>
        rw [hrun] at h
        obtain ⟨hreaches, ended⟩ := reaches_of_run hrun
        obtain ⟨p, hp⟩ := exists_located hreaches
        have hstanding := hp.standing
        have hhere := hstanding.here
        rw [ended] at hhere
        obtain ⟨more, rfl, hmore⟩ := finish_append h
        have hlength : (s.done.reverse ++ more).length - s.done.length = more.length := by simp
        have htokens : List.Forall₂ (TokenAt text.toList) (s.done.reverse ++ more)
            (p.tokens.reverse ++ List.replicate more.length []) := by
          refine List.rel_append (List.rel_reverse hstanding.tokens)
            (forall₂_replicate fun t ht => ?_)
          obtain ⟨hline, hbegin⟩ := hmore t ht
          exact ⟨hbegin, hline ▸ hhere⟩
        refine ⟨pairwise_line htokens ?_, s, p, hp, ended, hlength ▸ htokens⟩
        refine List.pairwise_append.mpr
          ⟨List.pairwise_reverse.mpr (List.pairwise_cons.mp hstanding.order).2,
            List.pairwise_replicate.mpr (.inr List.suffix_rfl), ?_⟩
        intro q _ q' hq'
        exact List.eq_of_mem_replicate hq' ▸ List.nil_suffix
  · rw [tokenize_eq] at h
    cases hrun : (start text.toList).run with
    | error e' =>
        rw [hrun] at h
        cases h
        exact blamed_of_run hrun
    | ok s =>
        rw [hrun] at h
        obtain ⟨hreaches, ended⟩ := reaches_of_run hrun
        exact blamed_of_finish hreaches ended h

/-- Literals that are one token are numbered with the line of the first. -/
example : tokenize "a = '''b\n''' 'c' \\\n  'd' (\n) e\n" =
    .ok [⟨.name "a", 1⟩, ⟨.symbol .assign, 1⟩, ⟨.str "b\ncd" true, 1⟩, ⟨.symbol .openParen, 3⟩,
      ⟨.symbol .closeParen, 4⟩, ⟨.name "e", 4⟩, ⟨.newline, 4⟩, ⟨.endMarker, 5⟩] := by
  rw [tokenize_eq_steps]
  with_unfolding_all rfl

end DeclaredSchema.Source
