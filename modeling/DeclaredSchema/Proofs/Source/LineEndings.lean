import Mathlib.Logic.Relation
import DeclaredSchema.Proofs.Source.Crlf

/-! # Tokens under both kinds of line ends

A text and the same text with two characters at each line end are read side by side. As long as no
string literal runs over a line end the two lexers stay in step (`Mirrors 0`) and end with the same
tokens or the same error. A literal in triple quotes keeps them in step but for its value, which
has a carriage return more for each line end it crosses; one in single quotes, where a backslash
takes the line end along, is not closed in the other text. So the tokens are the same exactly if no
literal that is read runs over a line end (`tokenize_crlf_iff`).
-/

namespace DeclaredSchema.Source

namespace Token

/-- The carriage returns in the value of a string literal. -/
def carriageReturns (t : Token) : Nat :=
  match t.kind with
  | .str value _ => value.toList.count '\r'
  | _ => 0

/-- A token without the value it has as a string literal. -/
def unquoted (t : Token) : Token :=
  match t.kind with
  | .str _ plain => { t with kind := .str "" plain }
  | _ => t

theorem isLayout_unquoted (t : Token) : t.unquoted.isLayout = t.isLayout := by
  rcases t with ⟨kind, line⟩
  cases kind <;> rfl

/-- A literal keeps its place and its prefixes. -/
theorem unquoted_eq_literal {t : Token} {value : String} {plain : Bool} {line : Nat}
    (h : t.unquoted = unquoted ⟨.str value plain, line⟩) : ∃ v, t = ⟨.str v plain, line⟩ := by
  rcases t with ⟨kind, first⟩
  cases kind <;> simp_all [unquoted]

end Token

def carriageReturns : List Token → Nat
  | [] => 0
  | t :: ts => t.carriageReturns + carriageReturns ts

theorem carriageReturns_cons (t : Token) (ts : List Token) :
    carriageReturns (t :: ts) = t.carriageReturns + carriageReturns ts := rfl

theorem carriageReturns_literal (value : String) (plain : Bool) (line : Nat) (ts : List Token) :
    carriageReturns (⟨.str value plain, line⟩ :: ts) =
      value.toList.count '\r' + carriageReturns ts := rfl

namespace Lexer

/-! ## The literal ahead -/

/-- The literal that a text begins with: how it is to be read, its quote and the text behind that
quote. -/
def literalAt? : List Char → Option (StringPrefix × Char × List Char)
  | [] => none
  | c :: cs =>
    if isWordStart c then
      match stringPrefix? ((c :: cs).takeWhile isWordPart), (c :: cs).dropWhile isWordPart with
      | some how, quote :: body => if isQuote quote then some (how, quote, body) else none
      | _, _ => none
    else if isQuote c then some (⟨false, false, false⟩, c, cs) else none

/-- The line ends that a literal runs over, if it stands in triple quotes or, where `triple` is
false, in single ones. -/
def bodyLines (triple : Bool) (how : StringPrefix) (quote : Char) (cs : List Char) : Nat :=
  if isTriple quote cs = triple then
    match stringBody? quote (isTriple quote cs) how.raw (bodyBehind quote cs) with
    | none => 0
    | some b => b.lines
  else 0

/-- The line ends that the literal at the front of a text runs over. -/
def linesCrossed (triple : Bool) (cs : List Char) : Nat :=
  match literalAt? cs with
  | none => 0
  | some (how, quote, behind) => bodyLines triple how quote behind

/-- The text that the next token is taken from. -/
def ahead (s : Lexer) : List Char :=
  if s.lineStart && s.brackets.isEmpty then (indentation 0 s.rest).2 else s.rest

/-- A run from one lexer comes to the other. -/
def Reaches : Lexer → Lexer → Prop :=
  Relation.ReflTransGen fun s t => s.rest ≠ [] ∧ s.step = .ok t

/-- A run from here reads a literal, in triple quotes or not, that runs over a line end. -/
def ReadsAcross (triple : Bool) (s : Lexer) : Prop :=
  ∃ t u, s.Reaches t ∧ t.step = .ok u ∧ 0 < linesCrossed triple t.ahead

theorem linesCrossed_nil (triple : Bool) : linesCrossed triple [] = 0 := rfl

theorem ReadsAcross.iff_of_step {s t : Lexer} {triple : Bool} (hs : s.rest ≠ [])
    (h : s.step = .ok t) :
    s.ReadsAcross triple ↔ 0 < linesCrossed triple s.ahead ∨ t.ReadsAcross triple := by
  constructor
  · rintro ⟨u, v, hreaches, hstep, hcrossed⟩
    rcases hreaches.cases_head with rfl | ⟨w, ⟨-, hw⟩, hreaches⟩
    · exact .inl hcrossed
    · cases hw.symm.trans h
      exact .inr ⟨u, v, hreaches, hstep, hcrossed⟩
  · rintro (hcrossed | ⟨u, v, hreaches, hstep, hcrossed⟩)
    · exact ⟨s, t, .refl, h, hcrossed⟩
    · exact ⟨u, v, .head ⟨hs, h⟩ hreaches, hstep, hcrossed⟩

theorem ReadsAcross.not_of_error {s : Lexer} {triple : Bool} {e : SyntaxError}
    (h : s.step = .error e) : ¬ s.ReadsAcross triple := by
  rintro ⟨u, v, hreaches, hstep, -⟩
  rcases hreaches.cases_head with rfl | ⟨w, ⟨-, hw⟩, -⟩
  · cases hstep.symm.trans h
  · cases hw.symm.trans h

theorem ahead_of_nil {s : Lexer} (h : s.rest = []) : s.ahead = [] := by
  unfold ahead
  rw [h]
  split <;> rfl

theorem ReadsAcross.not_of_nil {s : Lexer} {triple : Bool} (h : s.rest = []) :
    ¬ s.ReadsAcross triple := by
  rintro ⟨u, v, hreaches, -, hcrossed⟩
  rcases hreaches.cases_head with rfl | ⟨w, ⟨hs, -⟩, -⟩
  · rw [ahead_of_nil h, linesCrossed_nil] at hcrossed
    exact absurd hcrossed (Nat.lt_irrefl 0)
  · exact hs h

/-- Only a quote or the beginning of a word begins a literal. -/
theorem linesCrossed_of_not {c : Char} (hword : isWordStart c = false) (hquote : isQuote c = false)
    (cs : List Char) (triple : Bool) : linesCrossed triple (c :: cs) = 0 := by
  simp [linesCrossed, literalAt?, hword, hquote]

/-! ## Tokens that differ in the values of literals -/

/-- The same tokens, but that the literals have so many carriage returns more between them. -/
structure Retold (more : Nat) (ts crlfTokens : List Token) : Prop where
  shape : crlfTokens.map (·.unquoted) = ts.map (·.unquoted)
  count : carriageReturns crlfTokens = carriageReturns ts + more
  same : more = 0 → crlfTokens = ts

namespace Retold

variable {n : Nat} {ts ts' : List Token}

theorem refl (ts : List Token) : Retold 0 ts ts := ⟨rfl, rfl, fun _ => rfl⟩

theorem cons (t : Token) (h : Retold n ts ts') : Retold n (t :: ts) (t :: ts') where
  shape := by rw [List.map_cons, List.map_cons, h.shape]
  count := by rw [carriageReturns_cons, carriageReturns_cons, h.count, Nat.add_assoc]
  same hn := by rw [h.same hn]

theorem lineIsEmpty {s t : Lexer} (h : Retold n s.done t.done) :
    t.lineIsEmpty = s.lineIsEmpty := by
  have hshape := h.shape
  unfold Lexer.lineIsEmpty
  cases hs : s.done with
  | nil =>
      rw [hs, List.map_nil, List.map_eq_nil_iff] at hshape
      rw [hshape]
  | cons a as =>
      rw [hs, List.map_cons] at hshape
      obtain ⟨b, bs, ht, hb, -⟩ := List.map_eq_cons_iff.mp hshape
      rw [ht]
      show b.isLayout = a.isLayout
      rw [← Token.isLayout_unquoted b, ← Token.isLayout_unquoted a, hb]

/-- Blocks are closed alike. -/
theorem closeBlocks (line width : Nat) (indents : List Nat) (h : Retold n ts ts') :
    (closeBlocks line width indents ts').1 = (closeBlocks line width indents ts).1 ∧
      Retold n (closeBlocks line width indents ts).2 (closeBlocks line width indents ts').2 := by
  induction indents generalizing ts ts' with
  | nil => exact ⟨rfl, h⟩
  | cons w ws ih =>
      unfold Lexer.closeBlocks
      split
      · exact ih (h.cons _)
      · exact ⟨rfl, h⟩

/-- A literal is added to both. -/
theorem literal {m : Nat} {value value' : String} (h : Retold n ts ts')
    (hvalue : Returned m value.toList value'.toList) (plain : Bool) (line : Nat) :
    Retold (n + m) (⟨.str value plain, line⟩ :: ts) (⟨.str value' plain, line⟩ :: ts') where
  shape := by rw [List.map_cons, List.map_cons, h.shape]; rfl
  count := by
    rw [carriageReturns_literal, carriageReturns_literal, h.count, hvalue.1]
    omega
  same hnm := by rw [h.same (by omega), String.toList_inj.mp (hvalue.2 (by omega))]

/-- A literal is added to both, or continues the literal that both end in. -/
theorem pushString {m : Nat} {value value' : List Char} (h : Retold n ts ts')
    (hvalue : Returned m value value') (plain : Bool) (line : Nat) :
    Retold (n + m) (pushString ts value plain line) (pushString ts' value' plain line) := by
  have hadded : Retold (n + m) (⟨.str (String.ofList value) plain, line⟩ :: ts)
      (⟨.str (String.ofList value') plain, line⟩ :: ts') :=
    h.literal (by rwa [String.toList_ofList, String.toList_ofList]) plain line
  cases ts with
  | nil =>
      have hts' : ts' = [] := by simpa using h.shape
      subst hts'
      exact hadded
  | cons t ts =>
      obtain ⟨t', rest', rfl, ht, hrest⟩ := List.map_eq_cons_iff.mp h.shape
      rcases t with ⟨kind, first⟩
      cases kind with
      | str before p =>
          obtain ⟨before', rfl⟩ := Token.unquoted_eq_literal ht
          have hcount := h.count
          rw [carriageReturns_literal, carriageReturns_literal] at hcount
          refine ⟨?_, ?_, fun hnm => ?_⟩
          · rw [Lexer.pushString, Lexer.pushString, List.map_cons, List.map_cons, hrest]
            rfl
          · rw [Lexer.pushString, Lexer.pushString, carriageReturns_literal,
              carriageReturns_literal, String.toList_append, String.toList_append,
              List.count_append, List.count_append, String.toList_ofList, String.toList_ofList,
              hvalue.1]
            omega
          · rw [h.same (by omega), hvalue.2 (by omega)]
      | _ =>
          rcases t' with ⟨kind', first'⟩
          cases kind' <;> simp [Token.unquoted] at ht
          exact hadded

end Retold

/-! ## One step -/

/-- A text in front of the other lexer. Where a comment has been skipped it is at the second of the
two characters of a line end. -/
def SameText (rest rest' : List Char) : Prop :=
  rest' = crlf rest ∨ ∃ more, rest = '\n' :: more ∧ rest' = '\n' :: crlf more

/-- Both lexers are at the same place of their texts, and the second has so many carriage returns
more in the values of its literals. -/
inductive Mirrors (n : Nat) : Lexer → Lexer → Prop
  | mk (s : Lexer) (rest' : List Char) (done' : List Token) (hfree : '\r' ∉ s.rest)
      (htext : SameText s.rest rest') (hdone : Retold n s.done done') :
      Mirrors n s { s with rest := rest', done := done' }

/-- How one step goes in both texts, where the literal ahead runs over so many line ends in single
quotes or in triple ones. -/
inductive Abreast (n line single triple : Nat) :
    Except SyntaxError Lexer → Except SyntaxError Lexer → Prop
  | refused (e : SyntaxError) : Abreast n line single triple (.error e) (.error e)
  | along {s t : Lexer} (hsingle : single = 0) (h : Mirrors (n + triple) s t) :
      Abreast n line single triple (.ok s) (.ok t)
  | broken {s : Lexer} (hsingle : 0 < single) (hline : line < s.line) :
      Abreast n line single triple (.ok s) (.error ⟨line, .unterminatedString⟩)

section Steps

variable {n : Nat} {s : Lexer} {rest' : List Char} {done' : List Token} {c : Char}
  {cs : List Char}

theorem isTriple_crlf {quote : Char} (hquote : isQuote quote) (cs : List Char) :
    isTriple quote (crlf cs) = isTriple quote cs ∧
      bodyBehind quote (crlf cs) = crlf (bodyBehind quote cs) := by
  obtain ⟨hcr, hlf⟩ := isQuote_ne hquote
  have htriple : isTriple quote (crlf cs) = isTriple quote cs :=
    isPrefixOf_crlf (by simpa using hcr) (by simpa using hlf) cs
  refine ⟨htriple, ?_⟩
  unfold bodyBehind
  rw [htriple]
  split
  · next h =>
      have hmarks : '\n' ∉ [quote, quote] := by simpa using hlf
      exact drop_crlf hmarks h
  · rfl

theorem suffix_bodyBehind (quote : Char) (cs : List Char) : bodyBehind quote cs <:+ cs := by
  unfold bodyBehind
  split
  · exact List.drop_suffix 2 cs
  · exact List.suffix_rfl

theorem abreast_readString (hdone : Retold n s.done done') {quote : Char} (hquote : isQuote quote)
    (hfree : '\r' ∉ cs) (how : StringPrefix) :
    Abreast n s.line (bodyLines false how quote cs) (bodyLines true how quote cs)
      (s.readString how quote cs)
      (Lexer.readString { s with rest := rest', done := done' } how quote (crlf cs)) := by
  obtain ⟨htriple, hbehind⟩ := isTriple_crlf hquote cs
  have hfree : '\r' ∉ bodyBehind quote cs := fun h => hfree ((suffix_bodyBehind quote cs).subset h)
  have hbody := stringBody?_crlf hquote (isTriple quote cs) how.raw hfree
  have hrest (b : StringBody)
      (hb : stringBody? quote (isTriple quote cs) how.raw (bodyBehind quote cs) = some b) :
      '\r' ∉ b.rest := fun h => hfree ((suffix_stringBody? hb).subset h)
  rw [readString_eq, readString_eq, htriple, hbehind]
  unfold bodyLines
  generalize isTriple quote cs = triple at *
  generalize hb : stringBody? quote triple how.raw (bodyBehind quote cs) = b? at *
  generalize stringBody? quote triple how.raw (crlf (bodyBehind quote cs)) = b'? at *
  cases hbody with
  | «open» => exact .refused _
  | closed b value hline hvalue =>
      have hsingle : (if triple = false then b.lines else 0) = 0 := by
        rcases hline with rfl | hline <;> simp_all
      have htriple : (if triple = true then b.lines else 0) = b.lines := by
        rcases hline with rfl | hline <;> simp_all
      refine .along hsingle ?_
      rw [htriple]
      exact .mk _ _ _ (hrest b rfl) (.inl rfl) (hdone.pushString hvalue _ _)
  | @broken b hline hcrossed =>
      subst hline
      exact .broken hcrossed (Nat.lt_add_of_pos_right hcrossed)

theorem abreast_readWord (hdone : Retold n s.done done') (hfree : '\r' ∉ c :: cs)
    (hc : isWordStart c) :
    Abreast n s.line (linesCrossed false (c :: cs)) (linesCrossed true (c :: cs))
      (s.readWord (c :: cs))
      (Lexer.readWord { s with rest := rest', done := done' } (crlf (c :: cs))) := by
  have htake := takeWhile_crlf (p := isWordPart) (by decide) (by decide) (c :: cs)
  have hdrop := dropWhile_crlf (p := isWordPart) (by decide) (by decide) (c :: cs)
  have hrest : '\r' ∉ (c :: cs).dropWhile isWordPart :=
    fun h => hfree ((List.dropWhile_suffix _).subset h)
  unfold readWord linesCrossed literalAt?
  rw [htake, hdrop]
  simp only [hc, if_true]
  generalize (c :: cs).takeWhile isWordPart = word at *
  generalize (c :: cs).dropWhile isWordPart = rest at *
  have hplain : Abreast n s.line 0 0
      (.ok { s.push (.name (String.ofList word)) s.line with rest })
      (.ok { Lexer.push { s with rest := rest', done := done' } (.name (String.ofList word)) s.line
        with rest := crlf rest }) :=
    .along rfl (.mk _ _ _ hrest (.inl rfl) (hdone.cons _))
  cases stringPrefix? word with
  | none => exact hplain
  | some how =>
      cases rest with
      | nil => exact hplain
      | cons quote body =>
          by_cases hquote : isQuote quote
          · have hne : quote ≠ '\n' := Ne.symm (isQuote_ne hquote).2
            simp only [crlf_cons hne, hquote, if_true]
            exact abreast_readString hdone hquote (fun h => hrest (.tail _ h)) how
          · by_cases hne : quote = '\n'
            · subst hne
              exact hplain
            · rw [crlf_cons hne] at hplain ⊢
              simp only [hquote, Bool.false_eq_true, if_false]
              exact hplain

theorem abreast_readSymbol (rest' : List Char) (hdone : Retold n s.done done')
    (hfree : '\r' ∉ c :: cs) (hc : c ≠ '\n') :
    Abreast n s.line 0 0 (s.readSymbol c cs)
      (Lexer.readSymbol { s with rest := rest', done := done' } c (crlf cs)) := by
  have hfront := atFront?_crlf (c :: cs)
  rw [crlf_cons hc] at hfront
  unfold readSymbol
  rw [hfront]
  cases hs : Symbol.atFront? (c :: cs) with
  | none => exact .refused _
  | some symbol =>
      have hword : symbol.chars.isPrefixOf (c :: cs) := 
        List.find?_some (p := fun t : Symbol => t.chars.isPrefixOf (c :: cs)) hs
      have hdrop : (c :: crlf cs).drop symbol.chars.length =
          crlf ((c :: cs).drop symbol.chars.length) := by
        rw [← crlf_cons hc]
        exact drop_crlf (not_mem_chars symbol).2 hword
      have hrest : '\r' ∉ (c :: cs).drop symbol.chars.length :=
        fun h => hfree ((List.drop_suffix _ _).subset h)
      have hpushed (brackets : List (Bracket × Nat)) :
          Abreast n s.line 0 0
            (.ok { s.push (.symbol symbol) s.line with
              rest := (c :: cs).drop symbol.chars.length, brackets })
            (.ok { Lexer.push { s with rest := rest', done := done' } (.symbol symbol) s.line with
              rest := (c :: crlf cs).drop symbol.chars.length, brackets }) := by
        rw [hdrop]
        exact .along rfl (.mk _ _ _ hrest (.inl rfl) (hdone.cons _))
      dsimp only
      split
      · exact hpushed _
      · split
        · exact .refused _
        · split
          · exact hpushed _
          · exact .refused _
      · exact hpushed _

/-- What begins no literal and stays on its line. -/
theorem abreast_plain (hline : ∀ triple, linesCrossed triple (c :: cs) = 0)
    {r r' : Except SyntaxError Lexer} (h : Abreast n s.line 0 0 r r') :
    Abreast n s.line (linesCrossed false (c :: cs)) (linesCrossed true (c :: cs)) r r' := by
  rwa [hline, hline]

theorem skipComment_crlf (cs : List Char) : SameText (skipComment cs) (skipComment (crlf cs)) := by
  induction cs with
  | nil => exact .inl rfl
  | cons c cs ih =>
      by_cases hc : c = '\n'
      · subst hc
        exact .inr ⟨cs, rfl, rfl⟩
      · have hskip (cs : List Char) : skipComment (c :: cs) = skipComment cs := by
          simp [skipComment, hc]
        rwa [crlf_cons hc, hskip, hskip]

theorem readOne_of_isQuote {s : Lexer} (hc : isQuote c) (cs : List Char) :
    s.readOne c cs = s.readString ⟨false, false, false⟩ c cs := by
  simp only [isQuote, Bool.or_eq_true, decide_eq_true_eq] at hc
  rcases hc with rfl | rfl <;> rfl

theorem abreast_readOne (hdone : Retold n s.done done') (hfree : '\r' ∉ c :: cs)
    (hc : c ≠ '\n') :
    Abreast n s.line (linesCrossed false (c :: cs)) (linesCrossed true (c :: cs))
      (s.readOne c cs)
      (Lexer.readOne { s with rest := rest', done := done' } c (crlf cs)) := by
  have hcs : '\r' ∉ cs := fun h => hfree (.tail _ h)
  have hcr : c ≠ '\r' := fun h => hfree (h ▸ List.mem_cons_self)
  by_cases hword : isWordStart c
  · rw [readOne_of_isWordStart hword, readOne_of_isWordStart hword, ← crlf_cons hc]
    exact abreast_readWord hdone hfree hword
  by_cases hquote : isQuote c
  · have hsingle (triple : Bool) : linesCrossed triple (c :: cs) =
        bodyLines triple ⟨false, false, false⟩ c cs := by
      simp [linesCrossed, literalAt?, hword, hquote]
    rw [readOne_of_isQuote hquote, readOne_of_isQuote hquote, hsingle, hsingle]
    exact abreast_readString hdone hquote hcs _
  refine abreast_plain (linesCrossed_of_not (by simpa using hword) (by simpa using hquote) cs) ?_
  unfold readOne
  rw [startsNumber_crlf, joined?_crlf hcs, number_crlf]
  by_cases hblank : (c = ' ' || c = '\t' || c = '\x0c' || c = '\r') = true
  · rw [if_pos hblank, if_pos hblank]
    exact .along rfl (.mk _ _ _ hcs (.inl rfl) hdone)
  rw [if_neg hblank, if_neg hblank]
  by_cases hcomment : c = '#'
  · rw [if_pos hcomment, if_pos hcomment]
    exact .along rfl (.mk _ _ _ (fun h => hcs ((List.dropWhile_suffix _).subset h))
      (skipComment_crlf cs) hdone)
  rw [if_neg hcomment, if_neg hcomment, if_neg hc, if_neg hc]
  by_cases hnumber : startsNumber c cs = true
  · rw [if_pos hnumber, if_pos hnumber]
    exact .along rfl (.mk _ _ _ (fun h => hcs ((suffix_number c cs).subset h)) (.inl rfl)
      (hdone.cons _))
  rw [if_neg hnumber, if_neg hnumber, if_neg hword, if_neg hword, if_neg hquote, if_neg hquote]
  have hsymbol := abreast_readSymbol rest' hdone hfree hc
  cases hjoined : joined? cs with
  | none => simpa only [Option.map_none] using hsymbol
  | some rest =>
      by_cases hslash : c = '\\'
      · subst hslash
        exact .along rfl (.mk _ _ _ (fun h => hcs ((suffix_joined? hjoined).subset h)) (.inl rfl)
          hdone)
      · simpa [hslash] using hsymbol

/-- Blocks are opened and closed alike. -/
theorem shiftBlocks_retold (rest' : List Char) (hdone : Retold n s.done done') (width : Nat) :
    (∃ e, s.shiftBlocks width = .error e ∧
      shiftBlocks { s with rest := rest', done := done' } width = .error e) ∨
    ∃ indents done done'', Retold n done done'' ∧
      s.shiftBlocks width = .ok { s with indents, done } ∧
      shiftBlocks { s with rest := rest', done := done' } width =
        .ok { s with rest := rest', indents, done := done'' } := by
  obtain ⟨hindents, hclosed⟩ := hdone.closeBlocks s.line width s.indents
  unfold shiftBlocks
  by_cases hwider : width > s.indents.headD 0
  · exact .inr ⟨_, _, _, hdone.cons _, if_pos hwider, if_pos hwider⟩
  by_cases hnarrower : width < s.indents.headD 0
  · simp only [hwider, hnarrower, if_false, if_true, hindents]
    split
    · exact .inr ⟨_, _, _, hclosed, rfl, rfl⟩
    · exact .inl ⟨_, rfl, rfl⟩
  · simp only [hwider, hnarrower, if_false]
    exact .inr ⟨_, _, _, hdone, rfl, rfl⟩

section LineStart

variable {width : Nat} {more : List Char}

theorem readLineStart_nil (h : indentation 0 s.rest = (width, [])) :
    s.readLineStart = .ok { s with rest := [], lineStart := false } := by
  rw [readLineStart, h]

theorem readLineStart_comment (h : indentation 0 s.rest = (width, '#' :: more)) :
    s.readLineStart = .ok { s with rest := skipComment more, lineStart := false } := by
  rw [readLineStart, h]
  rfl

theorem readLineStart_lineFeed (h : indentation 0 s.rest = (width, '\n' :: more)) :
    s.readLineStart = .ok { s with rest := more, line := s.line + 1, lineStart := true } := by
  rw [readLineStart, h]
  rfl

theorem readLineStart_crlf (h : indentation 0 s.rest = (width, '\r' :: '\n' :: more)) :
    s.readLineStart = .ok { s with rest := more, line := s.line + 1, lineStart := true } := by
  rw [readLineStart, h]
  rfl

theorem readLineStart_of_ne (h : indentation 0 s.rest = (width, c :: more)) (hcomment : c ≠ '#')
    (hlf : c ≠ '\n') (hcr : ¬ (c = '\r' ∧ more.head? = some '\n')) :
    s.readLineStart =
      match shiftBlocks { s with rest := c :: more, lineStart := false } width with
      | .error e => .error e
      | .ok s => s.readOne c more := by
  rw [readLineStart, h]
  dsimp only
  split
  · next h => cases h
  · next h => exact absurd (List.cons.inj h).1 hcomment
  · next h => exact absurd (List.cons.inj h).1 hlf
  · next h =>
      obtain ⟨rfl, rfl⟩ := List.cons.inj h
      exact absurd ⟨rfl, rfl⟩ hcr
  · next h =>
      obtain ⟨rfl, rfl⟩ := List.cons.inj h
      rfl

end LineStart

theorem line_shiftBlocks {t : Lexer} {width : Nat} (h : s.shiftBlocks width = .ok t) :
    t.line = s.line := by
  unfold shiftBlocks fail at h
  grind

/-- The beginning of a line, where both texts are at the same place behind the blanks. -/
theorem abreast_readLineStart (hdone : Retold n s.done done') {width : Nat}
    {rest after : List Char} (h : indentation 0 s.rest = (width, rest))
    (h' : indentation 0 after = (width, rest')) (hfree : '\r' ∉ rest)
    (htext : SameText rest rest') :
    Abreast n s.line (linesCrossed false rest) (linesCrossed true rest) s.readLineStart
      (readLineStart { s with rest := after, done := done' }) := by
  cases rest with
  | nil =>
      obtain rfl : rest' = [] := by
        rcases htext with h | ⟨more, h, -⟩
        · exact h
        · cases h
      rw [readLineStart_nil h, readLineStart_nil (s := { s with rest := after, done := done' }) h']
      exact .along rfl (.mk _ _ _ List.not_mem_nil (.inl rfl) hdone)
  | cons c more =>
      have hmore : '\r' ∉ more := fun h => hfree (.tail _ h)
      by_cases hlf : c = '\n'
      · subst hlf
        refine abreast_plain (linesCrossed_of_not (by decide) (by decide) _) ?_
        have hblank : readLineStart { s with rest := after, done := done' } =
            .ok { s with
              rest := crlf more, line := s.line + 1, lineStart := true, done := done' } := by
          rcases htext with rfl | ⟨more', heq, rfl⟩
          · exact readLineStart_crlf (s := { s with rest := after, done := done' }) h'
          · cases heq
            exact readLineStart_lineFeed (s := { s with rest := after, done := done' }) h'
        rw [readLineStart_lineFeed h, hblank]
        exact .along rfl (.mk _ _ _ hmore (.inl rfl) hdone)
      obtain rfl : rest' = c :: crlf more := by
        rcases htext with h | ⟨more', heq, -⟩
        · rw [h, crlf_cons hlf]
        · exact absurd (List.cons.inj heq).1 hlf
      by_cases hcomment : c = '#'
      · subst hcomment
        refine abreast_plain (linesCrossed_of_not (by decide) (by decide) _) ?_
        rw [readLineStart_comment h,
          readLineStart_comment (s := { s with rest := after, done := done' }) h']
        exact .along rfl (.mk _ _ _ (fun h => hmore ((List.dropWhile_suffix _).subset h))
          (skipComment_crlf more) hdone)
      have hcr : c ≠ '\r' := fun h => hfree (h ▸ List.mem_cons_self)
      rw [readLineStart_of_ne h hcomment hlf fun h => hcr h.1,
        readLineStart_of_ne (s := { s with rest := after, done := done' }) h' hcomment hlf
          fun h => hcr h.1]
      rcases shiftBlocks_retold (s := { s with rest := c :: more, lineStart := false })
          (c :: crlf more) hdone width with
        ⟨e, hs, ht⟩ | ⟨indents, done, done'', hretold, hs, ht⟩
      · rw [hs, ht]
        exact .refused e
      · rw [hs, ht]
        exact abreast_readOne
          (s := { s with rest := c :: more, lineStart := false, indents, done }) hretold hfree hlf

theorem endLine_retold (hdone : Retold n s.done done') (hfree : '\r' ∉ cs) :
    Mirrors n (s.endLine cs) (endLine { s with rest := rest', done := done' } (crlf cs)) := by
  have hempty : lineIsEmpty { s with rest := rest', done := done' } = s.lineIsEmpty :=
    Retold.lineIsEmpty hdone
  unfold endLine
  rw [hempty]
  dsimp only
  split
  · exact .mk _ _ _ hfree (.inl rfl) (hdone.cons _)
  · exact .mk _ _ _ hfree (.inl rfl) hdone

end Steps

/-- Blanks in front are passed alike. -/
theorem indentation_sameText {rest rest' : List Char} (h : SameText rest rest') :
    ∃ width more more', indentation 0 rest = (width, more) ∧ indentation 0 rest' = (width, more') ∧
      SameText more more' := by
  rcases h with rfl | ⟨more, rfl, rfl⟩
  · exact ⟨_, _, _, rfl, indentation_crlf 0 rest, .inl rfl⟩
  · exact ⟨0, _, _, rfl, rfl, .inr ⟨more, rfl, rfl⟩⟩

/-- One step in the first text is answered by one step in the second, or by two at a line end. -/
theorem Mirrors.step {n : Nat} {s t : Lexer} (h : Mirrors n s t) (hs : s.rest ≠ []) :
    ∃ r, (t.run = match r with
        | .error e => .error e
        | .ok v => v.run) ∧
      Abreast n s.line (linesCrossed false s.ahead) (linesCrossed true s.ahead) s.step r := by
  cases h with | mk rest' done' hfree htext hdone =>
  obtain ⟨c, cs, hcs⟩ := List.exists_cons_of_ne_nil hs
  have hrest' : rest' ≠ [] := by
    rcases htext with rfl | ⟨more, -, rfl⟩
    · rw [hcs, ← List.singleton_append, crlf_append]
      by_cases hc : c = '\n' <;> simp [crlf, hc]
    · exact List.cons_ne_nil _ _
  have hrun := run_eq (s := { s with rest := rest', done := done' }) hrest'
  by_cases hstart : (s.lineStart && s.brackets.isEmpty) = true
  · refine ⟨_, hrun, ?_⟩
    obtain ⟨width, more, more', h, h', hsame⟩ := indentation_sameText htext
    have hfree' : '\r' ∉ more := fun hm =>
      hfree ((suffix_indentation 0 s.rest).subset (by rwa [h]))
    have := abreast_readLineStart hdone h h' hfree' hsame
    simp only [Lexer.step, ahead, hstart, if_true, h]
    exact this
  · by_cases hc : c = '\n'
    · subst hc
      have hstep : s.step = .ok (s.endLine cs) := by
        rw [Lexer.step, if_neg hstart, hcs]
        rfl
      have hahead (triple : Bool) : linesCrossed triple s.ahead = 0 := by
        rw [ahead, if_neg hstart, hcs]
        exact linesCrossed_of_not (by decide) (by decide) cs triple
      have hat (rest : List Char) :
          Lexer.step { s with rest := '\n' :: rest, done := done' } =
            .ok (endLine { s with rest := '\n' :: rest, done := done' } rest) := by
        rw [Lexer.step, if_neg hstart]
        rfl
      have hends : run { s with rest := rest', done := done' } =
          (endLine { s with rest := '\n' :: crlf cs, done := done' } (crlf cs)).run := by
        rcases htext with rfl | ⟨more, hmore, rfl⟩
        · have hblank : Lexer.step { s with rest := crlf s.rest, done := done' } =
              .ok { s with rest := '\n' :: crlf cs, done := done' } := by
            rw [Lexer.step, if_neg hstart, hcs]
            rfl
          rw [run_of_step hrest' hblank]
          exact run_of_step (List.cons_ne_nil _ _) (hat _)
        · obtain rfl : cs = more := (List.cons.inj (hcs.symm.trans hmore)).2
          exact run_of_step (List.cons_ne_nil _ _) (hat _)
      refine ⟨.ok _, hends, ?_⟩
      rw [hstep, hahead, hahead]
      exact .along rfl (endLine_retold hdone fun h => hfree (hcs ▸ .tail _ h))
    · obtain rfl : rest' = c :: crlf cs := by
        rcases htext with h | ⟨more, hmore, -⟩
        · rw [h, hcs, crlf_cons hc]
        · exact absurd (List.cons.inj (hcs.symm.trans hmore)).1 hc
      have hstep : s.step = s.readOne c cs := by rw [Lexer.step, if_neg hstart, hcs]
      have hstep' : Lexer.step { s with rest := c :: crlf cs, done := done' } =
          Lexer.readOne { s with rest := c :: crlf cs, done := done' } c (crlf cs) := by
        rw [Lexer.step, if_neg hstart]
      refine ⟨_, hrun, ?_⟩
      rw [hstep, hstep', ahead, if_neg hstart, hcs]
      exact abreast_readOne hdone (hcs ▸ hfree) hc

/-! ## Lines -/

/-- A step is refused on its own line, or ends there or behind it. -/
def Onward (line : Nat) : Except SyntaxError Lexer → Prop
  | .error e => e.line = line
  | .ok t => line ≤ t.line

variable {s t : Lexer}

theorem onward_readString (s : Lexer) (how : StringPrefix) (quote : Char) (cs : List Char) :
    Onward s.line (s.readString how quote cs) := by
  rw [readString_eq]
  split
  · exact rfl
  · exact Nat.le_add_right _ _

theorem onward_readWord (s : Lexer) (cs : List Char) : Onward s.line (s.readWord cs) := by
  unfold readWord
  dsimp only
  split
  · split
    · exact onward_readString s _ _ _
    · exact Nat.le_refl _
  · exact Nat.le_refl _

theorem onward_readSymbol (s : Lexer) (c : Char) (cs : List Char) :
    Onward s.line (s.readSymbol c cs) := by
  unfold readSymbol
  dsimp only
  repeat' split
  all_goals first | exact rfl | exact Nat.le_refl _

theorem onward_readOne (s : Lexer) (c : Char) (cs : List Char) :
    Onward s.line (s.readOne c cs) := by
  unfold readOne
  split
  · exact Nat.le_refl _
  split
  · exact Nat.le_refl _
  split
  · exact Nat.le_succ _
  split
  · exact Nat.le_refl _
  split
  · exact onward_readWord s _
  split
  · exact onward_readString s _ _ _
  split
  · exact Nat.le_succ _
  · exact onward_readSymbol s _ _

theorem onward_shiftBlocks (s : Lexer) (width : Nat) : Onward s.line (s.shiftBlocks width) := by
  unfold shiftBlocks
  dsimp only
  repeat' split
  all_goals first | exact rfl | exact Nat.le_refl _

theorem onward_readLineStart (s : Lexer) : Onward s.line s.readLineStart := by
  unfold readLineStart
  dsimp only
  split
  · exact Nat.le_refl _
  · exact Nat.le_refl _
  · exact Nat.le_succ _
  · exact Nat.le_succ _
  · split
    · next h =>
        have hrefused := onward_shiftBlocks
          { s with rest := (indentation 0 s.rest).2, lineStart := false } (indentation 0 s.rest).1
        rwa [h] at hrefused
    · next u h =>
        have hline : u.line = s.line :=
          line_shiftBlocks (s := { s with rest := (indentation 0 s.rest).2, lineStart := false }) h
        rw [← hline]
        exact onward_readOne u _ _

theorem onward_step (s : Lexer) : Onward s.line s.step := by
  unfold step
  split
  · exact onward_readLineStart s
  · split
    · exact Nat.le_refl _
    · exact onward_readOne s _ _

theorem line_le_of_step (h : s.step = .ok t) : s.line ≤ t.line := by
  have honward := onward_step s
  rwa [h] at honward

/-- A run is not refused on a line that it has left. -/
theorem line_le_of_run_error {e : SyntaxError} (h : s.run = .error e) : s.line ≤ e.line := by
  fun_induction run s with
  | case1 s hs => cases h
  | case2 s hs e' hstep =>
      have honward := onward_step s
      rw [hstep] at honward
      cases h
      exact Nat.le_of_eq honward.symm
  | case3 s hs t hstep ih => exact Nat.le_trans (line_le_of_step hstep) (ih h)

/-! ## Whole runs -/

/-- How a run goes in the second text. -/
inductive Follows (n : Nat) (s t : Lexer) : Prop
  /-- It is refused alike. -/
  | refused (e : SyntaxError) (hs : s.run = .error e) (ht : t.run = .error e)
      (hsingle : ¬ s.ReadsAcross false)
  /-- It ends alike, with more carriage returns if a literal ran over a line end. -/
  | along {u v : Lexer} (k : Nat) (hs : s.run = .ok u) (ht : t.run = .ok v)
      (h : Mirrors (n + k) u v) (hsingle : ¬ s.ReadsAcross false)
      (htriple : s.ReadsAcross true ↔ k ≠ 0)
  /-- It is refused at a literal that the first text goes on behind. -/
  | broken (line : Nat) (hs : s.run ≠ .error ⟨line, .unterminatedString⟩)
      (ht : t.run = .error ⟨line, .unterminatedString⟩) (hsingle : s.ReadsAcross false)

/-- By induction on the run of the first text, one step at a time. -/
theorem Mirrors.run {n : Nat} {s t : Lexer} (h : Mirrors n s t) : Follows n s t := by
  fun_induction Lexer.run s generalizing n t with
  | case1 s hs =>
      have ht : t.rest = [] := by
        obtain ⟨rest', done', -, htext, -⟩ := h
        rcases htext with rfl | ⟨more, hmore, -⟩
        · exact congrArg crlf hs
        · exact absurd (hs.symm.trans hmore) (List.cons_ne_nil _ _).symm
      exact .along 0 (run_of_nil hs) (run_of_nil ht) h (ReadsAcross.not_of_nil hs)
        (by simp [ReadsAcross.not_of_nil hs])
  | case2 s hs e hstep =>
      obtain ⟨r, ht, habreast⟩ := h.step hs
      rw [hstep] at habreast
      cases habreast
      exact .refused e (by rw [run_eq hs, hstep]) ht (ReadsAcross.not_of_error hstep)
  | case3 s hs u hstep ih =>
      obtain ⟨r, ht, habreast⟩ := h.step hs
      have hrun := run_of_step hs hstep
      rw [hstep] at habreast
      cases habreast with
      | @along _ v hsingle hmirrors =>
          have hfalse : s.ReadsAcross false ↔ u.ReadsAcross false := by
            rw [ReadsAcross.iff_of_step hs hstep, hsingle]
            simp
          have htrue : s.ReadsAcross true ↔ 0 < linesCrossed true s.ahead ∨ u.ReadsAcross true :=
            ReadsAcross.iff_of_step hs hstep
          cases ih hmirrors with
          | refused e hu hv hsingle =>
              exact .refused e (hrun.trans hu) (ht.trans hv) (hfalse.not.mpr hsingle)
          | along k hu hv hm hsingle htriple =>
              rw [Nat.add_assoc] at hm
              refine .along _ (hrun.trans hu) (ht.trans hv) hm (hfalse.not.mpr hsingle) ?_
              rw [htrue, htriple]
              omega
          | broken line hu hv hsingle =>
              exact .broken line (hrun ▸ hu) (ht.trans hv) (hfalse.mpr hsingle)
      | broken hsingle hline =>
          have hreads := (ReadsAcross.iff_of_step hs hstep).mpr (.inl hsingle)
          refine .broken s.line (fun herror => ?_) ht hreads
          exact absurd (line_le_of_run_error (hrun.symm.trans herror)) (Nat.not_le.mpr hline)

/-- How two lexers that have come to the end of their texts finish. -/
inductive Finished (n : Nat) :
    Except SyntaxError (List Token) → Except SyntaxError (List Token) → Prop
  | open (line : Nat) (b : Bracket) :
      Finished n (.error ⟨line, .neverClosed b⟩) (.error ⟨line, .neverClosed b⟩)
  | closed {ts ts' : List Token} (hcount : carriageReturns ts' = carriageReturns ts + n)
      (hsame : n = 0 → ts' = ts) : Finished n (.ok ts) (.ok ts')

theorem carriageReturns_append (ts us : List Token) :
    carriageReturns (ts ++ us) = carriageReturns ts + carriageReturns us := by
  induction ts with
  | nil => exact (Nat.zero_add _).symm
  | cons t ts ih =>
      rw [List.cons_append, carriageReturns_cons, carriageReturns_cons, ih, Nat.add_assoc]

theorem carriageReturns_reverse (ts : List Token) :
    carriageReturns ts.reverse = carriageReturns ts := by
  induction ts with
  | nil => rfl
  | cons t ts ih =>
      rw [List.reverse_cons, carriageReturns_append, ih, carriageReturns_cons, Nat.add_comm]
      rfl

theorem Mirrors.finish {n : Nat} {s t : Lexer} (h : Mirrors n s t) :
    Finished n s.finish t.finish := by
  cases h with | mk rest' done' _ _ hdone =>
  have hempty : lineIsEmpty { s with rest := rest', done := done' } = s.lineIsEmpty :=
    Retold.lineIsEmpty hdone
  have hclosed {done done' : List Token} (h : Retold n done done') (layout : List Token) :
      Finished n (.ok (done.reverse ++ layout)) (.ok (done'.reverse ++ layout)) := by
    refine .closed ?_ fun hn => by rw [h.same hn]
    rw [carriageReturns_append, carriageReturns_append, carriageReturns_reverse,
      carriageReturns_reverse, h.count]
    omega
  unfold Lexer.finish
  rw [hempty]
  dsimp only
  cases s.brackets with
  | cons b outer => exact .open _ _
  | nil =>
      dsimp only
      rw [List.append_assoc, List.append_assoc]
      split
      · exact hclosed hdone _
      · exact hclosed (hdone.cons _) _

/-- A byte order mark stays in front of the text. -/
theorem mirrors_start {cs : List Char} (hfree : '\r' ∉ cs) :
    Mirrors 0 (start cs) (start (crlf cs)) := by
  have htext : ∃ rest, (start cs).rest = rest ∧ (start (crlf cs)).rest = crlf rest ∧
      rest <:+ cs := by
    cases cs with
    | nil => exact ⟨[], rfl, rfl, List.suffix_rfl⟩
    | cons c cs =>
        by_cases hmark : c = '\ufeff'
        · subst hmark
          exact ⟨cs, rfl, rfl, List.suffix_cons _ _⟩
        · refine ⟨c :: cs, ?_, ?_, List.suffix_rfl⟩
          · simp [start, hmark]
          · by_cases hc : c = '\n'
            · simp [start, hc]
            · simp [start, crlf_cons hc, hmark]
  obtain ⟨rest, hs, ht, hsuffix⟩ := htext
  have hstart : start (crlf cs) = { start cs with rest := crlf rest, done := [] } := by
    rw [← ht]
    rfl
  rw [hstart]
  exact .mk _ _ _ (fun h => hfree (hsuffix.subset (hs ▸ h))) (.inl (by rw [hs])) (.refl [])

end Lexer

/-- The text as it is stored where lines end in two characters. -/
def crlfText (text : String) : String := String.ofList (crlf text.toList)

theorem tokenize_eq (text : String) :
    tokenize text = (Lexer.start text.toList).run.bind Lexer.finish := rfl

/-- The tokens and the errors of a text do not depend on how its lines end, but for literals that
run over a line end: one in single quotes is cut there, and one in triple quotes changes the tokens
of a text that has any. -/
theorem tokenize_crlf_iff {text : String} (hfree : '\r' ∉ text.toList) :
    tokenize (crlfText text) = tokenize text ↔
      ¬ (Lexer.start text.toList).ReadsAcross false ∧
        ((∃ ts, tokenize text = .ok ts) → ¬ (Lexer.start text.toList).ReadsAcross true) := by
  have htext : tokenize (crlfText text) =
      (Lexer.start (crlf text.toList)).run.bind Lexer.finish := by
    rw [tokenize_eq, crlfText, String.toList_ofList]
  rw [htext, tokenize_eq]
  cases (Lexer.mirrors_start hfree).run with
  | refused e hs ht hsingle => simp [hs, ht, hsingle, Except.bind]
  | broken line hs ht hsingle =>
      simp only [hsingle, not_true_eq_false, false_and, iff_false, ht]
      intro h
      cases hrun : (Lexer.start text.toList).run with
      | error e =>
          rw [hrun] at hs h
          cases h
          exact hs rfl
      | ok s =>
          rw [hrun] at h
          have hfinish : s.finish = .error ⟨line, .unterminatedString⟩ := h.symm
          unfold Lexer.finish at hfinish
          split at hfinish <;> cases hfinish
  | @along u v k hs ht h hsingle htriple =>
      have hfinish := h.finish
      simp only [hs, ht, hsingle, htriple, Except.bind, not_false_eq_true, true_and]
      rw [Nat.zero_add] at hfinish
      generalize u.finish = r at hfinish ⊢
      generalize v.finish = r' at hfinish ⊢
      cases hfinish with
      | «open» line b => simp
      | @closed ts ts' hcount hsame =>
          simp only [Except.ok.injEq, exists_eq', forall_const, ne_eq, not_not]
          constructor
          · intro heq
            rw [heq] at hcount
            omega
          · exact hsame

/-- The tokens do not depend on line ends where every literal stays on its line. -/
theorem tokenize_crlf_iff_call :
    '\r' ∉ "x = f(1,\n  'a')  # one\n".toList ∧
      (tokenize (crlfText "x = f(1,\n  'a')  # one\n") = tokenize "x = f(1,\n  'a')  # one\n" ↔
        ¬ (Lexer.start "x = f(1,\n  'a')  # one\n".toList).ReadsAcross false ∧
          ((∃ ts, tokenize "x = f(1,\n  'a')  # one\n" = .ok ts) →
            ¬ (Lexer.start "x = f(1,\n  'a')  # one\n".toList).ReadsAcross true)) :=
  ⟨by decide, tokenize_crlf_iff (by decide)⟩

/-- A string continued on the next line is read where lines end in one character and refused where
they end in two; one in triple quotes gets another value. -/
theorem line_end_in_literal :
    tokenize "'a\\\nb'" = .ok [⟨.str "ab" true, 1⟩, ⟨.newline, 2⟩, ⟨.endMarker, 2⟩] ∧
      tokenize (crlfText "'a\\\nb'") = .error ⟨1, .unterminatedString⟩ ∧
      tokenize "'''a\nb'''" = .ok [⟨.str "a\nb" true, 1⟩, ⟨.newline, 2⟩, ⟨.endMarker, 2⟩] ∧
      tokenize (crlfText "'''a\nb'''") =
        .ok [⟨.str "a\r\nb" true, 1⟩, ⟨.newline, 2⟩, ⟨.endMarker, 2⟩] := by
  simp only [tokenize_eq_steps]
  refine ⟨?_, ?_, ?_, ?_⟩ <;> with_unfolding_all rfl

end DeclaredSchema.Source
