import DeclaredSchema.Proofs.Source.FollowedTexts

/-! # Runs side by side

Two lexers at the same place of a text, with the same blocks and brackets open, read the same from
there, whatever they have read before and on whatever lines they stand: token for token and fault
for fault, with lines that stay related the way they were (`alongside_run_finish`).
-/

namespace DeclaredSchema.Source

variable {L : Nat → Nat → Prop}

/-- The same token, on a related line. -/
def SameToken (L : Nat → Nat → Prop) (t u : Token) : Prop := u.kind = t.kind ∧ L t.line u.line

/-- The same bracket, opened on a related line. -/
def SameBracket (L : Nat → Nat → Prop) (a b : Bracket × Nat) : Prop := b.1 = a.1 ∧ L a.2 b.2

namespace Lexer

/-- Tokens that the next one neither continues nor ends the line of. -/
def LineEmpty (done : List Token) : Prop := ∀ t ∈ done.head?, t.isLayout = true

/-- Two lexers that have read the same since the one had read `old` and the other `old'`. -/
structure Alongside (L : Nat → Nat → Prop) (old old' : List Token) (s t : Lexer) : Prop where
  rest : t.rest = s.rest
  line : L s.line t.line
  done : ∃ new new', s.done = new ++ old ∧ t.done = new' ++ old' ∧
    List.Forall₂ (SameToken L) new new'
  indents : t.indents = s.indents
  brackets : List.Forall₂ (SameBracket L) s.brackets t.brackets
  lineStart : t.lineStart = s.lineStart

/-- The same result, on related lines. -/
inductive SameResult {α : Type} (L : Nat → Nat → Prop) (R : α → α → Prop) :
    Except SyntaxError α → Except SyntaxError α → Prop
  | error {m n : Nat} (cause : SyntaxError.Cause) (line : L m n) :
      SameResult L R (.error ⟨m, cause⟩) (.error ⟨n, cause⟩)
  | ok {x y : α} (h : R x y) : SameResult L R (.ok x) (.ok y)

section Steps

variable {old old' : List Token} {s t : Lexer} {c : Char} {cs : List Char}

namespace Alongside

/-- Both go on to the same place of the text. -/
theorem goOn (h : Alongside L old old' s t) (rest : List Char) :
    Alongside L old old' { s with rest } { t with rest } :=
  { h with rest := rfl }

theorem mark (h : Alongside L old old' s t) (start : Bool) :
    Alongside L old old' { s with lineStart := start } { t with lineStart := start } :=
  { h with lineStart := rfl }

theorem push (h : Alongside L old old' s t) (kind : Token.Kind) :
    Alongside L old old' (s.push kind s.line) (t.push kind t.line) where
  rest := h.rest
  line := h.line
  done := by
    obtain ⟨new, new', hs, ht, htokens⟩ := h.done
    refine ⟨⟨kind, s.line⟩ :: new, ⟨kind, t.line⟩ :: new', ?_, ?_, .cons ⟨rfl, h.line⟩ htokens⟩
    · rw [Lexer.push, hs, List.cons_append]
    · rw [Lexer.push, ht, List.cons_append]
  indents := h.indents
  brackets := h.brackets
  lineStart := h.lineStart

theorem lineIsEmpty (h : Alongside L old old' s t) (hold : LineEmpty old)
    (hold' : LineEmpty old') : t.lineIsEmpty = s.lineIsEmpty := by
  obtain ⟨new, new', hs, ht, htokens⟩ := h.done
  have hempty {u : Lexer} {done : List Token} (hdone : LineEmpty done) (hu : u.done = done) :
      u.lineIsEmpty = true := by
    unfold Lexer.lineIsEmpty
    rw [hu]
    cases done with
    | nil => rfl
    | cons first rest => exact hdone first rfl
  cases htokens with
  | nil => rw [hempty hold hs, hempty hold' ht]
  | cons hfirst _ =>
      unfold Lexer.lineIsEmpty
      rw [hs, ht]
      simp only [List.cons_append, Token.isLayout, hfirst.1]

/-- A literal is added to both, or continues the one that both have read last. -/
theorem literal (h : Alongside L old old' s t) (hold : LineEmpty old) (hold' : LineEmpty old')
    (value : List Char) (plain : Bool) :
    Alongside L old old' { s with done := pushString s.done value plain s.line }
      { t with done := pushString t.done value plain t.line } where
  rest := h.rest
  line := h.line
  indents := h.indents
  brackets := h.brackets
  lineStart := h.lineStart
  done := by
    have hfirst {done : List Token} (hdone : LineEmpty done) (line : Nat) :
        pushString done value plain line = ⟨.str (String.ofList value) plain, line⟩ :: done :=
      pushString_of_first (fun u hu => isString_of_layout (hdone u hu)) value plain line
    obtain ⟨new, new', hs, ht, htokens⟩ := h.done
    dsimp only
    rw [hs, ht]
    cases htokens with
    | nil => exact ⟨[⟨_, s.line⟩], [⟨_, t.line⟩], hfirst hold _, hfirst hold' _,
        .cons ⟨rfl, h.line⟩ .nil⟩
    | @cons a b new new' hsame htokens =>
        obtain ⟨kind, m⟩ := a
        obtain ⟨kind', n⟩ := b
        obtain ⟨hkind, hline⟩ := hsame
        change kind' = kind at hkind
        subst hkind
        cases kind' with
        | str before p =>
            exact ⟨⟨_, m⟩ :: new, ⟨_, n⟩ :: new', rfl, rfl, .cons ⟨rfl, hline⟩ htokens⟩
        | _ =>
            exact ⟨⟨_, s.line⟩ :: ⟨_, m⟩ :: new, ⟨_, t.line⟩ :: ⟨_, n⟩ :: new', rfl, rfl,
              .cons ⟨rfl, h.line⟩ (.cons ⟨rfl, hline⟩ htokens)⟩

end Alongside

theorem forall₂_dedents {m n : Nat} (hline : L m n) (k : Nat) :
    List.Forall₂ (SameToken L) (List.replicate k ⟨.dedent, m⟩) (List.replicate k ⟨.dedent, n⟩) := by
  induction k with
  | zero => exact .nil
  | succ k ih => exact .cons ⟨rfl, hline⟩ ih

variable (h : Alongside L old old' s t) (hold : LineEmpty old) (hold' : LineEmpty old')
  (hL : ∀ m n k, L m n → L (m + k) (n + k))
include h

omit h in
/-- Both have taken as many line ends off the text. -/
theorem Alongside.onward (h : Alongside L old old' s t)
    (hL : ∀ m n k, L m n → L (m + k) (n + k)) (lines : Nat) :
    Alongside L old old' { s with line := s.line + lines } { t with line := t.line + lines } where
  rest := h.rest
  line := hL _ _ lines h.line
  done := h.done
  indents := h.indents
  brackets := h.brackets
  lineStart := h.lineStart

include hold hold' hL in
theorem alongside_readString (how : StringPrefix) (quote : Char) :
    SameResult L (Alongside L old old') (s.readString how quote cs)
      (t.readString how quote cs) := by
  rw [readString_eq, readString_eq]
  split
  · exact .error _ h.line
  · next b _ =>
      exact .ok (((h.literal hold hold' b.value _).goOn b.rest).onward hL b.lines)

include hold hold' hL in
theorem alongside_readWord :
    SameResult L (Alongside L old old') (s.readWord cs) (t.readWord cs) := by
  have hplain : SameResult L (Alongside L old old')
      (.ok { s.push (.name (String.ofList (cs.takeWhile isWordPart))) s.line with
        rest := cs.dropWhile isWordPart })
      (.ok { t.push (.name (String.ofList (cs.takeWhile isWordPart))) t.line with
        rest := cs.dropWhile isWordPart }) :=
    .ok ((h.push _).goOn _)
  unfold readWord
  dsimp only
  split
  · split
    · exact alongside_readString h hold hold' hL _ _
    · exact hplain
  · exact hplain

theorem alongside_readSymbol :
    SameResult L (Alongside L old old') (s.readSymbol c cs) (t.readSymbol c cs) := by
  unfold readSymbol
  split
  · exact .error _ h.line
  next symbol _ =>
  have hread := (h.push (.symbol symbol)).goOn ((c :: cs).drop symbol.chars.length)
  dsimp only
  split
  · next b _ =>
      exact .ok { hread with brackets := .cons ⟨rfl, h.line⟩ h.brackets }
  · next b _ _ =>
      have hbrackets := h.brackets
      generalize s.brackets = brackets at hbrackets
      generalize t.brackets = brackets' at hbrackets
      cases hbrackets with
      | nil => exact .error _ h.line
      | @cons a a' outer outer' hsame hrest =>
          obtain ⟨opened, m⟩ := a
          obtain ⟨opened', n⟩ := a'
          obtain ⟨hopened, -⟩ := hsame
          change opened' = opened at hopened
          subst hopened
          dsimp only
          split
          · exact .ok { hread with brackets := hrest }
          · exact .error _ h.line
  · exact .ok hread

include hold hold' hL in
theorem alongside_endLine :
    Alongside L old old' (s.endLine cs) (t.endLine cs) := by
  have hopen : t.brackets.isEmpty = s.brackets.isEmpty := by
    have hbrackets := h.brackets
    generalize s.brackets = brackets at hbrackets ⊢
    generalize t.brackets = brackets' at hbrackets ⊢
    cases hbrackets <;> rfl
  unfold endLine
  rw [hopen, h.lineIsEmpty hold hold']
  split
  · exact (((h.push .newline).goOn cs).mark _).onward hL 1
  · exact ((h.goOn cs).mark _).onward hL 1

include hold hold' hL in
theorem alongside_readOne :
    SameResult L (Alongside L old old') (s.readOne c cs) (t.readOne c cs) := by
  unfold readOne
  split
  · exact .ok (h.goOn cs)
  split
  · exact .ok (h.goOn _)
  split
  · exact .ok (alongside_endLine h hold hold' hL)
  split
  · exact .ok ((h.push _).goOn _)
  split
  · exact alongside_readWord h hold hold' hL
  split
  · exact alongside_readString h hold hold' hL _ _
  split
  · exact .ok ((h.goOn _).onward hL 1)
  · exact alongside_readSymbol h

theorem alongside_shiftBlocks (width : Nat) :
    SameResult L (Alongside L old old') (s.shiftBlocks width) (t.shiftBlocks width) := by
  unfold shiftBlocks
  dsimp only
  rw [h.indents]
  split
  · exact .ok { h.push .indent with indents := rfl }
  split
  · rw [closeBlocks_eq, closeBlocks_eq]
    dsimp only
    split
    · refine .ok { h with indents := rfl, done := ?_ }
      obtain ⟨new, new', hs, ht, htokens⟩ := h.done
      dsimp only
      rw [hs, ht, ← List.append_assoc, ← List.append_assoc]
      exact ⟨_, _, rfl, rfl, List.rel_append (forall₂_dedents h.line _) htokens⟩
    · exact .error _ h.line
  · exact .ok h

include hold hold' hL in
theorem alongside_readLineStart :
    SameResult L (Alongside L old old') s.readLineStart t.readLineStart := by
  unfold readLineStart
  rw [h.rest]
  dsimp only
  split
  · exact .ok ((h.goOn _).mark _)
  · exact .ok ((h.goOn _).mark _)
  · exact .ok (((h.goOn _).mark _).onward hL 1)
  · exact .ok (((h.goOn _).mark _).onward hL 1)
  · have hshift := alongside_shiftBlocks ((h.goOn (indentation 0 s.rest).2).mark false)
      (indentation 0 s.rest).1
    generalize shiftBlocks _ _ = result at hshift ⊢
    generalize shiftBlocks _ _ = result' at hshift ⊢
    cases hshift with
    | error cause line => exact .error cause line
    | ok h => exact alongside_readOne h hold hold' hL

include hold hold' hL in
/-- One step of both. -/
theorem alongside_step : SameResult L (Alongside L old old') s.step t.step := by
  have hopen : t.brackets.isEmpty = s.brackets.isEmpty := by
    have hbrackets := h.brackets
    generalize s.brackets = brackets at hbrackets ⊢
    generalize t.brackets = brackets' at hbrackets ⊢
    cases hbrackets <;> rfl
  unfold step
  rw [h.rest, h.lineStart, hopen]
  split
  · exact alongside_readLineStart h hold hold' hL
  · split
    · exact .ok h
    · exact alongside_readOne h hold hold' hL

include hold hold' hL in
/-- By induction on the run of the first. -/
theorem alongside_run : SameResult L (Alongside L old old') s.run t.run := by
  fun_induction run s generalizing t with
  | case1 s hs =>
      rw [run_of_nil (h.rest.trans hs)]
      exact .ok h
  | case2 s hs e hstep =>
      have hboth := alongside_step h hold hold' hL
      rw [hstep] at hboth
      rw [run_eq (by rwa [h.rest])]
      generalize t.step = result at hboth ⊢
      cases hboth with
      | error cause line => exact .error cause line
  | case3 s hs u hstep ih =>
      have hboth := alongside_step h hold hold' hL
      rw [hstep] at hboth
      rw [run_eq (s := t) (by rwa [h.rest])]
      generalize t.step = result at hboth ⊢
      cases hboth with
      | ok h => exact ih h

/-! ## Whole texts -/

/-- The tokens that two lexers end with have been read the same. -/
def SameTokens (L : Nat → Nat → Prop) (old old' ts ts' : List Token) : Prop :=
  ∃ more more', ts = old.reverse ++ more ∧ ts' = old'.reverse ++ more' ∧
    List.Forall₂ (SameToken L) more more'

include hold hold' in
theorem alongside_finish : SameResult L (SameTokens L old old') s.finish t.finish := by
  have hend {u v : Lexer} (h : Alongside L old old' u v) :
      SameTokens L old old'
        (u.done.reverse ++ u.indents.map (fun _ => (⟨.dedent, u.line⟩ : Token)) ++
          [⟨.endMarker, u.line⟩])
        (v.done.reverse ++ v.indents.map (fun _ => (⟨.dedent, v.line⟩ : Token)) ++
          [⟨.endMarker, v.line⟩]) := by
    obtain ⟨new, new', hs, ht, htokens⟩ := h.done
    rw [hs, ht, h.indents, List.map_const', List.map_const', List.reverse_append,
      List.reverse_append, List.append_assoc, List.append_assoc, List.append_assoc,
      List.append_assoc]
    exact ⟨_, _, rfl, rfl, List.rel_append (List.rel_reverse htokens)
      (List.rel_append (forall₂_dedents h.line _) (.cons ⟨rfl, h.line⟩ .nil))⟩
  have hbrackets := h.brackets
  unfold finish
  rw [h.lineIsEmpty hold hold']
  generalize s.brackets = brackets at hbrackets ⊢
  generalize t.brackets = brackets' at hbrackets ⊢
  cases hbrackets with
  | @cons a a' _ _ hsame _ =>
      obtain ⟨b, m⟩ := a
      obtain ⟨b', n⟩ := a'
      obtain ⟨hb, hline⟩ := hsame
      change b' = b at hb
      subst hb
      exact .error _ hline
  | nil =>
      dsimp only
      split
      · exact .ok (hend h)
      · exact .ok (hend (h.push .newline))

include hold hold' hL in
/-- What both read from here to the end of the text. -/
theorem alongside_run_finish :
    SameResult L (SameTokens L old old') (s.run.bind finish) (t.run.bind finish) := by
  have hrun := alongside_run h hold hold' hL
  generalize s.run = result at hrun ⊢
  generalize t.run = result' at hrun ⊢
  cases hrun with
  | error cause line => exact .error cause line
  | ok h => exact alongside_finish h hold hold'

end Steps

end Lexer

end DeclaredSchema.Source
