import DeclaredSchema.Proofs.Source.LexerMoves
import DeclaredSchema.Proofs.Source.Outlines

/-! # How the tokens of a text are laid out

Marks of indentation stand between whole lines only, every line has a token and closes the brackets
that it opens, and as many blocks are closed as are opened, none before it is. The lexer keeps this
at every step (`Lexer.LaidOut`), so the tokens of every text have it.
-/

namespace DeclaredSchema.Source

/-- Whole lines and marks of indentation between them, from one number of open blocks to another. -/
inductive Laid : Nat → Nat → List Token → Prop
  | nil (depth : Nat) : Laid depth depth []
  | indent {a b : Nat} {ts : List Token} (n : Nat) (h : Laid (a + 1) b ts) :
      Laid a b (⟨.indent, n⟩ :: ts)
  | dedent {a b : Nat} {ts : List Token} (n : Nat) (h : Laid a b ts) :
      Laid (a + 1) b (⟨.dedent, n⟩ :: ts)
  | line {a b : Nat} {ts : List Token} (l : LogicalLine)
      (closed : depthBehind? 0 l.tokens = some 0) (h : Laid a b ts) : Laid a b (l.printed ++ ts)

namespace Laid

variable {a b c : Nat} {ts us : List Token}

theorem append (h : Laid a b ts) (hus : Laid b c us) : Laid a c (ts ++ us) := by
  induction h with
  | nil => exact hus
  | indent n _ ih => exact .indent n (ih hus)
  | dedent n _ ih => exact .dedent n (ih hus)
  | line l closed _ ih =>
      rw [List.append_assoc]
      exact .line l closed (ih hus)

/-- The last token of whole lines is no part of a line. -/
theorem isLayout_getLast (h : Laid a b ts) : ∀ t ∈ ts.getLast?, t.isLayout = true := by
  induction h with
  | nil => simp
  | @indent _ _ ts n _ ih | @dedent _ _ ts n _ ih =>
      intro t ht
      cases ts with
      | nil =>
          obtain rfl : _ = t := by simpa using ht
          rfl
      | cons u us => exact ih t (by rwa [List.getLast?_cons_cons] at ht)
  | @line _ _ ts l _ _ ih =>
      intro t ht
      cases ts with
      | nil =>
          obtain rfl : _ = t := by simpa [LogicalLine.printed] using ht
          rfl
      | cons u us =>
          exact ih t (by rwa [List.getLast?_append_of_ne_nil _ (List.cons_ne_nil _ _)] at ht)

end Laid

namespace Lexer

/-- The tokens that a lexer has read: whole lines, and the tokens of the line it is on, latest
first. -/
structure LaidOut (s : Lexer) (before line : List Token) : Prop where
  done : s.done = line ++ before.reverse
  laid : Laid 0 s.indents.length before
  plain : ∀ t ∈ line, t.isLayout = false
  depth : depthBehind? 0 line.reverse = some s.brackets.length
  start : s.lineStart = true → line = []

variable {s t : Lexer} {before line : List Token}

namespace LaidOut

theorem lineIsEmpty_iff (h : s.LaidOut before line) : s.lineIsEmpty = true ↔ line = [] := by
  unfold lineIsEmpty
  rw [h.done]
  cases line with
  | nil =>
      simp only [List.nil_append, iff_true]
      cases hb : before.reverse with
      | nil => rfl
      | cons t ts =>
          refine h.laid.isLayout_getLast t ?_
          rw [List.getLast?_eq_head?_reverse, hb]
          rfl
  | cons t ts =>
      have := h.plain t List.mem_cons_self
      simp [this]

/-- A token is read on the line. -/
theorem read (h : s.LaidOut before line) {token : Token} (hplain : token.isLayout = false)
    (hdone : t.done = token :: s.done) (hindents : t.indents = s.indents)
    (hdepth : token.depthBehind? s.brackets.length = some t.brackets.length)
    (hstart : t.lineStart = false) : t.LaidOut before (token :: line) where
  done := by rw [hdone, h.done, List.cons_append]
  laid := hindents ▸ h.laid
  plain := List.forall_mem_cons.mpr ⟨hplain, h.plain⟩
  depth := by
    rw [List.reverse_cons, depthBehind?_append, h.depth, Option.bind_some, depthBehind?_cons,
      hdepth]
    rfl
  start hs := absurd (hstart.symm.trans hs) Bool.false_ne_true

/-- Nothing but the place in the text changes. -/
theorem skip (h : s.LaidOut before line) (hdone : t.done = s.done)
    (hindents : t.indents = s.indents) (hbrackets : t.brackets = s.brackets) (hstart : t.lineStart = true → line = []) :
    t.LaidOut before line where
  done := by rw [hdone, h.done]
  laid := hindents ▸ h.laid
  plain := h.plain
  depth := by rw [hbrackets, h.depth]
  start := hstart

end LaidOut

/-- A token that is no bracket changes no depth. -/
theorem depthBehind?_word {token : Token} (h : token.opens = false ∧ token.closes = false)
    (depth : Nat) : token.depthBehind? depth = some depth :=
  Token.depthBehind?_of_not (by simp [h.1]) (by simp [h.2]) depth

theorem depthBehind?_literal (value : String) (plain : Bool) (first depth : Nat) :
    (Token.mk (.str value plain) first).depthBehind? depth = some depth :=
  depthBehind?_word ⟨rfl, rfl⟩ depth

theorem LaidOut.pushString (h : s.LaidOut before line) (value : List Char) (plain : Bool)
    {number : Nat} (hdone : t.done = pushString s.done value plain number)
    (hindents : t.indents = s.indents) (hbrackets : t.brackets = s.brackets)
    (hstart : t.lineStart = false) : ∃ line, t.LaidOut before line := by
  rcases pushString_cases s.done value plain number with
    ⟨hown, -⟩ | ⟨earlier, p, first, rest, value', p', hs, hjoined⟩
  · refine ⟨_, h.read rfl (hdone.trans hown) hindents ?_ hstart⟩
    rw [hbrackets]
    exact depthBehind?_literal _ _ _ _
  · have hline : line ≠ [] := by
      rw [Ne, ← h.lineIsEmpty_iff, lineIsEmpty, hs]
      simp [Token.isLayout]
    obtain ⟨x, line, rfl⟩ := List.exists_cons_of_ne_nil hline
    obtain ⟨rfl, rfl⟩ := List.cons.inj (h.done.symm.trans hs)
    have hdepth : depthBehind? 0 line.reverse = some s.brackets.length := by
      have hdepth := h.depth
      rw [List.reverse_cons, depthBehind?_append, Option.bind_eq_some_iff] at hdepth
      obtain ⟨depth, hline, hlast⟩ := hdepth
      rw [depthBehind?_cons, depthBehind?_literal] at hlast
      rw [hline]
      exact hlast
    have hbefore : LaidOut { s with done := line ++ before.reverse, lineStart := false }
        before line :=
      ⟨rfl, h.laid, fun t ht => h.plain t (.tail _ ht), hdepth, fun hs => by cases hs⟩
    refine ⟨_, hbefore.read rfl (hdone.trans hjoined) hindents ?_ hstart⟩
    rw [hbrackets]
    exact depthBehind?_literal _ _ _ _

/-- The tokens of a line that is ended where no bracket is open. -/
theorem LaidOut.ended (h : s.LaidOut before line) (hbrackets : s.brackets = []) (hline : line ≠ [])
    (n : Nat) : Laid 0 s.indents.length (before ++ (line.reverse ++ [⟨.newline, n⟩])) := by
  have hdepth := h.depth
  rw [hbrackets] at hdepth
  let whole : LogicalLine :=
    ⟨line.reverse, n, by simpa using hline, fun t ht => h.plain t (List.mem_reverse.mp ht)⟩
  have hwhole : Laid s.indents.length s.indents.length (whole.printed ++ []) :=
    .line whole hdepth (.nil _)
  rw [List.append_nil] at hwhole
  exact h.laid.append hwhole

/-- A block is opened or closed where no line has begun. -/
theorem LaidOut.shift (h : s.LaidOut before line) (empty : s.lineIsEmpty = true) {mark : Token}
    (hdone : t.done = mark :: s.done) (hlaid : Laid s.indents.length t.indents.length [mark])
    (hbrackets : t.brackets = []) : t.LaidOut (before ++ [mark]) [] where
  done := by
    rw [hdone, h.done, h.lineIsEmpty_iff.mp empty]
    simp
  laid := h.laid.append hlaid
  plain := by simp
  depth := by rw [hbrackets]; rfl
  start _ := rfl

/-- Every move of the lexer keeps its tokens laid out. -/
theorem LaidOut.move (h : s.LaidOut before line) (hmove : Move s t) :
    ∃ before line, t.LaidOut before line := by
  cases hmove with
  | skip done indents brackets start =>
      refine ⟨_, _, h.skip done indents brackets fun hstart => ?_⟩
      exact (start hstart).elim h.start fun hempty => h.lineIsEmpty_iff.mp hempty.2
  | token kind number ordinary done indents brackets start =>
      have hword : (Token.mk kind number).isLayout = false ∧ (Token.mk kind number).opens = false ∧
          (Token.mk kind number).closes = false := by
        cases kind <;>
          simp_all [isOrdinary, Token.isLayout, Token.opens, Token.opens?, Token.closes,
            Token.closes?]
      refine ⟨_, _, h.read hword.1 done indents ?_ start⟩
      rw [brackets]
      exact depthBehind?_word hword.2 _
  | literal value plain number done indents brackets start =>
      exact ⟨_, h.pushString value plain done indents brackets start⟩
  | opens symbol b number opening done indents brackets start =>
      refine ⟨_, _, h.read rfl done indents ?_ start⟩
      rw [brackets]
      exact Token.depthBehind?_of_opens (by simp [Token.opens, Token.opens?, opening]) _
  | closes symbol b number opened closing plain done indents brackets start =>
      refine ⟨_, _, h.read rfl done indents ?_ start⟩
      rw [brackets]
      exact Token.depthBehind?_of_closes (by simp [Token.opens, Token.opens?, plain])
        (by simp [Token.closes, Token.closes?, closing]) _
  | newline number outside begun done indents brackets =>
      have hline : line ≠ [] := by
        rw [Ne, ← h.lineIsEmpty_iff, begun]
        exact Bool.false_ne_true
      refine ⟨before ++ (line.reverse ++ [⟨.newline, number⟩]), [], ?_, ?_, by simp, ?_,
        fun _ => rfl⟩
      · simp [done, h.done]
      · rw [indents]
        exact h.ended outside hline number
      · rw [brackets]
        rfl
  | indent width number outside empty done indents brackets _ =>
      refine ⟨_, _, h.shift empty done ?_ brackets⟩
      rw [indents]
      exact .indent number (.nil _)
  | dedent width number outside empty done indents brackets _ =>
      refine ⟨_, _, h.shift empty done ?_ brackets⟩
      rw [indents]
      exact .dedent number (.nil _)

theorem LaidOut.moves (h : s.LaidOut before line) (hmoves : Moves s t) :
    ∃ before line, t.LaidOut before line := by
  induction hmoves with
  | refl => exact ⟨_, _, h⟩
  | tail _ hmove ih =>
      obtain ⟨before, line, hu⟩ := ih
      exact hu.move hmove

theorem laidOut_start (cs : List Char) : (start cs).LaidOut [] [] :=
  ⟨rfl, .nil 0, by simp, rfl, fun _ => rfl⟩

end Lexer

/-- The tokens of a text are whole lines and marks of indentation that close every block. -/
theorem laid_of_tokenize {text : String} {ts : List Token} (h : tokenize text = .ok ts) :
    ∃ lines last, ts = lines ++ [⟨.endMarker, last⟩] ∧ Laid 0 0 lines := by
  obtain ⟨s, last, hmoves, -, hindents, hempty, rfl⟩ := Lexer.moves_of_tokenize h
  obtain ⟨before, line, hs⟩ := (Lexer.laidOut_start _).moves hmoves
  obtain rfl := hs.lineIsEmpty_iff.mp hempty
  refine ⟨before, last, by rw [hs.done]; simp, ?_⟩
  have hlaid := hs.laid
  rwa [hindents] at hlaid

end DeclaredSchema.Source
