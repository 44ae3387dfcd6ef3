import DeclaredSchema.Proofs.Source.ParallelRuns

/-! # Blank lines and comments

A line of blanks, with a comment or without one, is passed over where it stands at the beginning of
a line, however wide its blanks are. What follows is read as before, one line further down
(`blank_line_is_invisible`).
-/

namespace DeclaredSchema.Source

/-- A line of blanks, with a comment behind them or nothing. -/
inductive BlankLine : List Char → Prop
  | empty {blanks : List Char} (blank : ∀ c ∈ blanks, c ∈ [' ', '\t', '\x0c']) :
      BlankLine (blanks ++ ['\n'])
  | comment {blanks text : List Char} (blank : ∀ c ∈ blanks, c ∈ [' ', '\t', '\x0c'])
      (line : '\n' ∉ text) : BlankLine (blanks ++ '#' :: (text ++ ['\n']))

def Token.down (t : Token) : Token := { t with line := t.line + 1 }

def SyntaxError.down (e : SyntaxError) : SyntaxError := { e with line := e.line + 1 }

/-- What comes of a text with one more line behind its first `n` tokens. -/
def pushedDown (n : Nat) : Except SyntaxError (List Token) → Except SyntaxError (List Token)
  | .ok ts => .ok (ts.take n ++ (ts.drop n).map Token.down)
  | .error e => .error e.down

namespace Lexer

variable {s t : Lexer} {cs line : List Char}

/-- Blanks are measured up to what stands behind them. -/
theorem indentation_blanks {blanks : List Char} (blank : ∀ c ∈ blanks, c ∈ [' ', '\t', '\x0c'])
    {c : Char} (hc : c ∉ [' ', '\t', '\x0c']) (width : Nat) (rest : List Char) :
    ∃ n, indentation width (blanks ++ c :: rest) = (n, c :: rest) := by
  induction blanks generalizing width with
  | nil =>
      simp only [List.mem_cons, List.not_mem_nil, or_false, not_or] at hc
      exact ⟨width, indentation.eq_4 _ _ (fun r h => hc.1 (List.cons.inj h).1)
        (fun r h => hc.2.1 (List.cons.inj h).1) (fun r h => hc.2.2 (List.cons.inj h).1)⟩
  | cons b blanks ih =>
      obtain ⟨hb, hblanks⟩ := List.forall_mem_cons.mp blank
      simp only [List.mem_cons, List.not_mem_nil, or_false] at hb
      rcases hb with rfl | rfl | rfl <;> exact ih hblanks _

/-- A blank line is passed over: neither the blocks nor the tokens change. -/
theorem reaches_blankLine (hs : s.AtRest) (atStart : s.lineStart = true) (blank : BlankLine line)
    (rest : List Char) :
    Reaches { s with rest := line ++ rest } { s with rest, line := s.line + 1 } := by
  obtain ⟨outside, empty⟩ := hs atStart
  have hbegin (rest : List Char) :
      step { s with rest } = readLineStart { s with rest } := by
    rw [step]
    dsimp only
    rw [atStart, outside]
    rfl
  have hline : { s with rest, line := s.line + 1 } =
      { s with rest, line := s.line + 1, lineStart := true } := by
    rw [atStart]
  rw [hline]
  cases blank with
  | @empty blanks blank =>
      rw [List.append_assoc, List.singleton_append]
      obtain ⟨n, hn⟩ := indentation_blanks blank (c := '\n') (by decide) 0 rest
      refine .single ⟨by simp, (hbegin _).trans ?_⟩
      exact readLineStart_lineFeed (s := { s with rest := blanks ++ '\n' :: rest }) hn
  | @comment blanks text blank noLine =>
      rw [List.append_assoc, List.cons_append, List.append_assoc, List.singleton_append]
      obtain ⟨n, hn⟩ := indentation_blanks blank (c := '#') (by decide) 0 (text ++ '\n' :: rest)
      let behind : Lexer := { s with rest := '\n' :: rest, lineStart := false }
      have hcomment : step { s with rest := blanks ++ '#' :: (text ++ '\n' :: rest) } =
          .ok behind := by
        refine (hbegin _).trans ?_
        rw [readLineStart_comment hn, skipComment_line noLine]
      have hend : behind.step = .ok { s with rest, line := s.line + 1, lineStart := true } := by
        rw [step_of_begun (s := behind) rfl rfl]
        have hempty : behind.lineIsEmpty = true := empty
        have hread : behind.readOne '\n' rest = .ok (behind.endLine rest) := rfl
        rw [hread, endLine, hempty, Bool.not_true, Bool.and_false, if_neg Bool.false_ne_true]
        have hopen : behind.brackets.isEmpty = true := by
          rw [show behind.brackets = [] from outside]
          rfl
        rw [hopen]
      exact .head ⟨by simp, hcomment⟩ (.single ⟨List.cons_ne_nil _ _, hend⟩)

/-! ## The text in front of a place -/

theorem start_of_head {cs : List Char} (h : '\ufeff' ∉ cs.head?) :
    start cs = (start []).followed cs := by
  unfold start followed
  cases cs with
  | nil => rfl
  | cons c cs =>
      have hc : c ≠ '\ufeff' := fun hc => h (by rw [hc]; rfl)
      simp [hc]

theorem start_append {before : List Char} (h : before ≠ []) (more : List Char) :
    start (before ++ more) = (start before).followed more := by
  obtain ⟨c, cs, rfl⟩ := List.exists_cons_of_ne_nil h
  unfold start followed
  by_cases hc : c = '\ufeff'
  · subst hc
    rfl
  · simp [hc]

/-- A lexer that stands at a place of a text has come there by the text in front of it. -/
theorem exists_start_followed {text before : List Char} (reached : (start text).Reaches s)
    (place : text = before ++ s.rest) :
    start text = (start before).followed s.rest ∧
      (before = [] → '\ufeff' ∉ s.rest.head?) := by
  by_cases hbefore : before = []
  · subst hbefore
    rw [List.nil_append] at place
    have hhead : '\ufeff' ∉ s.rest.head? := by
      intro hmark
      obtain ⟨rest, hrest⟩ := List.head?_eq_some_iff.mp hmark
      have hlength := (Reaches.suffix reached (atRest_start text)).length_le
      rw [place, hrest] at hlength
      simp [start] at hlength
    rw [place]
    exact ⟨start_of_head hhead, fun _ => hhead⟩
  · rw [place]
    exact ⟨start_append hbefore s.rest, fun h => absurd h hbefore⟩

/-- Where a line begins, what has been read was read from the text in front of it. -/
theorem exists_reaches_before {text before : List Char} (reached : (start text).Reaches s)
    (atStart : s.lineStart = true) (place : text = before ++ s.rest) :
    FullLines (start before).rest ∧
      ∃ u, (start before).Reaches u ∧ u.rest = [] ∧ s = u.followed s.rest := by
  obtain ⟨htext, -⟩ := exists_start_followed reached place
  obtain ⟨lines, hlines, full⟩ := fullLines_of_reaches reached (atRest_start _) atStart
  rw [htext] at hlines reached
  have hfull : FullLines (start before).rest := by
    have hrest : (start before).rest = lines := List.append_cancel_right hlines
    rwa [hrest]
  obtain ⟨u, hu, hs⟩ :=
    exists_reaches_followed (atRest_start before) hfull reached List.suffix_rfl
  have happend : s.rest = u.rest ++ s.rest := congrArg Lexer.rest hs
  exact ⟨hfull, u, hu, by simpa using happend, hs⟩

theorem head?_blankLine {line : List Char} (h : BlankLine line) (rest : List Char) :
    '\ufeff' ∉ (line ++ rest).head? := by
  have hblanks {blanks : List Char} (blank : ∀ c ∈ blanks, c ∈ [' ', '\t', '\x0c']) {c : Char}
      (hc : c ≠ '\ufeff') (rest : List Char) : '\ufeff' ∉ (blanks ++ c :: rest).head? := by
    cases blanks with
    | nil => exact fun h => hc (Option.some.inj h)
    | cons b blanks =>
        intro h
        rw [Option.some.inj h] at blank
        exact absurd (blank _ List.mem_cons_self) (by decide)
  cases h with
  | empty blank =>
      rw [List.append_assoc]
      exact hblanks blank (by decide) _
  | comment blank _ =>
      rw [List.append_assoc]
      exact hblanks blank (by decide) _

/-- With a blank line put in, a run comes to the same place one line further down. -/
theorem reaches_behind_blankLine {text before : List Char} (reached : (start text).Reaches s)
    (atStart : s.lineStart = true) (place : text = before ++ s.rest) (blank : BlankLine line) :
    (start (before ++ (line ++ s.rest))).Reaches { s with line := s.line + 1 } := by
  obtain ⟨hfull, u, hu, hrest, hs⟩ := exists_reaches_before reached atStart place
  have htext : start (before ++ (line ++ s.rest)) =
      (start before).followed (line ++ s.rest) := by
    by_cases hbefore : before = []
    · subst hbefore
      exact start_of_head (head?_blankLine blank s.rest)
    · exact start_append hbefore _
  have hfollowed := reaches_followed hu (atRest_start before) hfull (line ++ s.rest)
  have hu' : u.followed (line ++ s.rest) = { s with rest := line ++ s.rest } := by
    rw [hs, followed, followed, hrest]
    rfl
  rw [htext]
  exact (hu' ▸ hfollowed).trans
    (reaches_blankLine (reached.atRest (atRest_start text)) atStart blank s.rest)

end Lexer

theorem eq_map_down {ts us : List Token} (h : List.Forall₂ (SameToken fun m n => n = m + 1) ts us) :
    us = ts.map Token.down := by
  induction h with
  | nil => rfl
  | @cons t u ts us hsame _ ih =>
      obtain ⟨hkind, hline⟩ := hsame
      rw [List.map_cons, ← ih, Token.down, ← hkind, ← hline]

open Lexer in
/-- Where a line begins, and so no bracket is open, a blank line can be put in: the tokens are the
same, those that follow and a fault being one line further down. -/
theorem blank_line_is_invisible {text : String} {s : Lexer} {before line : List Char}
    (reached : (start text.toList).Reaches s) (atStart : s.lineStart = true)
    (place : text.toList = before ++ s.rest) (blank : BlankLine line) :
    tokenize (String.ofList (before ++ (line ++ s.rest))) =
        pushedDown s.done.length (tokenize text) ∧
      ∀ ts, tokenize text = .ok ts → s.done.reverse <+: ts := by
  obtain ⟨outside, hline⟩ := reached.atRest (atRest_start text.toList) atStart
  have hempty : LineEmpty s.done := fun t ht => by
    obtain ⟨rest, hdone⟩ := List.head?_eq_some_iff.mp ht
    rwa [lineIsEmpty, hdone] at hline
  have halongside : Alongside (fun m n => n = m + 1) s.done s.done s
      { s with line := s.line + 1 } := {
    rest := rfl
    line := rfl
    done := ⟨[], [], rfl, rfl, .nil⟩
    indents := rfl
    brackets := by
      rw [outside]
      exact .nil
    lineStart := rfl }
  have hboth := alongside_run_finish halongside hempty hempty fun m n k h => by omega
  rw [tokenize_eq, tokenize_eq, String.toList_ofList, run_of_reaches reached,
    run_of_reaches (reaches_behind_blankLine reached atStart place blank)]
  generalize s.run.bind finish = result at hboth ⊢
  generalize Except.bind _ _ = result' at hboth ⊢
  cases hboth with
  | error cause hline =>
      subst hline
      exact ⟨rfl, fun ts hts => by cases hts⟩
  | ok hsame =>
      obtain ⟨more, more', rfl, rfl, htokens⟩ := hsame
      rw [eq_map_down htokens]
      refine ⟨?_, fun ts hts => Except.ok.inj hts ▸ List.prefix_append _ _⟩
      have hlength : s.done.reverse.length = s.done.length := List.length_reverse
      rw [pushedDown, ← hlength, List.take_left, List.drop_left]

open Lexer in
/-- A comment to the left of a block leaves the block open. -/
theorem blank_line_is_invisible_in_block :
    let s : Lexer := {
      rest := "  b\n  c\n".toList, line := 2, indents := [], brackets := [], lineStart := true
      done := [⟨.newline, 1⟩, ⟨.symbol .colon, 1⟩, ⟨.name "a", 1⟩, ⟨.name "if", 1⟩] }
    (start "if a:\n  b\n  c\n".toList).Reaches s ∧ s.lineStart = true ∧
      "if a:\n  b\n  c\n".toList = "if a:\n".toList ++ s.rest ∧ BlankLine " # d\n".toList ∧
      tokenize "if a:\n # d\n  b\n  c\n" = pushedDown 4 (tokenize "if a:\n  b\n  c\n") ∧
      ∀ ts, tokenize "if a:\n  b\n  c\n" = .ok ts → s.done.reverse <+: ts := by
  intro s
  have reached : (start "if a:\n  b\n  c\n".toList).Reaches s :=
    reaches_of_steps (n := 5) (by with_unfolding_all rfl)
  have blanks : ∀ c ∈ [' '], c ∈ [' ', '\t', '\x0c'] := by simp
  have noLine : '\n' ∉ " d".toList := by decide
  have blank : BlankLine " # d\n".toList := .comment blanks noLine
  have place : "if a:\n  b\n  c\n".toList = "if a:\n".toList ++ s.rest := rfl
  have invisible := blank_line_is_invisible reached rfl place blank
  have text : String.ofList ("if a:\n".toList ++ (" # d\n".toList ++ s.rest)) =
      "if a:\n # d\n  b\n  c\n" := rfl
  rw [text] at invisible
  exact ⟨reached, rfl, place, blank, invisible⟩

end DeclaredSchema.Source
