import DeclaredSchema.Proofs.Source.Ahead
import DeclaredSchema.Proofs.Source.BlankLines

/-! # Lines behind a block

The first line behind a block that is no wider than the lines around it closes the block, and so
does the end of the text. So what follows a block is read behind it like outside of it, but for the
mark that closes the block (`read_behind_block`). A line that is wider than the lines around it
opens a block outside (`indent_of_wider`), and in the block it is refused where it is narrower than
that (`refused_between`).
-/

namespace DeclaredSchema.Source

namespace Lexer

/-- The first line that has more than blanks and a comment: how wide its indentation is, and the
text behind that. -/
def firstLine? (cs : List Char) : Option (Nat × List Char) :=
  match _h : indentation 0 cs with
  | (_, []) => none
  | (_, '#' :: more) => firstLine? (skipComment more).tail
  | (_, '\n' :: more) => firstLine? more
  | (_, '\r' :: '\n' :: more) => firstLine? more
  | line => some line
termination_by cs.length
decreasing_by
  all_goals
    have hle := length_indentation_le 0 cs
    rw [_h] at hle
    simp only [List.length_cons] at hle
  · have hcomment := length_skipComment_le more
    rw [List.length_tail]
    omega
  · omega
  · omega

variable {s t : Lexer} {c : Char} {cs : List Char} {width w : Nat}

/-- Blocks that are no wider than the line stay open. -/
theorem closeBlocks_of_le {indents : List Nat} (h : indents.headD 0 ≤ width) (line : Nat)
    (done : List Token) : closeBlocks line width indents done = (indents, done) := by
  cases indents with
  | nil => rfl
  | cons v outer => exact if_neg (Nat.not_lt.mpr h)

/-- A block that is wider than the line is closed, and then those around it are. -/
theorem shiftBlocks_closing {outer : List Nat} (indents : s.indents = w :: outer)
    (hw : outer.headD 0 < w) (narrow : width ≤ outer.headD 0) :
    s.shiftBlocks width = shiftBlocks
      { s with indents := outer, done := ⟨.dedent, s.line⟩ :: s.done } width := by
  have hclose : closeBlocks s.line width s.indents s.done =
      closeBlocks s.line width outer (⟨.dedent, s.line⟩ :: s.done) := by
    rw [indents, closeBlocks, if_pos (Nat.lt_of_le_of_lt narrow hw)]
  have hwider : ¬ width > s.indents.headD 0 := by
    rw [indents]
    exact Nat.not_lt.mpr (Nat.le_of_lt (Nat.lt_of_le_of_lt narrow hw))
  have hnarrower : width < s.indents.headD 0 := by
    rw [indents]
    exact Nat.lt_of_le_of_lt narrow hw
  rw [shiftBlocks, if_neg hwider, if_pos hnarrower, hclose, shiftBlocks,
    if_neg (Nat.not_lt.mpr narrow)]
  obtain hlt | rfl := Nat.lt_or_eq_of_le narrow
  · rw [if_pos hlt]
    rfl
  · rw [if_neg (Nat.lt_irrefl _), closeBlocks_of_le (Nat.le_refl _)]
    exact if_pos rfl

/-- Between the widths of a block and of the lines around it there is no other. -/
theorem shiftBlocks_between {outer : List Nat} (indents : s.indents = w :: outer)
    (hw : width < w) (wider : outer.headD 0 < width) :
    s.shiftBlocks width = s.fail .inconsistentDedent := by
  have hclose : closeBlocks s.line width s.indents s.done =
      (outer, ⟨.dedent, s.line⟩ :: s.done) := by
    rw [indents, closeBlocks, if_pos hw, closeBlocks_of_le (Nat.le_of_lt wider)]
  have hnarrower : width < s.indents.headD 0 := by rwa [indents]
  rw [shiftBlocks, if_neg (Nat.not_lt.mpr (Nat.le_of_lt hnarrower)), if_pos hnarrower, hclose]
  exact if_neg (Nat.ne_of_lt wider)

/-! ## The first line -/

theorem step_of_lineStart (hs : s.AtRest) (start : s.lineStart = true) :
    s.step = s.readLineStart := by
  rw [step, start, (hs start).1]
  rfl

/-- The blocks are opened and closed before the first token of a line is read. -/
theorem run_line (hs : s.AtRest) (start : s.lineStart = true)
    (h : indentation 0 s.rest = (width, c :: cs)) (hcomment : c ≠ '#') (hlf : c ≠ '\n')
    (hcrlf : ∀ rest, c = '\r' → cs ≠ '\n' :: rest) :
    s.run = (shiftBlocks { s with rest := c :: cs, lineStart := false } width).bind run := by
  have hne : s.rest ≠ [] := by
    intro hrest
    rw [hrest] at h
    cases h
  rw [run_eq hne, step_of_lineStart hs start, readLineStart_token h hcomment hlf hcrlf]
  cases hshift : shiftBlocks { s with rest := c :: cs, lineStart := false } width with
  | error e => rfl
  | ok b =>
      have hrest : b.rest = c :: cs := rest_shiftBlocks hshift
      have hbegun : b.lineStart = false := lineStart_shiftBlocks hshift
      dsimp only [Except.bind]
      rw [run_eq (s := b) (by rw [hrest]; exact List.cons_ne_nil c cs),
        step_of_begun hbegun hrest]

/-- A comment in front of a line is passed over with the end of its line, if it has one. -/
theorem reaches_behindComment (hs : s.AtRest) (start : s.lineStart = true) {more : List Char}
    (h : indentation 0 s.rest = (width, '#' :: more)) :
    (skipComment more = [] ∧ s.Reaches { s with rest := [], lineStart := false }) ∨
      s.Reaches { s with rest := (skipComment more).tail, line := s.line + 1 } := by
  have hstep : s.step = .ok { s with rest := skipComment more, lineStart := false } := by
    rw [step_of_lineStart hs start, readLineStart_comment h]
  have hne : s.rest ≠ [] := by
    intro hrest
    rw [hrest] at h
    cases h
  obtain ⟨outside, empty⟩ := hs start
  rcases hcomment : skipComment more with - | ⟨c, rest⟩
  · rw [hcomment] at hstep
    exact .inl ⟨rfl, .single ⟨hne, hstep⟩⟩
  · obtain rfl : c = '\n' := by
      have hhead := List.head?_dropWhile_not (· != '\n') more
      rw [← skipComment, hcomment] at hhead
      simpa using hhead
    let behind : Lexer := { s with rest := '\n' :: rest, lineStart := false }
    rw [hcomment] at hstep
    have hend : behind.step = .ok { s with rest, line := s.line + 1 } := by
      have hread : behind.readOne '\n' rest = .ok (behind.endLine rest) := rfl
      have hempty : behind.lineIsEmpty = true := empty
      have hopen : behind.brackets.isEmpty = true := List.isEmpty_iff.mpr outside
      rw [step_of_begun (s := behind) rfl rfl, hread, endLine, hempty, Bool.not_true,
        Bool.and_false, if_neg Bool.false_ne_true, hopen, ← start]
    exact .inr (.head ⟨hne, hstep⟩ (.single ⟨List.cons_ne_nil _ _, hend⟩))

/-- How a run goes on with the first line. -/
inductive FirstLine (s : Lexer) : Option (Nat × List Char) → Prop
  | nothing (line : Nat) (lineStart : Bool)
      (h : s.run = .ok { s with rest := [], line, lineStart }) : FirstLine s none
  | line {rest : List Char} {width : Nat} (line : Nat)
      (h : s.run = (shiftBlocks { s with rest, line, lineStart := false } width).bind run) :
      FirstLine s (some (width, rest))

theorem FirstLine.behind {rest : List Char} {line : Nat} {first? : Option (Nat × List Char)}
    (reached : s.Reaches { s with rest, line }) (h : FirstLine { s with rest, line } first?) :
    FirstLine s first? := by
  cases h with
  | nothing line lineStart h => exact .nothing line lineStart ((run_of_reaches reached).trans h)
  | line line h => exact .line line ((run_of_reaches reached).trans h)

/-- By induction on the blank lines and comments in front of it. -/
theorem firstLine (hs : s.AtRest) (start : s.lineStart = true) :
    FirstLine s (firstLine? s.rest) := by
  generalize hcs : s.rest = cs
  have hne {s : Lexer} {cs : List Char} {width : Nat} {c : Char} {more : List Char}
      (hcs : s.rest = cs) (h : indentation 0 cs = (width, c :: more)) : s.rest ≠ [] := by
    rintro hrest
    rw [← hcs, hrest] at h
    cases h
  have hback {s : Lexer} (start : s.lineStart = true) (rest : List Char) (line : Nat) :
      { s with rest, line, lineStart := true } = { s with rest, line } := by rw [← start]
  fun_induction firstLine? cs generalizing s with
  | case1 cs width h =>
      by_cases hrest : s.rest = []
      · refine .nothing s.line s.lineStart ?_
        rw [run_of_nil hrest, ← hrest]
      · have hstep : s.step = .ok { s with rest := [], lineStart := false } := by
          rw [step_of_lineStart hs start, readLineStart_nil (hcs ▸ h)]
        refine .nothing s.line false ?_
        rw [run_of_reaches (.single ⟨hrest, hstep⟩), run_of_nil rfl]
  | case2 cs width more h ih =>
      subst hcs
      obtain ⟨hcomment, hend⟩ | hline := reaches_behindComment hs start h
      · rw [hcomment, List.tail_nil, firstLine?.eq_def]
        refine .nothing s.line false ?_
        rw [run_of_reaches hend, run_of_nil rfl]
      · exact .behind hline (ih (fun _ => hs start) start rfl)
  | case3 cs width more h ih =>
      subst hcs
      have hstep : s.step = .ok { s with rest := more, line := s.line + 1 } := by
        rw [step_of_lineStart hs start, readLineStart_lineFeed h, hback start]
      exact .behind (.single ⟨hne rfl h, hstep⟩) (ih (fun _ => hs start) start rfl)
  | case4 cs width more h ih =>
      subst hcs
      have hstep : s.step = .ok { s with rest := more, line := s.line + 1 } := by
        rw [step_of_lineStart hs start, readLineStart_crlf h, hback start]
      exact .behind (.single ⟨hne rfl h, hstep⟩) (ih (fun _ => hs start) start rfl)
  | case5 cs hnothing hcomment hlf hcrlf =>
      subst hcs
      rcases h : indentation 0 s.rest with ⟨width, - | ⟨c, more⟩⟩
      · exact absurd h (hnothing width)
      · have hline := run_line hs start h (by rintro rfl; exact hcomment _ _ h)
          (by rintro rfl; exact hlf _ _ h) (by rintro rest rfl rfl; exact hcrlf _ _ h)
        exact .line s.line hline

/-! ## Behind whole lines -/

/-- The lexer stands behind whole lines, whose tokens are of the given kinds. At the end of the text
the last line end may be missing. -/
def StandsBehind (s : Lexer) (ks : List Token.Kind) : Prop :=
  s.lineStart = true ∧ kindsOf s.done.reverse = ks ∨
    s.rest = [] ∧ s.brackets = [] ∧ s.lineIsEmpty = false ∧
      kindsOf s.done.reverse ++ [.newline] = ks

variable {ks ks' : List Token.Kind} {rest : List Char}

theorem firstLine?_nil : firstLine? [] = none := by
  rw [firstLine?]
  rfl

theorem finish_outside (outside : s.brackets = []) :
    s.finish = .ok ((if s.lineIsEmpty then s else s.push .newline s.line).done.reverse ++
      s.indents.map (fun _ => (⟨.dedent, s.line⟩ : Token)) ++ [⟨.endMarker, s.line⟩]) := by
  rw [finish, outside]

/-- What is read where no line follows: the blocks are closed. -/
theorem StandsBehind.read_none (hs : s.AtRest) (h : s.StandsBehind ks)
    (hnone : firstLine? s.rest = none) : ∃ ts, s.run.bind finish = .ok ts ∧
      kindsOf ts = ks ++ (List.replicate s.indents.length .dedent ++ [.endMarker]) := by
  have hmarks {ts : List Token} (hts : kindsOf ts = ks) (line : Nat) :
      kindsOf (ts ++ s.indents.map (fun _ => (⟨.dedent, line⟩ : Token)) ++
        [⟨.endMarker, line⟩]) =
        ks ++ (List.replicate s.indents.length .dedent ++ [.endMarker]) := by
    rw [List.map_const', kindsOf_append, kindsOf_append, hts, List.append_assoc, kindsOf,
      List.map_replicate]
    rfl
  obtain ⟨start, kinds⟩ | ⟨hrest, outside, begun, kinds⟩ := h
  · obtain ⟨outside, empty⟩ := hs start
    have hfirst := firstLine hs start
    rw [hnone] at hfirst
    cases hfirst with
    | nothing line lineStart hrun =>
        have hempty : lineIsEmpty { s with rest := [], line, lineStart } = true := empty
        have hfinish := finish_outside (s := { s with rest := [], line, lineStart }) outside
        rw [if_pos hempty] at hfinish
        rw [hrun]
        exact ⟨_, hfinish, hmarks kinds line⟩
  · have hfinish := finish_outside outside
    rw [begun, if_neg Bool.false_ne_true] at hfinish
    rw [run_of_nil hrest]
    refine ⟨_, hfinish, hmarks ?_ s.line⟩
    rw [push, List.reverse_cons, kindsOf_append, ← kinds]
    rfl

/-- What is read where a line follows: blocks are opened or closed in front of it. -/
theorem StandsBehind.run_line (hs : s.AtRest) (h : s.StandsBehind ks)
    (hline : firstLine? s.rest = some (width, rest)) :
    kindsOf s.done.reverse = ks ∧ LineEmpty s.done ∧ s.brackets = [] ∧ ∃ line,
      s.run = (shiftBlocks { s with rest, line, lineStart := false } width).bind run := by
  obtain ⟨start, kinds⟩ | ⟨hrest, -⟩ := h
  · obtain ⟨outside, empty⟩ := hs start
    refine ⟨kinds, ?_, outside, ?_⟩
    · intro t ht
      obtain ⟨rest, hdone⟩ := List.head?_eq_some_iff.mp ht
      rwa [lineIsEmpty, hdone] at empty
    · have hfirst := firstLine hs start
      rw [hline] at hfirst
      cases hfirst with
      | line line hrun => exact ⟨line, hrun⟩
  · rw [hrest, firstLine?_nil] at hline
    cases hline

theorem alongside_bind_run {old old' : List Token} {result result' : Except SyntaxError Lexer}
    (h : SameResult (fun _ _ => True) (Alongside (fun _ _ => True) old old') result result')
    (hold : LineEmpty old) (hold' : LineEmpty old') :
    SameResult (fun _ _ => True) (SameTokens (fun _ _ => True) old old')
      ((result.bind run).bind finish) ((result'.bind run).bind finish) := by
  cases h with
  | error cause line => exact .error cause line
  | ok h => exact alongside_run_finish h hold hold' fun _ _ _ _ => trivial

theorem kindsOf_of_sameTokens {L : Nat → Nat → Prop} {ts us : List Token}
    (h : List.Forall₂ (SameToken L) ts us) : kindsOf us = kindsOf ts := by
  induction h with
  | nil => rfl
  | cons hsame _ ih => exact congrArg₂ List.cons hsame.1 ih

/-- What follows a block is read behind it like outside of it, but for the mark that closes it. -/
theorem read_behind_block (hs : s.AtRest) (ht : t.AtRest) (hsame : t.rest = s.rest)
    (hblock : t.indents = w :: s.indents) (hw : s.indents.headD 0 < w) (hks : s.StandsBehind ks)
    (hks' : t.StandsBehind ks')
    (narrow : ∀ line ∈ firstLine? s.rest, line.1 ≤ s.indents.headD 0) :
    SameResult (fun _ _ => True)
      (fun ts us => ∃ more, kindsOf ts = ks ++ more ∧ kindsOf us = ks' ++ .dedent :: more)
      (s.run.bind finish) (t.run.bind finish) := by
  cases hline : firstLine? s.rest with
  | none =>
      obtain ⟨ts, hts, hkinds⟩ := hks.read_none hs hline
      obtain ⟨us, hus, hkinds'⟩ := hks'.read_none ht (hsame ▸ hline)
      rw [hts, hus]
      refine .ok ⟨_, hkinds, ?_⟩
      rw [hkinds', hblock]
      rfl
  | some line =>
      obtain ⟨width, rest⟩ := line
      obtain ⟨kinds, empty, outside, m, hrun⟩ := hks.run_line hs hline
      obtain ⟨kinds', empty', outside', n, hrun'⟩ := hks'.run_line ht (hsame ▸ hline)
      have hclosed := shiftBlocks_closing
        (s := { t with rest, line := n, lineStart := false }) hblock hw (narrow _ hline)
      dsimp only at hclosed
      have halongside : Alongside (fun _ _ => True) s.done (⟨.dedent, n⟩ :: t.done)
          { s with rest, line := m, lineStart := false }
          { t with rest, line := n, lineStart := false, indents := s.indents,
                   done := ⟨.dedent, n⟩ :: t.done } := {
        rest := rfl
        line := trivial
        done := ⟨[], [], rfl, rfl, .nil⟩
        indents := rfl
        brackets := by
          dsimp only
          rw [outside, outside']
          exact .nil
        lineStart := rfl }
      have hboth := alongside_bind_run (alongside_shiftBlocks halongside width) empty
        (by rintro u ⟨⟩; rfl)
      rw [hrun, hrun', hclosed]
      generalize Except.bind _ _ = result at hboth ⊢
      generalize Except.bind _ _ = result' at hboth ⊢
      cases hboth with
      | error cause line => exact .error cause line
      | ok h =>
          obtain ⟨more, more', rfl, rfl, hmore⟩ := h
          refine .ok ⟨kindsOf more, ?_, ?_⟩
          · rw [kindsOf_append, kinds]
          · rw [kindsOf_append, kindsOf_of_sameTokens hmore, List.reverse_cons, kindsOf_append,
              kinds', List.append_assoc]
            rfl

/-- A line that is wider than the lines around it opens a block. -/
theorem indent_of_wider (hs : s.AtRest) (hks : s.StandsBehind ks)
    (hline : firstLine? s.rest = some (width, rest)) (wider : s.indents.headD 0 < width)
    {ts : List Token} (h : s.run.bind finish = .ok ts) :
    ∃ more, kindsOf ts = ks ++ .indent :: more := by
  obtain ⟨kinds, empty, outside, m, hrun⟩ := hks.run_line hs hline
  let opened : Lexer := { s with
    rest, line := m, lineStart := false, indents := width :: s.indents
    done := ⟨.indent, m⟩ :: s.done }
  have hopened : shiftBlocks { s with rest, line := m, lineStart := false } width = .ok opened :=
    if_pos wider
  have halongside : Alongside (fun _ _ => True) opened.done opened.done opened opened := {
    rest := rfl
    line := trivial
    done := ⟨[], [], rfl, rfl, .nil⟩
    indents := rfl
    brackets := by
      change List.Forall₂ _ s.brackets s.brackets
      rw [outside]
      exact .nil
    lineStart := rfl }
  have hlayout : LineEmpty opened.done := by
    rintro u ⟨⟩
    rfl
  have hboth := alongside_bind_run (.ok halongside) hlayout hlayout
  rw [hrun, hopened] at h
  rw [h] at hboth
  cases hboth with
  | ok h =>
      obtain ⟨more, -, rfl, -, -⟩ := h
      refine ⟨kindsOf more, ?_⟩
      rw [kindsOf_append, List.reverse_cons, kindsOf_append, kinds, List.append_assoc]
      rfl

/-- A line that is narrower than a block and wider than the lines around the block is refused. -/
theorem refused_between {outer : List Nat} (hs : s.AtRest) (hks : s.StandsBehind ks)
    (hblock : s.indents = w :: outer) (hline : firstLine? s.rest = some (width, rest))
    (hw : width < w) (wider : outer.headD 0 < width) (ts : List Token) :
    s.run.bind finish ≠ .ok ts := by
  obtain ⟨-, -, -, m, hrun⟩ := hks.run_line hs hline
  have hrefused := shiftBlocks_between
    (s := { s with rest, line := m, lineStart := false }) hblock hw wider
  rw [hrun, hrefused]
  intro h
  cases h

end Lexer

end DeclaredSchema.Source
