import DeclaredSchema.Proofs.Declaration.InlineClasses
import DeclaredSchema.Proofs.Source.OuterLines

/-! # Texts with a class on one line

Where a text has a class on one line and another text has it as a block, with the same statements,
the tokens are the same but for the class (`ClassSpellings.exchanged`). So the texts are both
refused, or declare the same apart from the lines (`inline_class_declares_its_block`), wherever the
class stands.
-/

namespace DeclaredSchema

open Source

/-! ## Two spellings -/

/-- A class statement in two spellings: with its statements on the line of the header, and on one or
more lines of their own. -/
structure ClassSpellings where
  header : HeaderLine
  isClass : header.tokens.head?.any (·.isName "class") = true
  checked : header.Checked
  inline : List Token
  lines : List (List Token)
  /-- The statements of the lines. -/
  groups : List (List SimpleStatement)
  onLine : OnLine groups.flatten inline
  onLines : List.Forall₂ OnLine groups lines

def linesOfKinds (lines : List (List Token)) : List Token.Kind :=
  lines.flatMap fun line => kindsOf line ++ [.newline]

namespace ClassSpellings

variable (c : ClassSpellings)

/-- The tokens of the class on one line. -/
def onOneLine : List Token.Kind := kindsOf (c.header.tokens ++ c.inline) ++ [.newline]

/-- The tokens of the class as a block, up to where the block ends. -/
def asBlock : List Token.Kind :=
  kindsOf c.header.tokens ++ .newline :: .indent :: linesOfKinds c.lines

theorem plain : ∀ t ∈ c.header.tokens ++ c.inline, t.isLayout = false :=
  List.forall_mem_append.mpr ⟨c.header.plain, c.onLine.plain⟩

end ClassSpellings

theorem exists_body {groups : List (List SimpleStatement)} {lines : List (List Token)}
    (h : List.Forall₂ OnLine groups lines) {ts : List Token} {ks : List Token.Kind}
    (hts : kindsOf ts = linesOfKinds lines ++ ks) :
    ∃ (body : List SimpleLine) (rest : List Token),
      ts = Outline.printedAll (body.map .line) ++ rest ∧ kindsOf rest = ks ∧
        List.Forall₂ (fun stmts (l : SimpleLine) => OnLine stmts l.tokens) groups body := by
  induction h generalizing ts with
  | nil => exact ⟨[], ts, rfl, hts, .nil⟩
  | @cons stmts line groups lines hline _ ih =>
      rw [linesOfKinds, List.flatMap_cons, ← linesOfKinds, List.append_assoc, List.append_assoc]
        at hts
      obtain ⟨l, behind, rfl, hl, hbehind⟩ := LogicalLine.exists_of_kinds hts
        (plain_kindsOf hline.plain) fun hnil => hline.ne_nil (List.map_eq_nil_iff.mp hnil)
      obtain ⟨body, rest, rfl, hrest, hbody⟩ := ih hbehind
      have honLine := hline.of_kinds hl
      refine ⟨⟨l, honLine.closed⟩ :: body, rest, ?_, hrest, .cons honLine hbody⟩
      rw [List.map_cons, Outline.printedAll_cons, Outline.printed_line]

theorem wholeLines_linesOfKinds {lines : List (List Token)}
    (h : ∀ line ∈ lines, ∃ stmts, OnLine stmts line) : WholeLines (linesOfKinds lines) := by
  induction lines with
  | nil => exact .nil
  | cons line lines ih =>
      obtain ⟨⟨stmts, hline⟩, hlines⟩ := List.forall_mem_cons.mp h
      rw [linesOfKinds, List.flatMap_cons, List.append_assoc]
      exact .line (plain_kindsOf hline.plain) (ih hlines)

theorem isClass_of_kinds {ts us : List Token} (same : kindsOf us = kindsOf ts) :
    us.head?.any (·.isName "class") = ts.head?.any (·.isName "class") := by
  have hhead (ts : List Token) : ts.head?.any (·.isName "class") =
      (kindsOf ts).head?.any (· = .name "class") := by
    cases ts with
    | nil => rfl
    | cons t ts => rfl
  rw [hhead, hhead, same]

namespace ClassSpellings

variable {c : ClassSpellings} {ts us : List Token} {before more more' : List Token.Kind}

/-- The tokens of the one spelling are a line, and those of the other one a block. -/
theorem exists_unfolds (hts : kindsOf ts = c.onOneLine ++ more)
    (hus : kindsOf us = c.asBlock ++ .dedent :: more') :
    ∃ o o' rest rest', Unfolds o o' ∧ ts = o.printed ++ rest ∧ us = o'.printed ++ rest' ∧
      kindsOf rest = more ∧ kindsOf rest' = more' := by
  rw [onOneLine, List.append_assoc] at hts
  rw [asBlock, List.append_assoc] at hus
  obtain ⟨line, rest, rfl, hline, hrest⟩ := LogicalLine.exists_of_kinds hts
    (plain_kindsOf c.plain) (by simp [c.header.nonempty])
  obtain ⟨below, behind, rfl, hbelow, hbehind⟩ := LogicalLine.exists_of_kinds hus
    (plain_kindsOf c.header.plain) (by simp [c.header.nonempty])
  obtain ⟨opens, inner, rfl, hinner⟩ := exists_of_kindsOf_cons hbehind
  obtain ⟨body, ends, rfl, hends, hbody⟩ := exists_body c.onLines hinner
  obtain ⟨closes, rest', rfl, hrest'⟩ := exists_of_kindsOf_cons hends
  obtain ⟨front, inline, htokens, hfront, hsame⟩ :=
    List.map_eq_append_iff.mp (hline.trans (kindsOf_append _ _))
  have honLine := c.onLine.of_kinds hsame
  have hopens := (ShortClause.opensBlock_of_kinds hfront).trans c.header.opens
  have hopens' := (ShortClause.opensBlock_of_kinds hbelow).trans c.header.opens
  have hclosed : opensBlock line.tokens = false := by
    rw [htokens, opensBlock_append honLine.ne_nil]
    exact honLine.closed
  have hne : front ≠ [] := by
    rintro rfl
    exact c.header.nonempty (List.map_eq_nil_iff.mp hfront.symm)
  let header : HeaderLine :=
    ⟨⟨front, line.ends, hne, plain_of_kinds c.header.plain hfront⟩, hopens⟩
  have hchecked : header.Checked := Alike.checked_of_kinds hfront c.checked
  have hunfolds : Unfolds (.line ⟨line, hclosed⟩)
      (.block ⟨below, hopens'⟩ opens (body.map .line) closes) :=
    .intro ((isClass_of_kinds hfront).trans c.isClass) hchecked htokens
      (hbelow.trans hfront.symm) honLine hbody
  refine ⟨_, _, rest, rest', hunfolds, ?_, ?_, hrest, hrest'⟩
  · rw [Outline.printed_line]
  · rw [Outline.printed_block]

/-- The texts are the same but for the class. -/
theorem exchanged (whole : WholeLines before) (hts : kindsOf ts = before ++ c.onOneLine ++ more)
    (hus : kindsOf us = before ++ c.asBlock ++ .dedent :: more) (hmore : WholeLines more) :
    Exchanged Unfolds ts us := by
  rw [List.append_assoc] at hts hus
  obtain ⟨front, ts, rfl, hfront, hts⟩ := List.map_eq_append_iff.mp hts
  obtain ⟨front', us, rfl, hfront', hus⟩ := List.map_eq_append_iff.mp hus
  obtain ⟨o, o', rest, rest', hunfolds, rfl, rfl, hrest, hrest'⟩ := exists_unfolds hts hus
  refine .behind_wholeLines whole hfront hfront' (.here hunfolds ?_)
  have hends := Exchanged.behind_wholeLines (R := Unfolds) hmore hrest hrest' .nil
  rwa [List.append_nil, List.append_nil] at hends

end ClassSpellings

/-- Two scans that are both refused, or find the same classes apart from the lines. -/
inductive SameButLines : Except SyntaxError (List ClassDeclaration) →
    Except SyntaxError (List ClassDeclaration) → Prop
  | refused {e e' : SyntaxError} : SameButLines (.error e) (.error e')
  | found {classes classes' : List ClassDeclaration}
      (same : classes'.map ClassDeclaration.unlined = classes.map ClassDeclaration.unlined) :
      SameButLines (.ok classes) (.ok classes')

section Scans

variable {path one many : String} {ts us : List Token}

theorem sameButLines_of_refused {result result' : Except SyntaxError (List ClassDeclaration)}
    (h : ∀ classes, result ≠ .ok classes) (h' : ∀ classes, result' ≠ .ok classes) :
    SameButLines result result' := by
  cases result with
  | ok classes => exact absurd rfl (h classes)
  | error e =>
      cases result' with
      | ok classes => exact absurd rfl (h' classes)
      | error e' => exact .refused

theorem scanSource_not_tokenized {e : SyntaxError} (h : tokenize one = .error e)
    (classes : List ClassDeclaration) : scanSource path one ≠ .ok classes := by
  intro hone
  obtain ⟨ts, -, hts, -⟩ := scanSource_eq_ok.mp hone
  rw [h] at hts
  cases hts

theorem scanSource_exchanged (htokens : tokenize one = .ok ts) (htokens' : tokenize many = .ok us)
    (h : Exchanged Unfolds ts us) :
    SameButLines (scanSource path one) (scanSource path many) := by
  cases hone : scanSource path one with
  | ok classes =>
      obtain ⟨_, stmts, hts, hstmts, rfl⟩ := scanSource_eq_ok.mp hone
      obtain rfl := Except.ok.inj (htokens.symm.trans hts)
      obtain ⟨os, os', halike, rfl, hstmts'⟩ := h.statements Unfolds.fitting htokens hstmts
      rw [scanSource_eq_ok.mpr ⟨us, _, htokens', hstmts', rfl⟩]
      exact .found (halike.sameDeclarations fun _ _ ho => ho.sameDeclarations path).classes
  | error e =>
      cases hmany : scanSource path many with
      | error e' => exact .refused
      | ok classes =>
          obtain ⟨_, stmts, hus, hstmts, -⟩ := scanSource_eq_ok.mp hmany
          obtain rfl := Except.ok.inj (htokens'.symm.trans hus)
          obtain ⟨_, os, -, -, hstmts'⟩ := h.swap.statements Unfolds.fitting_swap htokens' hstmts
          rw [scanSource_eq_ok.mpr ⟨ts, _, htokens, hstmts', rfl⟩] at hone
          cases hone

/-- No class is found where a block opens behind a line that opens none. -/
theorem scanSource_refused {front : List Token.Kind} {line : List Token}
    (whole : WholeLines front) (plain : ∀ t ∈ line, t.isLayout = false) (nonempty : line ≠ [])
    (closed : opensBlock line = false) (h : ∀ ts, tokenize one = .ok ts →
      ∃ more, kindsOf ts = front ++ (kindsOf line ++ .newline :: .indent :: more))
    (classes : List ClassDeclaration) : scanSource path one ≠ .ok classes := by
  intro hone
  obtain ⟨ts, stmts, htokens, hstmts, -⟩ := scanSource_eq_ok.mp hone
  obtain ⟨os, last, rfl, -, -⟩ := exists_outline htokens hstmts
  obtain ⟨more, hts⟩ := h _ htokens
  obtain ⟨front, behind, htokens, rfl, hbehind⟩ := List.map_eq_append_iff.mp hts
  obtain ⟨l, rest, rfl, hl, hrest⟩ := LogicalLine.exists_of_kinds hbehind (plain_kindsOf plain)
    fun hnil => nonempty (List.map_eq_nil_iff.mp hnil)
  obtain ⟨n, rest, rfl, -⟩ := exists_of_kindsOf_cons hrest
  have hclosed := (ShortClause.opensBlock_of_kinds hl).trans closed
  exact Outline.printedAll_ne os (l := ⟨l, hclosed⟩) whole htokens

end Scans

/-! ## What the class ends with -/

theorem onLine_of_mem {groups : List (List SimpleStatement)} {lines : List (List Token)}
    (h : List.Forall₂ OnLine groups lines) : ∀ line ∈ lines, ∃ stmts, OnLine stmts line := by
  induction h with
  | nil => simp
  | cons hline _ ih => exact List.forall_mem_cons.mpr ⟨⟨_, hline⟩, ih⟩

namespace ClassSpellings

variable (c : ClassSpellings) {path one many : String} {before : List Token.Kind}

theorem wholeLines_onOneLine : WholeLines c.onOneLine := .line (plain_kindsOf c.plain) .nil

/-- No block opens behind the class on one line. -/
theorem onOneLine_refused (whole : WholeLines before) (h : ∀ ts, tokenize one = .ok ts →
      ∃ more, kindsOf ts = before ++ c.onOneLine ++ .indent :: more)
    (classes : List ClassDeclaration) : scanSource path one ≠ .ok classes := by
  have hclosed : opensBlock (c.header.tokens ++ c.inline) = false := by
    rw [opensBlock_append c.onLine.ne_nil]
    exact c.onLine.closed
  refine scanSource_refused whole c.plain (by simp [c.header.nonempty]) hclosed (fun ts hts => ?_)
    classes
  obtain ⟨more, hmore⟩ := h ts hts
  refine ⟨more, ?_⟩
  rw [hmore, onOneLine, List.append_assoc, List.append_assoc]
  rfl

/-- No block opens behind the last line of the class as a block. -/
theorem asBlock_refused (whole : WholeLines before) (h : ∀ ts, tokenize many = .ok ts →
      ∃ more, kindsOf ts = before ++ c.asBlock ++ .indent :: more)
    (classes : List ClassDeclaration) : scanSource path many ≠ .ok classes := by
  have hne : c.lines ≠ [] := by
    intro hnil
    have hgroups := c.onLines
    rw [hnil, List.forall₂_nil_right_iff] at hgroups
    have honLine := c.onLine
    rw [hgroups] at honLine
    cases honLine
  obtain ⟨others, last, hlines⟩ := c.lines.eq_nil_or_concat'.resolve_left hne
  have honLines := onLine_of_mem c.onLines
  rw [hlines] at honLines
  obtain ⟨hothers, hlast⟩ := List.forall_mem_append.mp honLines
  obtain ⟨stmts, hstmts⟩ := hlast last List.mem_cons_self
  have hfront : WholeLines (before ++ (kindsOf c.header.tokens ++
      .newline :: .indent :: linesOfKinds others)) :=
    whole.append (.line (plain_kindsOf c.header.plain)
      (.layout rfl (wholeLines_linesOfKinds hothers)))
  refine scanSource_refused hfront hstmts.plain hstmts.ne_nil hstmts.closed (fun ts hts => ?_)
    classes
  obtain ⟨more, hmore⟩ := h ts hts
  refine ⟨more, ?_⟩
  rw [hmore, asBlock, hlines, linesOfKinds, linesOfKinds]
  simp

end ClassSpellings

/-! ## Both spellings in a text -/

open Lexer in
/-- A text that has a class on one line and a text that has it as a block are both refused, or declare
the same apart from the lines. The tokens in front of the class are the same, however deep it stands,
and so is the text behind it, which may be any that does not go on with the block. -/
theorem inline_class_declares_its_block (c : ClassSpellings) (path : String) {one many : String}
    {s t : Lexer} {before : List Token.Kind} {width : Nat}
    (reached : (start one.toList).Reaches s) (reached' : (start many.toList).Reaches t)
    (whole : WholeLines before) (hs : s.StandsBehind (before ++ c.onOneLine))
    (ht : t.StandsBehind (before ++ c.asBlock)) (behind : t.rest = s.rest)
    (block : t.indents = width :: s.indents) (wider : s.indents.headD 0 < width)
    (ends : ∀ line ∈ firstLine? s.rest, line.1 ≠ width) :
    SameButLines (scanSource path one) (scanSource path many) := by
  have atRest := reached.atRest (atRest_start _)
  have atRest' := reached'.atRest (atRest_start _)
  have htokens : tokenize one = s.run.bind finish := by rw [tokenize_eq, run_of_reaches reached]
  have htokens' : tokenize many = t.run.bind finish := by rw [tokenize_eq, run_of_reaches reached']
  by_cases narrow : ∀ line ∈ firstLine? s.rest, line.1 ≤ s.indents.headD 0
  · have hboth := read_behind_block atRest atRest' behind block wider hs ht narrow
    rw [← htokens, ← htokens'] at hboth
    generalize hone : tokenize one = result at hboth
    generalize hmany : tokenize many = result' at hboth
    cases hboth with
    | error cause line =>
        exact sameButLines_of_refused (scanSource_not_tokenized hone)
          (scanSource_not_tokenized hmany)
    | ok h =>
        obtain ⟨more, hts, hus⟩ := h
        have hall : WholeLines (before ++ c.onOneLine ++ more) :=
          hts ▸ wholeLines_of_tokenize hone
        have hmore := (whole.append c.wholeLines_onOneLine).behind hall
        exact scanSource_exchanged hone hmany (c.exchanged whole hts hus hmore)
  · -- The line behind the class is refused in both texts, for different reasons.
    obtain ⟨⟨v, rest⟩, hline, hv⟩ : ∃ line ∈ firstLine? s.rest, s.indents.headD 0 < line.1 := by
      simpa using narrow
    have hline' : firstLine? t.rest = some (v, rest) := behind ▸ hline
    refine sameButLines_of_refused (c.onOneLine_refused whole fun ts hts =>
      indent_of_wider atRest hs hline hv (htokens ▸ hts)) ?_
    obtain hlt | hgt := Nat.lt_or_gt_of_ne (ends _ hline)
    · intro classes hmany
      obtain ⟨us, -, hus, -⟩ := scanSource_eq_ok.mp hmany
      exact refused_between atRest' ht block hline' hlt hv us (htokens' ▸ hus)
    · refine c.asBlock_refused whole fun us hus => ?_
      have hwider : t.indents.headD 0 < v := by rwa [block]
      exact indent_of_wider atRest' ht hline' hwider (htokens' ▸ hus)

open Lexer in
/-- A class with two statements, in a block of its own. -/
theorem inline_class_declares_its_block_in_branch :
    let one := "if a:\n class B(M): c; d: T = EnumAttribute();\ne\n"
    let many := "if a:\n class B(M):\n  c\n  d: T = EnumAttribute()\ne\n"
    let before : List Token.Kind := [.name "if", .name "a", .symbol .colon, .newline, .indent]
    ∃ (c : ClassSpellings) (s t : Lexer),
      (start one.toList).Reaches s ∧ (start many.toList).Reaches t ∧ WholeLines before ∧
      s.StandsBehind (before ++ c.onOneLine) ∧ t.StandsBehind (before ++ c.asBlock) ∧
      t.rest = s.rest ∧ t.indents = 2 :: s.indents ∧ s.indents.headD 0 < 2 ∧
      (∀ line ∈ firstLine? s.rest, line.1 ≠ 2) ∧
      scanSource "m.py" one =
        .ok [⟨"B", "m.py", 2, [⟨"d", "d", "EnumAttribute", [], false, 2⟩]⟩] ∧
      SameButLines (scanSource "m.py" one) (scanSource "m.py" many) := by
  intro one many before
  let header (n : Nat) : List Token := [⟨.name "class", n⟩, ⟨.name "B", n⟩,
    ⟨.symbol .openParen, n⟩, ⟨.name "M", n⟩, ⟨.symbol .closeParen, n⟩, ⟨.symbol .colon, n⟩]
  let first (n : Nat) : List Token := [⟨.name "c", n⟩]
  let second (n : Nat) : List Token := [⟨.name "d", n⟩, ⟨.symbol .colon, n⟩, ⟨.name "T", n⟩,
    ⟨.symbol .assign, n⟩, ⟨.name "EnumAttribute", n⟩, ⟨.symbol .openParen, n⟩,
    ⟨.symbol .closeParen, n⟩]
  let line : List Token := [⟨.name "if", 1⟩, ⟨.name "a", 1⟩, ⟨.symbol .colon, 1⟩, ⟨.newline, 1⟩]
  let inline : List Token := first 2 ++ ⟨.symbol .semicolon, 2⟩ :: (second 2 ++
    [⟨.symbol .semicolon, 2⟩])
  let c₁ : SimpleStatement :=
    ⟨⟨⟨first 2, 2, List.cons_ne_nil _ _, by simp [first, Token.isLayout]⟩, rfl⟩, 2, rfl⟩
  let c₂ : SimpleStatement :=
    ⟨⟨⟨second 2, 2, List.cons_ne_nil _ _, by simp [second, Token.isLayout]⟩, rfl⟩, 2, rfl⟩
  let c : ClassSpellings := {
    header := ⟨⟨header 2, 2, List.cons_ne_nil _ _, by simp [header, Token.isLayout]⟩, rfl⟩
    isClass := rfl
    checked := rfl
    inline
    lines := [first 3, second 4]
    groups := [[c₁], [c₂]]
    onLine := .more rfl rfl (.ended rfl rfl)
    onLines := .cons (.last rfl) (.cons (.last rfl) .nil) }
  let one' : List Token := line ++ ⟨.indent, 2⟩ :: (header 2 ++ (inline ++ [⟨.newline, 2⟩]))
  let many' : List Token := line ++ ⟨.indent, 2⟩ :: (header 2 ++ ⟨.newline, 2⟩ :: ⟨.indent, 3⟩ ::
    (first 3 ++ ⟨.newline, 3⟩ :: (second 4 ++ [⟨.newline, 4⟩])))
  let s : Lexer := ⟨"e\n".toList, 3, one'.reverse, [1], [], true⟩
  let t : Lexer := ⟨"e\n".toList, 5, many'.reverse, [2, 1], [], true⟩
  have reached :
      (start "if a:\n class B(M): c; d: T = EnumAttribute();\ne\n".toList).Reaches s :=
    reaches_of_steps (n := 28) (by rfl)
  have reached' :
      (start "if a:\n class B(M):\n  c\n  d: T = EnumAttribute()\ne\n".toList).Reaches t :=
    reaches_of_steps (n := 26) (by rfl)
  have whole : WholeLines before :=
    .line (l := [.name "if", .name "a", .symbol .colon]) (by simp [Token.Kind.isLayout])
      (.layout rfl .nil)
  have hs : s.StandsBehind (before ++ c.onOneLine) := .inl ⟨rfl, rfl⟩
  have ht : t.StandsBehind (before ++ c.asBlock) := .inl ⟨rfl, rfl⟩
  have ends : ∀ line ∈ firstLine? s.rest, line.1 ≠ 2 := by
    have hfirst : firstLine? s.rest = some (0, "e\n".toList) := by
      rw [firstLine?]
      rfl
    rw [hfirst]
    rintro _ ⟨⟩
    exact Nat.zero_ne_add_one 1
  have found : scanSource "m.py" "if a:\n class B(M): c; d: T = EnumAttribute();\ne\n" =
      .ok [⟨"B", "m.py", 2, [⟨"d", "d", "EnumAttribute", [], false, 2⟩]⟩] := by
    have htokens : tokenize "if a:\n class B(M): c; d: T = EnumAttribute();\ne\n" =
        .ok (one' ++ [⟨.dedent, 3⟩, ⟨.name "e", 3⟩, ⟨.newline, 3⟩, ⟨.endMarker, 4⟩]) := by
      rw [tokenize_eq_steps]
      rfl
    have hstmts : statements
        (one' ++ [⟨.dedent, 3⟩, ⟨.name "e", 3⟩, ⟨.newline, 3⟩, ⟨.endMarker, 4⟩]) =
        .ok [.compound ⟨line.take 3, 1⟩ [.simple ⟨header 2 ++ inline, 2⟩],
          .simple ⟨[⟨.name "e", 3⟩], 3⟩] := by with_unfolding_all rfl
    refine scanSource_eq_ok.mpr ⟨_, _, htokens, hstmts, ?_⟩
    with_unfolding_all rfl
  exact ⟨c, s, t, reached, reached', whole, hs, ht, rfl, rfl, Nat.one_lt_two, ends, found,
    inline_class_declares_its_block c "m.py" reached reached' whole hs ht rfl rfl Nat.one_lt_two
      ends⟩

end DeclaredSchema
