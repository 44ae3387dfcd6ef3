import DeclaredSchema.Proofs.Source.AssignmentSigns
import DeclaredSchema.Proofs.Source.ExpressionLines
import DeclaredSchema.Proofs.Source.StatementParts
import DeclaredSchema.Source.Expr

/-! # Annotated assignments

A simple statement is read twice: by the grammar, and by the reader that looks for a name, a colon
and the first `=` outside of brackets. Both see the same assignment with the same annotation and the
same value, unless a `lambda` stands in the annotation outside of brackets: its parameters can have
a `=` of their own.
-/

namespace DeclaredSchema.Source

open Cursor Line Crossing Source.Tree

/-! ## What the grammar reads -/

/-- The grammar takes the statement at `c` for one that begins with an expression, and reads a
target, a colon and a type. The type ends at `e`. -/
inductive ReadsHint (c : Cursor) (target hint : List Token) (e : Cursor) : Prop
  | intro {shape : Shape} {a b : Cursor} (statement : simpleStatement c = expressionStatement c)
      (target_read : Rule.yieldOrStars.run c = .ok (shape, a))
      (target_eq : c.rest = target ++ a.rest) (colon : a.eat? .colon = some b)
      (single : shape.single = true)
      (hint_read : Rule.expression.pass b = .ok e) (hint_eq : b.rest = hint ++ e.rest)

/-- Behind them it reads `=` and a value, up to the end of the statement at `d`. -/
inductive ReadsAssignment (c : Cursor) (target hint value : List Token) (d : Cursor) : Prop
  | intro {e f : Cursor} (hint_read : ReadsHint c target hint e) (sign : e.eat? .assign = some f)
      (value_read : Rule.yieldOrStars.pass f = .ok d) (value_eq : f.rest = value ++ d.rest)

/-- The type of a statement has no `lambda` outside of brackets, if there is a type. -/
def LambdaFree (c : Cursor) : Prop :=
  ∀ target hint e, ReadsHint c target hint e → anyTopLevel (·.isName "lambda") hint = false

section Statements

variable {c d e : Cursor} {n : String} {l l' : Nat} {rest target hint value stmt : List Token}

/-- A name and a colon begin an annotation. -/
theorem simpleStatement_of_colon (hc : c.rest = ⟨.name n, l⟩ :: ⟨.symbol .colon, l'⟩ :: rest)
    (free : isKeyword n = false) : simpleStatement c = expressionStatement c := by
  obtain ⟨line, tokens⟩ := c
  obtain rfl : tokens = _ := hc
  have hne (word : String) (hword : isKeyword word = true) : n ≠ word := by
    rintro rfl
    rw [hword] at free
    cases free
  have halias : atTypeAlias ⟨line, ⟨.name n, l⟩ :: ⟨.symbol .colon, l'⟩ :: rest⟩ = false := rfl
  change namedStatement n _ = _
  simp (disch := decide) [namedStatement, hne, halias]

theorem run_of_colon (hc : c.rest = ⟨.name n, l⟩ :: ⟨.symbol .colon, l'⟩ :: rest)
    (free : isKeyword n = false) : ∃ a, Rule.yieldOrStars.run c = .ok (.name, a) ∧
      a.rest = ⟨.symbol .colon, l'⟩ :: rest := by
  have hprinted : (Tree.Expr.name ⟨n, free⟩).printed = [.name n] := by
    simp [Tree.Expr.printed, Tree.Expr.raw, Tree.Expr.strength, fitted, Strength.rank]
  have hkinds : c.kinds = (Tree.Expr.name ⟨n, free⟩).printed ++ .symbol .colon :: kindsOf rest := by
    rw [hprinted, kinds, hc]
    rfl
  obtain ⟨a, hread, ha⟩ := run_printed _ hkinds (.cons (by decide) (by simp) rfl _)
  rw [Tree.Expr.shape] at hread
  refine ⟨a, hread, ?_⟩
  have hlength : a.rest.length = rest.length + 1 := by
    rw [length_rest, ha, List.length_cons, List.length_map]
  have hsuffix := (passes_read (Rule.ready_of_ne (by decide)) hread 0).suffix
  rw [hc] at hsuffix
  rcases List.suffix_cons_iff.mp hsuffix with hwhole | hbehind
  · rw [hwhole] at hlength
    simp at hlength
  · exact hbehind.eq_of_length hlength

/-- One name in front of the colon is no keyword. -/
theorem ReadsHint.free (h : ReadsHint c [⟨.name n, l⟩] hint e) : isKeyword n = false := by
  obtain ⟨-, hrun, hc, -, single, -, -⟩ := h
  rcases target_run hrun single with ⟨m, line, hname, hfree⟩ | hlength
  · rw [hc] at hname
    cases hname
    exact hfree
  · rw [hc] at hlength
    simp at hlength

/-- A statement has at most one type. -/
theorem ReadsHint.hint_eq {target' hint' : List Token} {e' : Cursor}
    (h : ReadsHint c target hint e) (h' : ReadsHint c target' hint' e') : hint = hint' := by
  obtain ⟨-, hrun, -, hcolon, -, hpass, hb⟩ := h
  obtain ⟨-, hrun', -, hcolon', -, hpass', hb'⟩ := h'
  obtain ⟨rfl, rfl⟩ := Prod.mk.inj (Except.ok.inj (hrun.symm.trans hrun'))
  obtain rfl := Option.some.inj (hcolon.symm.trans hcolon')
  obtain rfl := Except.ok.inj (hpass.symm.trans hpass')
  exact List.append_cancel_right (hb.symm.trans hb')

theorem ReadsHint.lambdaFree (h : ReadsHint c target hint e)
    (free : anyTopLevel (·.isName "lambda") hint = false) : LambdaFree c :=
  fun _ _ _ h' => h.hint_eq h' ▸ free

/-- A cut in front of the first `=`. -/
theorem cutTopLevel?_sign {t : Token} (h : Undivided hint)
    (lambdaFree : anyTopLevel (·.isName "lambda") hint = false) (ht : t.kind = .symbol .assign)
    (value : List Token) : cutTopLevel? .assign (hint ++ t :: value) = some (hint, value) :=
  cutTopLevel?_first h.matched (h.signless lambdaFree) (Token.opens_of_symbol ht)
    (Token.closes_of_symbol ht) (by simp [Token.isSymbol, ht]) value

/-- The tokens of the type that the grammar reads. -/
theorem ReadsHint.undivided (h : ReadsHint c target hint e) : Undivided hint := by
  obtain ⟨-, -, -, -, -, hpass, hb⟩ := h
  obtain ⟨ts, hts, h⟩ := over_pass_expression hpass
  rwa [List.append_cancel_right (hb.symm.trans hts)]

/-- The tokens of an assignment, from a target of one name to the value. -/
theorem ReadsAssignment.tokens_eq (h : ReadsAssignment c target hint value d)
    (hc : c.rest = stmt ++ d.rest) : ∃ colon sign, colon.kind = .symbol .colon ∧
      sign.kind = .symbol .assign ∧ stmt = target ++ colon :: (hint ++ sign :: value) := by
  obtain ⟨⟨-, -, htarget, hcolon, -, -, hhint⟩, hsign, -, hvalue⟩ := h
  obtain ⟨colon, ha, hcolon, -⟩ := exists_of_eat? hcolon
  obtain ⟨sign, he, hsign, -⟩ := exists_of_eat? hsign
  have hrest : stmt ++ d.rest = (target ++ colon :: (hint ++ sign :: value)) ++ d.rest := by
    rw [← hc, htarget, ha, hhint, he, hvalue]
    simp
  exact ⟨colon, sign, hcolon, hsign, List.append_cancel_right hrest⟩

/-- The reader finds the assignment that the grammar reads. -/
theorem ReadsAssignment.annotatedAssignment?_eq
    (h : ReadsAssignment c [⟨.name n, l⟩] hint value d) (lambdaFree : LambdaFree c)
    (hc : c.rest = stmt ++ d.rest) :
    annotatedAssignment? stmt = some ⟨n, .ofTokens hint, .ofTokens value⟩ := by
  obtain ⟨⟨_, l'⟩, sign, rfl, hsign, rfl⟩ := h.tokens_eq hc
  obtain ⟨hhint, -, -, -⟩ := h
  rw [List.singleton_append, annotatedAssignment?, if_neg (by simp [hhint.free]),
    cutTopLevel?_sign hhint.undivided (lambdaFree _ _ _ hhint) hsign]
  rfl

theorem exists_of_annotatedAssignment? {found : AnnotatedAssignment}
    (h : annotatedAssignment? stmt = some found) : ∃ n l l' rest,
      stmt = ⟨.name n, l⟩ :: ⟨.symbol .colon, l'⟩ :: rest ∧ isKeyword n = false ∧
        cutTopLevel? .assign rest ≠ none := by
  rw [annotatedAssignment?.eq_def] at h
  split at h
  · next n l l' rest =>
    split at h
    · cases h
    · next hfree =>
      obtain ⟨cut, hcut, -⟩ := Option.map_eq_some_iff.mp h
      refine ⟨n, l, l', rest, rfl, by simpa using hfree, ?_⟩
      rw [hcut]
      exact Option.some_ne_none cut
  · cases h

/-- Where a name and a colon come first, a type follows, and a value if `=` comes next. -/
theorem readsHint_of_colon (hc : c.rest = ⟨.name n, l⟩ :: ⟨.symbol .colon, l'⟩ :: rest)
    (free : isKeyword n = false) (read : simpleStatement c = .ok d) : ∃ hint e,
      ReadsHint c [⟨.name n, l⟩] hint e ∧ rest = hint ++ e.rest ∧
        ((∃ f, e.eat? .assign = some f ∧ Rule.yieldOrStars.pass f = .ok d) ∨ d = e) := by
  have hstatement : simpleStatement c = expressionStatement c := simpleStatement_of_colon hc free
  obtain ⟨a, hrun, ha⟩ := run_of_colon hc free
  have hcolon : a.eat? .colon = some a.advance := eat?_of_kinds (by rw [kinds, ha]; rfl)
  have hrest : a.advance.rest = rest := by rw [advance, ha]
  rw [hstatement, expressionStatement_eq, hrun, Rule.ok_bind] at read
  simp only [hcolon] at read
  obtain ⟨_, -, read⟩ := bind_eq_ok.mp read
  obtain ⟨e, hpass, read⟩ := bind_eq_ok.mp read
  obtain ⟨hint, hhint, -⟩ := over_pass_expression hpass
  have htarget : c.rest = [⟨.name n, l⟩] ++ a.rest := by
    rw [hc, ha]
    rfl
  refine ⟨hint, e, ⟨hstatement, hrun, htarget, hcolon, rfl, hpass, hhint⟩, hrest ▸ hhint, ?_⟩
  split at read
  · next f hsign => exact .inl ⟨f, hsign, read⟩
  · exact .inr (Except.ok.inj read).symm

theorem ReadsHint.assigned {f : Cursor} (h : ReadsHint c target hint e)
    (sign : e.eat? .assign = some f) (read : Rule.yieldOrStars.pass f = .ok d) :
    ∃ value, ReadsAssignment c target hint value d := by
  have hcarries : refl.Carries 0 0 0 f _ _ :=
    carries_pass .yieldOrStars (Rule.ready_of_ne (by decide))
  obtain ⟨value, hvalue, -⟩ : Passes 0 0 f d := hcarries.passes read
  exact ⟨value, h, sign, read, hvalue⟩

/-- Where the reader finds an assignment, the grammar reads it. -/
theorem readsAssignment_of_found {found : AnnotatedAssignment}
    (h : annotatedAssignment? stmt = some found) (read : simpleStatement c = .ok d)
    (lambdaFree : LambdaFree c) (hc : c.rest = stmt ++ d.rest) : ∃ n l hint value,
      ReadsAssignment c [⟨.name n, l⟩] hint value d ∧
        found = ⟨n, .ofTokens hint, .ofTokens value⟩ := by
  obtain ⟨n, l, l', rest, rfl, free, hcut⟩ := exists_of_annotatedAssignment? h
  obtain ⟨hint, e, hreads, hhint, hend⟩ := readsHint_of_colon hc free read
  rcases hend with ⟨f, hsign, hread⟩ | rfl
  · obtain ⟨value, hassigned⟩ := hreads.assigned hsign hread
    have hfound := hassigned.annotatedAssignment?_eq lambdaFree hc
    exact ⟨n, l, hint, value, hassigned, Option.some.inj (h.symm.trans hfound)⟩
  · -- Without a value the whole rest is the type, which has no `=`.
    rw [List.append_cancel_right hhint] at hcut
    have hsignless := hreads.undivided.signless (lambdaFree _ _ _ hreads)
    exact absurd (cutTopLevel?_none hreads.undivided.matched hsignless) hcut

end Statements

/-! ## The statements of a line -/

/-- Where the simple statements of a line begin: at its front, or behind a header that opens no
block. -/
inductive StatementsBegin (tokens : List Token) (opensBlock : Bool) : Cursor → Prop
  | front (simple : ((clauseOf? tokens).isSome || isSoftHeader tokens opensBlock) = false) :
      StatementsBegin tokens opensBlock (.start tokens)
  | behindHeader {c : Cursor}
      (header : ((clauseOf? tokens).isSome || isSoftHeader tokens opensBlock) = true)
      (inline : opensBlock = false) (read : compoundHeader (.start tokens) = .ok c) :
      StatementsBegin tokens opensBlock c

/-- The grammar reads one of the simple statements that begin at `b`. -/
inductive ReadsStatement (b : Cursor) : Cursor → Cursor → Prop
  | first {d : Cursor} (read : simpleStatement b = .ok d) : ReadsStatement b b d
  | later {c d e f : Cursor} (earlier : ReadsStatement b c d)
      (semicolon : d.eat? .semicolon = some e) (more : e.atEnd = false)
      (read : simpleStatement e = .ok f) : ReadsStatement b e f

section Lines

variable {tokens stmt : List Token} {opensBlock : Bool} {b c d e : Cursor}

theorem simpleStatements_of_checkLine (accepted : checkLine tokens opensBlock = .ok ())
    (begins : StatementsBegin tokens opensBlock b) : simpleStatements b = .ok () := by
  rw [checkLine] at accepted
  cases begins with
  | front simple =>
      simp only [simple] at accepted
      exact accepted
  | behindHeader header inline read =>
      subst inline
      simp only [header, read] at accepted
      exact accepted

theorem ReadsStatement.read (h : ReadsStatement b c d) : simpleStatement c = .ok d := by
  cases h with
  | first read => exact read
  | later _ _ _ read => exact read

/-- The statements from a place on are read, to the end of the line. -/
def RunsOut (c : Cursor) : Prop :=
  ∃ n d, roundsFuel statementRound n () c = .ok ((), d) ∧ d.rest = []

theorem RunsOut.of_simpleStatements (h : simpleStatements b = .ok ()) : RunsOut b := by
  obtain ⟨⟨⟨⟩, d⟩, hrounds, hfinish⟩ := bind_eq_ok.mp h
  exact ⟨_, d, hrounds, rest_of_finish hfinish⟩

/-- Behind a statement the line ends, or a semicolon comes next, and other statements may follow. -/
theorem RunsOut.behind (h : RunsOut c) (read : simpleStatement c = .ok d) :
    d.rest = [] ∨ ∃ e, d.eat? .semicolon = some e ∧ (e.rest = [] ∨ RunsOut e) := by
  obtain ⟨n, z, hrounds, hend⟩ := h
  cases n with
  | zero =>
      cases hrounds
      have hat : c.atEnd = true := by rw [atEnd, hend]; rfl
      rw [simpleStatement, if_pos hat] at read
      cases read
  | succ n =>
      obtain ⟨e, he, hbehind⟩ := statementRounds_succ hrounds
      obtain rfl := Except.ok.inj (he.symm.trans read)
      rcases hbehind with ⟨-, rfl⟩ | ⟨i, hi, hmore⟩
      · exact .inl hend
      · exact .inr ⟨i, hi, hmore.imp id fun hmore => ⟨n, z, hmore, hend⟩⟩

/-- The parts of the text from a statement on: the statement, and the parts behind its semicolon. -/
theorem parts_of_statement (h : RunsOut c) (read : simpleStatement c = .ok d)
    (hc : c.rest = stmt ++ d.rest) : stmt ∈ splitTopLevel .semicolon c.rest ∧
      ∀ e, d.eat? .semicolon = some e →
        splitTopLevel .semicolon c.rest = stmt :: splitTopLevel .semicolon e.rest := by
  obtain ⟨ts, hts, hwithin⟩ := passes_simpleStatement read
  obtain rfl := List.append_cancel_right (hc.symm.trans hts)
  have hmore (e : Cursor) (he : d.eat? .semicolon = some e) :
      splitTopLevel .semicolon c.rest = stmt :: splitTopLevel .semicolon e.rest := by
    obtain ⟨t, hd, ht, -⟩ := exists_of_eat? he
    rw [hc, hd, splitTopLevel_semicolon hwithin ht]
  refine ⟨?_, hmore⟩
  rcases h.behind read with hend | ⟨e, he, -⟩
  · rw [hc, hend, List.append_nil, splitTopLevel_end hwithin]
    exact List.mem_singleton_self stmt
  · rw [hmore e he]
    exact List.mem_cons_self

/-- By induction on the statements in front: what is left of the line at a statement are the last of
its parts. -/
theorem ReadsStatement.parts (runs : RunsOut b) (h : ReadsStatement b c d) :
    RunsOut c ∧ splitTopLevel .semicolon c.rest <:+ splitTopLevel .semicolon b.rest := by
  induction h with
  | first => exact ⟨runs, List.suffix_rfl⟩
  | @later c d e f earlier semicolon more read ih =>
      obtain ⟨hruns, hparts⟩ := ih
      obtain ⟨stmt, hc, -⟩ := passes_simpleStatement earlier.read
      have hsplit := (parts_of_statement hruns earlier.read hc).2 e semicolon
      refine ⟨?_, .trans ⟨[stmt], hsplit.symm⟩ hparts⟩
      rcases hruns.behind earlier.read with hend | ⟨i, hi, hmore⟩
      · obtain ⟨t, hd, -⟩ := exists_of_eat? semicolon
        rw [hend] at hd
        cases hd
      · obtain rfl := Option.some.inj (hi.symm.trans semicolon)
        rcases hmore with hend | hmore
        · rw [atEnd, hend] at more
          cases more
        · exact hmore

end Lines

/-- Every simple statement of a line that is accepted is a part of it between semicolons. The reader
of annotated assignments finds one in this part exactly if the grammar reads a name, a colon, a
type, `=` and a value there. The name is the same, and so are the tokens of the type and of the
value. Only a type with a `lambda` outside of brackets is left out. -/
theorem annotated_assignments_as_read {tokens : List Token} {opensBlock : Bool}
    (accepted : checkLine tokens opensBlock = .ok ()) {b c d : Cursor}
    (begins : StatementsBegin tokens opensBlock b) (statement : ReadsStatement b c d)
    (lambdaFree : LambdaFree c) {stmt : List Token} (span : c.rest = stmt ++ d.rest) :
    stmt ∈ splitTopLevel .semicolon b.rest ∧
      ∀ found, annotatedAssignment? stmt = some found ↔ ∃ n line hint value,
        ReadsAssignment c [⟨.name n, line⟩] hint value d ∧
          found = ⟨n, .ofTokens hint, .ofTokens value⟩ := by
  have hruns := RunsOut.of_simpleStatements (simpleStatements_of_checkLine accepted begins)
  obtain ⟨hmore, hparts⟩ := statement.parts hruns
  refine ⟨hparts.mem (parts_of_statement hmore statement.read span).1, fun found => ?_⟩
  constructor
  · exact fun h => readsAssignment_of_found h statement.read lambdaFree span
  · rintro ⟨n, line, hint, value, h, rfl⟩
    exact h.annotatedAssignment?_eq lambdaFree span

/-- A field named by a soft keyword, with a named argument, in the first statement of a class that
stands on one line. -/
theorem annotated_assignments_as_read_class :
    let value := Printed.onLine 1 [.name "f", .symbol .openParen, .name "x", .symbol .assign,
      .number "1", .symbol .closeParen]
    let field := Printed.onLine 1 [.name "type", .symbol .colon, .name "str", .symbol .assign]
    let stmt := field ++ value
    let other := Printed.onLine 1 [.symbol .semicolon, .name "y", .symbol .assign, .number "2"]
    let tokens := Printed.onLine 1 [.name "class", .name "A", .symbol .colon] ++ (stmt ++ other)
    checkLine tokens false = .ok () ∧ stmt ∈ splitTopLevel .semicolon (stmt ++ other) ∧
      annotatedAssignment? stmt = some ⟨"type", .ofTokens [⟨.name "str", 1⟩], .ofTokens value⟩ := by
  intro value field stmt other tokens
  have accepted : checkLine tokens false = .ok () := rfl
  have begins : StatementsBegin tokens false ⟨1, stmt ++ other⟩ := .behindHeader rfl rfl rfl
  have statement : ReadsStatement ⟨1, stmt ++ other⟩ ⟨1, stmt ++ other⟩ ⟨1, other⟩ := .first rfl
  have target : Rule.yieldOrStars.run ⟨1, stmt ++ other⟩ =
      .ok (.name, ⟨1, (stmt ++ other).drop 1⟩) := rfl
  have hint : ReadsHint ⟨1, stmt ++ other⟩ [⟨.name "type", 1⟩] [⟨.name "str", 1⟩]
      ⟨1, ⟨.symbol .assign, 1⟩ :: (value ++ other)⟩ :=
    .intro (b := ⟨1, (stmt ++ other).drop 2⟩) rfl target rfl rfl rfl rfl rfl
  have assignment : ReadsAssignment ⟨1, stmt ++ other⟩ [⟨.name "type", 1⟩] [⟨.name "str", 1⟩] value
      ⟨1, other⟩ := .intro (f := ⟨1, value ++ other⟩) hint rfl rfl rfl
  have lambdaFree := hint.lambdaFree (by decide)
  have h := annotated_assignments_as_read accepted begins statement lambdaFree rfl
  exact ⟨accepted, h.1, (h.2 _).mpr ⟨"type", 1, _, value, assignment, rfl⟩⟩

end DeclaredSchema.Source
