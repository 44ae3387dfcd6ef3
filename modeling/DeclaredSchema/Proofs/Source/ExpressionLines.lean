import DeclaredSchema.Proofs.Source.ReadTrees

/-! # Lines made of expressions

A line may hold an expression, a chain of assignments, an augmented or an annotated assignment. The
grammar takes every expression, and of the assignments those to what can be assigned to.
-/

namespace DeclaredSchema.Source.Tree

open Cursor Strength

/-! ## Statements -/

/-- The tokens of an expression where a tuple needs no parentheses. -/
def Expr.printed (e : Expr) : List Token.Kind := fitted .list e.strength e.raw

/-- The sign of an augmented assignment. -/
structure AugmentedSign where
  symbol : Symbol
  augmented : symbol ∈ Line.augmented

/-- A statement that begins with an expression. -/
inductive ExpressionStatement where
  | value (e : Expr)
  | assignment (first : Expr) (more : List Expr) (value : Expr)
  | augmented (target : Expr) (sign : AugmentedSign) (value : Expr)
  | annotated (target annotation : Expr) (value : Option Expr)

/-- Expressions with an equals sign before each of them. -/
def assigned (es : List Expr) : List Token.Kind := es.flatMap fun e => .symbol .assign :: e.printed

namespace ExpressionStatement

def kinds : ExpressionStatement → List Token.Kind
  | value e => e.printed
  | assignment first more v => first.printed ++ assigned (more ++ [v])
  | augmented t sign v => t.printed ++ .symbol sign.symbol :: v.printed
  | annotated t a v =>
    t.printed ++ .symbol .colon :: (fitted .expression a.strength a.raw ++ assigned v.toList)

/-- The tokens of the statement, on any lines. -/
def tokens (s : ExpressionStatement) (lineOf : Nat → Nat) : List Token :=
  s.kinds.mapIdx fun i k => ⟨k, lineOf i⟩

/-- Whether Python has the statement. -/
def Valid : ExpressionStatement → Prop
  | value _ => True
  | assignment first more _ => ∀ t ∈ first :: more, t.Assignable
  | augmented t _ _ => t.Single
  | annotated t _ _ => t.Single

end ExpressionStatement

/-! ## Reading a statement -/

theorem Expr.reads_printed (e : Expr) : ListReads .star e.printed e.shape := e.readable.list

theorem run_printed (e : Expr) {c : Cursor} {rest : List Token.Kind}
    (hc : c.kinds = e.printed ++ rest) (ends : Ends expression.rank rest) :
    Yields (Rule.yieldOrStars.run c) e.shape rest := by
  have h := e.reads_printed
  have hlength : c.rest.length = e.printed.length + rest.length := by
    rw [length_rest, hc, List.length_append]
  have hyield : c.atName "yield" = false := by
    rw [atName_eq, hc, decide_eq_false_iff_not]
    exact h.toPhrase.head_ne rest (by decide)
  obtain ⟨f, hf⟩ : ∃ f, 24 * (c.rest.length + 1) = f + 1 := ⟨24 * c.rest.length + 23, rfl⟩
  rw [Rule.run, hf, Rule.read]
  simp only [hyield, Bool.false_eq_true, if_false]
  exact h.yields f c rest hc ends (by omega)

theorem pass_printed (e : Expr) {c : Cursor} {rest : List Token.Kind}
    (hc : c.kinds = e.printed ++ rest) (ends : Ends expression.rank rest) :
    Arrives (Rule.yieldOrStars.pass c) rest := by
  obtain ⟨d, hread, hd⟩ := run_printed e hc ends
  exact ⟨d, by rw [Rule.pass, hread], hd⟩

theorem pass_expression (e : Expr) {c : Cursor} {rest : List Token.Kind}
    (hc : c.kinds = fitted .expression e.strength e.raw ++ rest)
    (stops : Stops expression.rank rest) : Arrives (Rule.expression.pass c) rest := by
  have hlength : c.rest.length = (fitted .expression e.strength e.raw).length + rest.length := by
    rw [length_rest, hc, List.length_append]
  obtain ⟨d, hread, hd⟩ : Yields (Rule.expression.run c) e.shape rest :=
    (e.readable.fitted .expression (Nat.le_refl _)).yields hc stops (by omega)
  exact ⟨d, by rw [Rule.pass, hread], hd⟩

/-- The tokens are read to their end if the condition holds, and refused if it does not. -/
structure Settles (good : Prop) (r : Except SyntaxError Cursor) : Prop where
  accepts : good → Arrives r []
  refuses : ¬good → ∃ e, r = .error e

/-- Whether the last shape, and those of all but the last expression, can be assigned to. -/
def assignables : Shape → List Expr → Prop
  | _, [] => True
  | s, e :: es => s.assignable = true ∧ assignables e.shape es

theorem assignables_append (s : Shape) (more : List Expr) (v : Expr) :
    assignables s (more ++ [v]) ↔ s.assignable = true ∧ ∀ t ∈ more, t.Assignable := by
  induction more generalizing s with
  | nil => simp [assignables]
  | cons t more ih =>
      rw [List.cons_append, assignables, ih, t.shape_assignable, List.forall_mem_cons]

/-- One more equals sign, with the expression behind it. -/
def assignRound (last : Shape) (c : Cursor) : Except SyntaxError (Round Shape) :=
  match c.eat? .assign with
  | none => .ok (.stop last c)
  | some c => do
    checkTarget last.assignable c
    let (shape, c) ← Rule.yieldOrStars.run c
    .ok (.again shape c)

theorem ends_assigned (es : List Expr) : Ends expression.rank (assigned es) := by
  cases es with
  | nil => exact .nil
  | cons e es => exact .cons (by decide) (by simp) rfl _

theorem assignments_settle {es : List Expr} {s : Shape} {c : Cursor} {n : Nat}
    (hn : es.length < n) (hc : c.kinds = assigned es) :
    Settles (assignables s es) (roundsFuel assignRound n s c >>= fun p => .ok p.2) := by
  induction es generalizing s c n with
  | nil =>
      obtain ⟨m, rfl⟩ : ∃ m, n = m + 1 := ⟨n - 1, by omega⟩
      have hassign : c.eat? .assign = none := eat?_of_head (by rw [hc]; simp [assigned])
      have hround : assignRound s c = .ok (.stop s c) := by rw [assignRound, hassign]
      rw [roundsFuel, hround]
      exact ⟨fun _ => .ok hc, fun h => absurd trivial h⟩
  | cons e es ih =>
      obtain ⟨m, rfl⟩ : ∃ m, n = m + 1 := ⟨n - 1, by omega⟩
      have hc : c.kinds = .symbol .assign :: (e.printed ++ assigned es) := hc
      rw [roundsFuel, assignRound, eat?_of_kinds hc]
      by_cases hs : s.assignable = true
      · obtain ⟨d, hread, hd⟩ := run_printed e (kinds_advance hc) (ends_assigned es)
        have hmore := ih (s := e.shape) (n := m) (by simpa using hn) hd
        simp only [hs, checkTarget, if_true, Rule.ok_bind, hread]
        exact ⟨fun h => hmore.accepts h.2, fun h => hmore.refuses fun hes => h ⟨hs, hes⟩⟩
      · simp only [hs, checkTarget]
        exact ⟨fun h => absurd h.1 hs, fun _ => ⟨_, rfl⟩⟩

theorem expressionStatement_eq (c : Cursor) : Line.expressionStatement c = (do
    let (target, c) ← Rule.yieldOrStars.run c
    match c.eat? .colon with
    | some c =>
      checkTarget target.single c
      let c ← Rule.expression.pass c
      match c.eat? .assign with
      | some c => Rule.yieldOrStars.pass c
      | none => .ok c
    | none => match c.eatAny? Line.augmented with
      | some c =>
        checkTarget target.single c
        Rule.yieldOrStars.pass c
      | none =>
        let (_, c) ← rounds assignRound target c
        .ok c) := rfl

section Statements

variable {c : Cursor} (t v : Expr)

/-- An expression, and what it and those behind it are assigned. -/
theorem settles_assigned (es : List Expr) (hc : c.kinds = t.printed ++ assigned es) :
    Settles (assignables t.shape es) (Line.expressionStatement c) := by
  obtain ⟨d, hread, hd⟩ := run_printed t hc (ends_assigned es)
  have hhead : (assigned es).head? = none ∨ (assigned es).head? = some (.symbol .assign) := by
    cases es with
    | nil => exact Or.inl rfl
    | cons e es => exact Or.inr rfl
  have hcolon : d.eat? .colon = none :=
    eat?_of_head (by rw [hd]; rcases hhead with h | h <;> simp [h])
  have haugmented : d.eatAny? Line.augmented = none := by
    apply eatAny?_of_head
    intro y hy
    rw [hd]
    rcases hhead with h | h
    · simp [h]
    · rw [h]
      rintro ⟨⟩
      exact absurd hy (by decide)
  have hlength : es.length < d.rest.length + 1 := by
    have hassigned : es.length ≤ (assigned es).length :=
      length_le_flatMap fun _ _ => List.cons_ne_nil _ _
    rw [length_rest, hd]
    omega
  rw [expressionStatement_eq, hread, Rule.ok_bind]
  simp only [hcolon, haugmented]
  exact assignments_settle hlength hd

/-- No expression goes on with the sign of an augmented assignment. -/
theorem augmented_ends :
    ∀ y ∈ Line.augmented, joinRank (.symbol y) < expression.rank ∧
      openRank (.symbol y) = 0 ∧ y ≠ .comma ∧ y ≠ .colon := by
  decide

theorem settles_augmented (sign : AugmentedSign)
    (hc : c.kinds = t.printed ++ .symbol sign.symbol :: v.printed) :
    Settles (t.shape.single = true) (Line.expressionStatement c) := by
  obtain ⟨joins, opens, comma, colon⟩ := augmented_ends sign.symbol sign.augmented
  obtain ⟨d, hread, hd⟩ := run_printed t hc (.cons joins (by simpa using comma) opens _)
  have hcolon : d.eat? .colon = none := eat?_of_head (by rw [hd]; simpa using colon)
  obtain ⟨e, hvalue, he⟩ : Arrives (Rule.yieldOrStars.pass d.advance) [] :=
    pass_printed v (by rw [kinds_advance hd, List.append_nil]) .nil
  rw [expressionStatement_eq, hread, Rule.ok_bind]
  simp only [hcolon, eatAny?_of_kinds hd sign.augmented]
  by_cases hs : t.shape.single = true
  · simp only [hs, checkTarget, if_true, Rule.ok_bind, hvalue]
    exact ⟨fun _ => .ok he, fun h => absurd trivial h⟩
  · simp only [hs, checkTarget]
    exact ⟨fun h => absurd h (by decide), fun _ => ⟨_, rfl⟩⟩

theorem settles_annotated (a : Expr) (v : Option Expr)
    (hc : c.kinds = t.printed ++ .symbol .colon ::
      (fitted .expression a.strength a.raw ++ assigned v.toList)) :
    Settles (t.shape.single = true) (Line.expressionStatement c) := by
  obtain ⟨d, hread, hd⟩ := run_printed t hc (.cons (by decide) (by simp) rfl _)
  obtain ⟨e, hannotation, he⟩ : Arrives (Rule.expression.pass d.advance) (assigned v.toList) :=
    pass_expression a (kinds_advance hd) (ends_assigned _).stops
  rw [expressionStatement_eq, hread, Rule.ok_bind]
  simp only [eat?_of_kinds hd]
  by_cases hs : t.shape.single = true
  · refine ⟨fun _ => ?_, fun h => absurd hs h⟩
    simp only [hs, checkTarget, if_true, Rule.ok_bind, hannotation]
    cases v with
    | none =>
        have hassign : e.eat? .assign = none := eat?_of_head (by rw [he]; simp [assigned])
        simp only [hassign]
        exact .ok he
    | some v =>
        have he : e.kinds = .symbol .assign :: (v.printed ++ []) := he
        simp only [eat?_of_kinds he]
        exact pass_printed v (kinds_advance he) .nil
  · simp only [hs, checkTarget]
    exact ⟨fun h => absurd h (by decide), fun _ => ⟨_, rfl⟩⟩

end Statements

/-! ## Lines -/

/-- The line is no header, and no statement that begins with a word of its own. -/
structure PlainLine (ks : List Token.Kind) : Prop where
  opens : ∃ k tail, ks = k :: tail ∧ list.rank ≤ openRank k
  second : ∀ k j tail, ks = k :: j :: tail → isIdentifier k = true → isIdentifier j = false
  closes : ks.getLast? ≠ some (.symbol .colon)

theorem Phrase.second_plain {n : Nat} {ks rest : List Token.Kind} (h : Phrase n ks)
    (hrest : ∀ j, rest.head? = some j → isIdentifier j = false) (k j : Token.Kind)
    (tail : List Token.Kind) (heq : ks ++ rest = k :: j :: tail) (hk : isIdentifier k = true) :
    isIdentifier j = false := by
  obtain ⟨i, more, rfl, -⟩ := h.opens
  obtain ⟨rfl, htail⟩ := List.cons.inj heq
  cases more with
  | nil =>
      have hhead : rest = j :: tail := htail
      exact hrest j (by rw [hhead]; rfl)
  | cons i' more =>
      obtain rfl : i' = j := (List.cons.inj htail).1
      rcases h.second _ _ more rfl with hconnects | ⟨hplain, -⟩
      · cases i' with
        | name w => simpa [connects] using hconnects
        | _ => rfl
      · rw [hk] at hplain
        cases hplain

theorem plainLine (e : Expr) {rest : List Token.Kind}
    (hrest : ∀ j, rest.head? = some j → isIdentifier j = false)
    (closes : (e.printed ++ rest).getLast? ≠ some (.symbol .colon)) :
    PlainLine (e.printed ++ rest) where
  opens := by
    obtain ⟨k, tail, hk, hopen⟩ := e.reads_printed.toPhrase.opens
    exact ⟨k, tail ++ rest, by rw [hk]; rfl, hopen⟩
  second := e.reads_printed.toPhrase.second_plain hrest
  closes := closes

theorem word_ne {w x : String} (hw : list.rank ≤ openRank (.name w))
    (hx : openRank (.name x) = 0) : w ≠ x := by
  rintro rfl
  rw [hx] at hw
  exact absurd hw (by decide)

namespace PlainLine

variable {tokens : List Token} (h : PlainLine (tokens.map (·.kind)))
include h

theorem not_opensBlock : opensBlock tokens = false := by
  have hclose := h.closes
  rw [List.getLast?_map] at hclose
  rw [opensBlock]
  cases hlast : tokens.getLast? with
  | none => rfl
  | some t =>
      rw [hlast] at hclose
      simpa [Token.isSymbol] using hclose

theorem exists_first : ∃ k line ts, tokens = ⟨k, line⟩ :: ts ∧ list.rank ≤ openRank k := by
  obtain ⟨k, tail, hks, hk⟩ := h.opens
  cases tokens with
  | nil => cases hks
  | cons t ts =>
      obtain ⟨rfl, -⟩ := List.cons.inj hks
      exact ⟨t.kind, t.line, ts, rfl, hk⟩

theorem clauseOf?_eq_none : clauseOf? tokens = none := by
  obtain ⟨k, line, ts, rfl, hk⟩ := h.exists_first
  cases k with
  | name w =>
      have hasync : Token.isName ⟨.name w, line⟩ "async" = false := by
        have hne := word_ne hk (show openRank (.name "async") = 0 by decide)
        simp [Token.isName, hne]
      have hclause : Clause.ofKeyword? w = none := by
        rw [Clause.ofKeyword?, List.find?_eq_none]
        intro clause _ hkeyword
        have hne := word_ne hk (x := clause.keyword) (by cases clause <;> decide)
        exact hne (eq_of_beq hkeyword).symm
      simp only [clauseOf?, hasync, Bool.false_eq_true, if_false]
      exact hclause
  | _ => rfl

/-- `type` is followed by no name, so it begins no alias. -/
theorem not_atTypeAlias (hname : tokens.head?.map (·.kind) = some (.name "type")) :
    Line.atTypeAlias (Cursor.start tokens) = false := by
  rcases tokens with - | ⟨t, - | ⟨u, ts⟩⟩
  · rfl
  · rfl
  · have hfirst : t.kind = .name "type" := Option.some.inj hname
    have hsecond := h.second t.kind u.kind _ rfl (by rw [hfirst]; decide)
    have hnone : (u.name?.any (!isKeyword ·)) = false := by
      obtain ⟨k, line⟩ := u
      cases k with
      | name w => simpa [isIdentifier, Token.name?] using hsecond
      | _ => rfl
    simp [Line.atTypeAlias, Cursor.start, second?, hnone]

theorem simpleStatement_eq :
    Line.simpleStatement (Cursor.start tokens) =
      Line.expressionStatement (Cursor.start tokens) := by
  obtain ⟨k, line, ts, rfl, hk⟩ := h.exists_first
  have hend : (Cursor.start (⟨k, line⟩ :: ts)).atEnd = false := rfl
  have hat : (Cursor.start (⟨k, line⟩ :: ts)).eat? .at = none := by
    apply eat?_of_head
    rintro ⟨⟩
    exact absurd hk (by decide)
  rw [Line.simpleStatement, hend, hat]
  cases k with
  | name w =>
      have hne (x : String) (hx : openRank (.name x) = 0) : w ≠ x := word_ne hk hx
      -- Every other word of a statement is a keyword that begins no expression.
      have halias :
          ¬(w = "type" ∧ Line.atTypeAlias (Cursor.start (⟨.name w, line⟩ :: ts)) = true) := by
        rintro ⟨rfl, halias⟩
        rw [h.not_atTypeAlias rfl] at halias
        cases halias
      show Line.namedStatement w _ = _
      simp (disch := decide) [Line.namedStatement, hne, halias]
  | _ => rfl

/-- A line is accepted if its only statement is. -/
theorem checkLine_iff {good : Prop}
    (hgood : Settles good (Line.expressionStatement (Cursor.start tokens))) :
    checkLine tokens (opensBlock tokens) = .ok () ↔ good := by
  have hcheck : checkLine tokens (opensBlock tokens) =
      Line.simpleStatements (Cursor.start tokens) := by
    simp [checkLine, h.clauseOf?_eq_none, h.not_opensBlock, Line.isSoftHeader]
  rw [hcheck, Line.simpleStatements]
  by_cases hg : good
  · obtain ⟨d, hread, hd⟩ := hgood.accepts hg
    have hsemicolon : d.eat? .semicolon = none := eat?_of_head (by rw [hd]; simp)
    have hend : d.finish = .ok () := by
      have hrest : d.rest = [] := List.map_eq_nil_iff.mp hd
      rw [finish, atEnd, hrest]
      rfl
    refine iff_of_true ?_ hg
    rw [rounds_stop (w := ()) (d := d)]
    · exact hend
    · rw [h.simpleStatement_eq, hread, Rule.ok_bind, hsemicolon]
  · obtain ⟨e, hread⟩ := hgood.refuses hg
    refine iff_of_false ?_ hg
    rw [rounds, roundsFuel, h.simpleStatement_eq, hread]
    rintro ⟨⟩

end PlainLine

namespace ExpressionStatement

theorem map_kind_tokens (s : ExpressionStatement) (lineOf : Nat → Nat) :
    (s.tokens lineOf).map (·.kind) = s.kinds := by
  rw [tokens]
  exact List.ext_getElem (by simp) (by simp)

theorem closes_assigned (front : List Token.Kind) (es : List Expr) (v : Expr) :
    (front ++ assigned (es ++ [v])).getLast? ≠ some (.symbol .colon) := by
  have hassigned : assigned (es ++ [v]) = assigned es ++ .symbol .assign :: v.printed := by
    simp [assigned]
  rw [hassigned, ← List.append_assoc, List.append_cons]
  exact v.reads_printed.toPhrase.closes_append _

/-- No statement that begins with an expression is taken for another. -/
theorem plain (s : ExpressionStatement) : PlainLine s.kinds := by
  cases s with
  | value e =>
      have hcloses := e.reads_printed.toPhrase.closes
      rw [kinds, ← List.append_nil e.printed]
      exact plainLine e nofun (by rwa [List.append_nil])
  | assignment first more v =>
      refine plainLine first (fun j hj => ?_) (closes_assigned _ _ _)
      cases more with
      | nil | cons _ _ =>
        obtain rfl := Option.some.inj hj
        rfl
  | augmented t sign v =>
      refine plainLine t (fun j hj => ?_) ?_
      · obtain rfl := Option.some.inj hj
        rfl
      · rw [List.append_cons]
        exact v.reads_printed.toPhrase.closes_append _
  | annotated t a v =>
      refine plainLine t (fun j hj => ?_) ?_
      · obtain rfl := Option.some.inj hj
        rfl
      · rw [List.append_cons, ← List.append_assoc]
        cases v with
        | none =>
            have ha := (a.readable.fitted .expression (Nat.le_refl _)).toPhrase
            rw [show assigned (Option.toList none) = [] from rfl, List.append_nil]
            exact ha.closes_append _
        | some v => exact closes_assigned _ [] v

theorem settles (s : ExpressionStatement) {c : Cursor} (hc : c.kinds = s.kinds) :
    Settles s.Valid (Line.expressionStatement c) := by
  cases s with
  | value e => exact settles_assigned e [] (by rw [hc]; simp [kinds, assigned])
  | assignment first more v =>
      have hsettles := settles_assigned first (more ++ [v]) hc
      rwa [assignables_append, first.shape_assignable, ← List.forall_mem_cons] at hsettles
  | augmented t sign v =>
      have hsettles := settles_augmented t v sign hc
      rwa [t.shape_single] at hsettles
  | annotated t a v =>
      have hsettles := settles_annotated t a v hc
      rwa [t.shape_single] at hsettles

end ExpressionStatement

/-- Every expression is a line. An assignment is one if and only if all its targets can be assigned
to, and one with an operator or an annotation if and only if its target is a single one. -/
theorem checkLine_expressionStatement (s : ExpressionStatement) (lineOf : Nat → Nat) :
    checkLine (s.tokens lineOf) (opensBlock (s.tokens lineOf)) = .ok () ↔ s.Valid := by
  have hkinds := s.map_kind_tokens lineOf
  exact (hkinds ▸ s.plain).checkLine_iff (s.settles hkinds)

-- a, *b = -(1 + 2)
example : checkLine ((ExpressionStatement.assignment
    (.tuple [.plain (.name ⟨"a", rfl⟩), .star (.name ⟨"b", rfl⟩)]) []
    (.unary .minus (.binary (.number "1") .add (.number "2")))).tokens fun _ => 1) false =
      .ok () := by
  cbv

end DeclaredSchema.Source.Tree
