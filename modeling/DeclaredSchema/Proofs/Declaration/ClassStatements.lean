import DeclaredSchema.Declaration.Scan
import DeclaredSchema.Proofs.Source.Accepted
import DeclaredSchema.Proofs.Source.ClassHeaders

/-! # The classes of a text

The statements of a text stand inside each other, in indented blocks or behind a colon. The classes
that are found in a text are those of its statements that begin with `class`, in the order in which
they stand, and each has the declarations that are simple statements of its own body.
-/

namespace DeclaredSchema

open Source

namespace Source

/-! ## Statements at every depth -/

/-- What stands behind the header of a clause, on its line. -/
def inlineBody (tokens : List Token) : List Token :=
  match Line.compoundHeader (Cursor.start tokens) with
  | .ok behind => behind.rest
  | .error _ => []

namespace Statement

/-- The line of a statement, or of its header. -/
def head : Statement → Line
  | simple line => line
  | compound header _ => header

/-- The statements behind the colon of a clause, if the line has one. -/
def behindColon (line : Line) : List Statement :=
  if (clauseOf? line.tokens).isSome then simpleLines (inlineBody line.tokens) line.line else []

/-- The statements that stand directly in a statement, behind the colon and in a block. -/
def body : Statement → List Statement
  | simple line => behindColon line
  | compound header block => behindColon header ++ block

mutual

/-- A statement and all that stand in it, at every depth. -/
def all : Statement → List Statement
  | simple line => simple line :: behindColon line
  | compound header block => compound header block :: (behindColon header ++ allOf block)

def allOf : List Statement → List Statement
  | [] => []
  | s :: rest => all s ++ allOf rest

end

/-- The statement begins with `class`. -/
def isClass (s : Statement) : Bool := s.head.tokens.head?.any (·.isName "class")

/-- One simple statement, without a clause in front of it. -/
def isSimple : Statement → Bool
  | simple line => (clauseOf? line.tokens).isNone
  | compound _ _ => false

/-- The declarations among the simple statements that stand directly in a statement. -/
def declarations (s : Statement) : List FieldDeclaration :=
  (s.body.filter (·.isSimple)).filterMap (fieldDeclaration? ·.head.tokens)

/-- A class that is no marker and declares something. -/
def isModel (s : Statement) : Bool :=
  s.isClass && !Kind.isMarkerClass (className s.head.tokens) && !s.declarations.isEmpty

/-- What a class declares. -/
def declared (path : String) (s : Statement) : ClassDeclaration where
  name := className s.head.tokens
  source := path
  line := s.head.line
  fields := s.declarations

/-- The models among some statements. -/
def models (path : String) (stmts : List Statement) : List ClassDeclaration :=
  (stmts.filter (·.isModel)).map (·.declared path)

theorem models_append (path : String) (ss others : List Statement) :
    models path (ss ++ others) = models path ss ++ models path others := by
  rw [models, List.filter_append, List.map_append]
  rfl

theorem models_cons (path : String) (s : Statement) (ss : List Statement) :
    models path (s :: ss) = (if s.isModel then [s.declared path] else []) ++ models path ss := by
  rw [models, List.filter_cons]
  split <;> rfl

theorem models_eq_nil {path : String} {ss : List Statement}
    (h : ∀ s ∈ ss, s.isClass = false) : models path ss = [] := by
  have hnone : ss.filter (·.isModel) = [] :=
    List.filter_eq_nil_iff.mpr fun s hs => by simp [isModel, h s hs]
  rw [models, hnone, List.map_nil]

theorem allOf_append (ss others : List Statement) :
    allOf (ss ++ others) = allOf ss ++ allOf others := by
  induction ss with
  | nil => rfl
  | cons s ss ih => rw [List.cons_append, allOf, allOf, ih, List.append_assoc]

theorem mem_allOf {ss : List Statement} {t : Statement} :
    t ∈ allOf ss ↔ ∃ s ∈ ss, t ∈ all s := by
  induction ss with
  | nil => simp [allOf]
  | cons s ss ih => simp [allOf, ih]

/-! ## Statements that the grammar has -/

/-- A clause begins a line of the grammar. -/
def Checked : Statement → Prop
  | simple line => (clauseOf? line.tokens).isSome → checkLine line.tokens false = .ok ()
  | compound header _ => checkLine header.tokens true = .ok ()

end Statement

section Lines

variable {tokens : List Token} {opens : Bool}

theorem clauseOf?_of_class (h : tokens.head?.any (·.isName "class") = true) :
    (clauseOf? tokens).isSome := by
  obtain - | ⟨⟨kind, n⟩, ts⟩ := tokens
  · cases h
  obtain rfl : kind = .name "class" := by simpa [Token.isName] using h
  rfl

/-- A clause with the grammar of a line is a header and a body. -/
theorem exists_header (hclause : (clauseOf? tokens).isSome) (h : checkLine tokens opens = .ok ()) :
    ∃ behind, Line.compoundHeader (Cursor.start tokens) = .ok behind ∧
      (if opens then behind.finish else Line.simpleStatements behind) = .ok () := by
  rw [checkLine, hclause, Bool.true_or, if_pos rfl] at h
  exact bind_eq_ok.mp h

theorem inlineBody_of_header {behind : Cursor}
    (h : Line.compoundHeader (Cursor.start tokens) = .ok behind) :
    inlineBody tokens = behind.rest := by
  rw [inlineBody, h]

/-- The statements of one line are simple. -/
theorem simple_of_mem_simpleLines {c : Cursor} (h : Line.simpleStatements c = .ok ()) {n : Nat}
    {s : Statement} (hs : s ∈ simpleLines c.rest n) :
    ∃ line, s = .simple line ∧ clauseOf? line.tokens = none := by
  obtain ⟨hline, hparts⟩ := clauseOf?_of_simpleStatements h
  rw [simpleLines, hline] at hs
  obtain ⟨part, hpart, hs⟩ := List.mem_filterMap.mp hs
  obtain ⟨first, -, rfl⟩ := Option.map_eq_some_iff.mp hs
  exact ⟨_, rfl, hparts part hpart⟩

/-- No class is hidden behind the colon of a clause. -/
theorem simple_of_mem_behindColon {line : Line} (h : (Statement.simple line).Checked)
    {s : Statement} (hs : s ∈ Statement.behindColon line) :
    ∃ part, s = .simple part ∧ clauseOf? part.tokens = none := by
  rw [Statement.behindColon] at hs
  split at hs
  · next hclause =>
      obtain ⟨behind, hheader, hbody⟩ := exists_header hclause (h hclause)
      rw [inlineBody_of_header hheader] at hs
      exact simple_of_mem_simpleLines hbody hs
  · cases hs

/-- A header with a block has nothing behind its colon. -/
theorem behindColon_of_checked {header : Line} {block : List Statement}
    (h : (Statement.compound header block).Checked) : Statement.behindColon header = [] := by
  rw [Statement.behindColon]
  split
  · next hclause =>
      obtain ⟨behind, hheader, hfinish⟩ := exists_header hclause h
      rw [inlineBody_of_header hheader, rest_of_finish hfinish]
      rfl
  · rfl

end Lines

namespace Statement

variable {s : Statement} {line : Line}

theorem not_isClass_of_clauseOf? (h : clauseOf? line.tokens = none) :
    (simple line).isClass = false := by
  by_contra hclass
  have hsome : (clauseOf? line.tokens).isSome :=
    clauseOf?_of_class ((Bool.not_eq_false _).mp hclass)
  rw [h] at hsome
  cases hsome

theorem checked_of_clauseOf? (h : clauseOf? line.tokens = none) : (simple line).Checked := by
  intro hclause
  rw [h] at hclause
  cases hclause

/-- A class has a header that the reader of headers finds. -/
theorem classHeader?_of_checked (h : s.Checked) (hclass : s.isClass = true) :
    classHeader? s.head.tokens = some ⟨className s.head.tokens, inlineBody s.head.tokens⟩ := by
  have hclause := clauseOf?_of_class hclass
  obtain ⟨behind, hheader⟩ : ∃ behind,
      Line.compoundHeader (Cursor.start s.head.tokens) = .ok behind := by
    cases s with
    | simple line => exact (exists_header hclause (h hclause)).imp fun _ hb => hb.1
    | compound header block => exact (exists_header hclause h).imp fun _ hb => hb.1
  rw [classHeader?_of_compoundHeader hclass hheader, inlineBody_of_header hheader]

theorem classHeader?_of_not_isClass (h : s.isClass = false) :
    classHeader? s.head.tokens = none := by
  rw [classHeader?.eq_def]
  split
  · next heq => simp [isClass, heq, Token.isName] at h
  · rfl

end Statement

end Source

/-! ## Declarations of a body -/

/-- A clause makes no declaration. -/
theorem fieldDeclaration?_of_clauseOf? {tokens : List Token} (h : (clauseOf? tokens).isSome) :
    fieldDeclaration? tokens = none := by
  have hnone : annotatedAssignment? tokens = none := by
    rw [annotatedAssignment?.eq_def]
    split
    · obtain ⟨word, hmem, hword⟩ := clauseWord_of_clauseOf? (c := Cursor.start _) h
      obtain rfl := Option.some.inj hword
      exact if_pos (keyword_of_clauseWord _ hmem)
    · rfl
  rw [fieldDeclaration?, hnone]
  cases tokens.head? <;> rfl

namespace Source.Statement

theorem declaration?_eq (s : Statement) :
    (if s.isSimple then fieldDeclaration? s.head.tokens else none) =
      (simpleTokens? s).bind fieldDeclaration? := by
  cases s with
  | compound header block => rfl
  | simple line =>
      cases hclause : clauseOf? line.tokens with
      | none => rw [if_pos (by rw [isSimple, hclause]; rfl)]; rfl
      | some clause =>
          rw [if_neg (by simp [isSimple, hclause])]
          exact (fieldDeclaration?_of_clauseOf? (by rw [hclause]; rfl)).symm

theorem declarations_eq (s : Statement) :
    s.declarations = s.body.filterMap fun t => (simpleTokens? t).bind fieldDeclaration? := by
  rw [declarations, List.filterMap_filter]
  exact List.filterMap_congr fun t _ => declaration?_eq t

/-- The declarations of a block. -/
theorem declarations_compound {header : Line} {block : List Statement}
    (h : (compound header block).Checked) :
    (block.filterMap simpleTokens?).filterMap fieldDeclaration? =
      (compound header block).declarations := by
  rw [declarations_eq, body, behindColon_of_checked h, List.filterMap_filterMap]
  rfl

/-- The declarations behind a colon. -/
theorem declarations_simple {line : Line} (hclause : (clauseOf? line.tokens).isSome)
    (h : clauseOf? (inlineBody line.tokens) = none) :
    (splitTopLevel .semicolon (inlineBody line.tokens)).filterMap fieldDeclaration? =
      (simple line).declarations := by
  rw [declarations_eq, body, behindColon, if_pos hclause, simpleLines, h,
    if_neg (by simp), List.filterMap_filterMap]
  refine List.filterMap_congr fun part _ => ?_
  cases part <;> rfl

/-! ## All classes -/

theorem toList_classDeclaration? (path : String) {s : Statement} (h : s.isClass = true)
    {body : List (List Token)} (hbody : body.filterMap fieldDeclaration? = s.declarations) :
    (classDeclaration? path (className s.head.tokens) s.head.line body).toList =
      if s.isModel then [s.declared path] else [] := by
  rw [classDeclaration?, hbody, isModel, h]
  cases Kind.isMarkerClass (className s.head.tokens) <;> cases s.declarations.isEmpty <;> rfl

/-- A line makes the class that it is, and none of the statements behind its colon is a class. -/
theorem classesIn_simple (path : String) {line : Line} (h : (simple line).Checked) :
    classesIn path (simple line) = models path (all (simple line)) := by
  have hbehind : models path (behindColon line) = [] := by
    refine models_eq_nil fun s hs => ?_
    obtain ⟨part, rfl, hpart⟩ := simple_of_mem_behindColon h hs
    exact not_isClass_of_clauseOf? hpart
  rw [classesIn, all, models_cons, hbehind, List.append_nil, inlineClass?]
  cases hclass : (simple line).isClass with
  | false =>
      rw [show classHeader? line.tokens = none from classHeader?_of_not_isClass hclass, isModel,
        hclass]
      rfl
  | true =>
      have hclause : (clauseOf? line.tokens).isSome := clauseOf?_of_class hclass
      obtain ⟨behind, hheader, hbody⟩ := exists_header hclause (h hclause)
      have hinline : clauseOf? (inlineBody line.tokens) = none := by
        rw [inlineBody_of_header hheader]
        exact (clauseOf?_of_simpleStatements hbody).1
      rw [show classHeader? line.tokens = _ from classHeader?_of_checked h hclass]
      exact toList_classDeclaration? path hclass (declarations_simple hclause hinline)

/-- A header makes the class that it opens, in front of those of its block. -/
theorem blockClass?_eq (path : String) {header : Line} {block : List Statement}
    (h : (compound header block).Checked) :
    (blockClass? path header block).toList =
      if (compound header block).isModel then [(compound header block).declared path] else [] := by
  rw [blockClass?]
  cases hclass : (compound header block).isClass with
  | false =>
      rw [show classHeader? header.tokens = none from classHeader?_of_not_isClass hclass, isModel,
        hclass]
      rfl
  | true =>
      rw [show classHeader? header.tokens = _ from classHeader?_of_checked h hclass]
      exact toList_classDeclaration? path hclass (declarations_compound h)

mutual

/-- The classes in a statement are the models in it, in the same order. -/
theorem classesIn_eq_models (path : String) (s : Statement) (h : ∀ t ∈ all s, t.Checked) :
    classesIn path s = models path (all s) := by
  match s with
  | simple line => exact classesIn_simple path (h _ List.mem_cons_self)
  | compound header block =>
      obtain ⟨hheader, hblock⟩ := List.forall_mem_cons.mp h
      rw [behindColon_of_checked hheader] at hblock
      rw [classesIn, all, models_cons, behindColon_of_checked hheader, blockClass?_eq path hheader,
        classesInBlock_eq_models path block hblock]
      rfl

theorem classesInBlock_eq_models (path : String) (stmts : List Statement)
    (h : ∀ t ∈ allOf stmts, t.Checked) : classesInBlock path stmts = models path (allOf stmts) := by
  match stmts with
  | [] => rfl
  | s :: rest =>
      obtain ⟨hs, hrest⟩ := List.forall_mem_append.mp h
      rw [classesInBlock, allOf, models_append, classesIn_eq_models path s hs,
        classesInBlock_eq_models path rest hrest]

end

end Source.Statement

/-! ## All lines -/

namespace Source.Outline

/-- What stands in a line is checked with it. -/
theorem checked_of_mem_all {line : Line} (h : (Statement.simple line).Checked) :
    ∀ s ∈ Statement.all (.simple line), s.Checked := by
  refine List.forall_mem_cons.mpr ⟨h, fun s hs => ?_⟩
  obtain ⟨part, rfl, hpart⟩ := simple_of_mem_behindColon h hs
  exact Statement.checked_of_clauseOf? hpart

theorem checked_of_line (l : SimpleLine) (h : l.Accepted) :
    ∀ s ∈ Statement.allOf (simpleLines l.tokens l.start), s.Checked := by
  have hchecked : checkLine l.tokens false = .ok () := by
    rw [← l.closed]
    exact h.checked
  intro s hs
  obtain ⟨t, ht, hs⟩ := Statement.mem_allOf.mp hs
  cases hclause : clauseOf? l.tokens with
  | some clause =>
      rw [simpleLines, if_pos (by rw [hclause]; rfl), List.mem_singleton] at ht
      subst ht
      exact checked_of_mem_all (fun _ => hchecked) s hs
  | none =>
      have hsimple : Line.simpleStatements (Cursor.start l.tokens) = .ok () := by
        rwa [checkLine, hclause] at hchecked
      obtain ⟨part, rfl, hpart⟩ := simple_of_mem_simpleLines hsimple ht
      exact checked_of_mem_all (Statement.checked_of_clauseOf? hpart) s hs

/-- Every statement of an accepted outline is checked, by recursion over the outline. -/
theorem checked_of_accepted (outlines : List Outline) (h : Accepted outlines) :
    ∀ s ∈ Statement.allOf (statementsOf outlines), s.Checked := by
  match outlines with
  | [] => exact nofun
  | .line l :: others =>
      obtain ⟨hl, hothers⟩ := accepted_line.mp h
      rw [statementsOf, statements, Statement.allOf_append]
      exact List.forall_mem_append.mpr
        ⟨checked_of_line l hl, checked_of_accepted others hothers⟩
  | .block header opens body closes :: others =>
      obtain ⟨hheader, hbody, hothers⟩ := accepted_block.mp h
      rw [statementsOf, statements, Statement.allOf_append]
      refine List.forall_mem_append.mpr ⟨?_, checked_of_accepted others hothers⟩
      have hchecked : (Statement.compound ⟨header.tokens, header.start⟩
          (statementsOf body)).Checked := by
        have := hheader.checked
        rwa [LogicalLine.Checked, header.opens] at this
      rw [Statement.allOf, Statement.all, Statement.allOf, List.append_nil,
        behindColon_of_checked hchecked]
      exact List.forall_mem_cons.mpr ⟨hchecked, checked_of_accepted body hbody⟩

end Source.Outline

theorem scanSource_eq_ok {path text : String} {classes : List ClassDeclaration} :
    scanSource path text = .ok classes ↔ ∃ ts stmts, tokenize text = .ok ts ∧
      statements ts = .ok stmts ∧ classesInBlock path stmts = classes := by
  simp [scanSource, bind_eq_ok]

/-- The classes of a text are its class statements that are no markers and declare something, at
every depth and in the order in which they stand. Every statement that begins with `class` has a
header. -/
theorem scanSource_eq_models {path text : String} {classes : List ClassDeclaration}
    (h : scanSource path text = .ok classes) :
    ∃ ts stmts, tokenize text = .ok ts ∧ statements ts = .ok stmts ∧
      classes = ((Statement.allOf stmts).filter (·.isModel)).map (·.declared path) ∧
      ∀ s ∈ Statement.allOf stmts, s.isClass = true →
        classHeader? s.head.tokens = some ⟨className s.head.tokens, inlineBody s.head.tokens⟩ := by
  obtain ⟨ts, stmts, htokens, hstmts, rfl⟩ := scanSource_eq_ok.mp h
  obtain ⟨outlines, last, -, haccepted, rfl⟩ := exists_outline htokens hstmts
  have hchecked := Outline.checked_of_accepted outlines haccepted
  refine ⟨ts, _, htokens, hstmts, Statement.classesInBlock_eq_models path _ hchecked, ?_⟩
  exact fun s hs hclass => Statement.classHeader?_of_checked (hchecked s hs) hclass

/-- A class with a block and, in it, a class with its body behind the colon. -/
theorem scanSource_eq_models_nested :
    let text := "class A:\n b: T = StringAttribute()\n class C: d: T = EnumAttribute()\n"
    let classes : List ClassDeclaration := [
      ⟨"A", "m.py", 1, [⟨"b", "b", "StringAttribute", [], false, 2⟩]⟩,
      ⟨"C", "m.py", 3, [⟨"d", "d", "EnumAttribute", [], false, 3⟩]⟩]
    scanSource "m.py" text = .ok classes ∧
    ∃ ts stmts, tokenize text = .ok ts ∧ statements ts = .ok stmts ∧
      classes = ((Statement.allOf stmts).filter (·.isModel)).map (·.declared "m.py") ∧
      ∀ s ∈ Statement.allOf stmts, s.isClass = true →
        classHeader? s.head.tokens =
          some ⟨className s.head.tokens, inlineBody s.head.tokens⟩ := by
  intro text classes
  let outer : List Token := [⟨.name "class", 1⟩, ⟨.name "A", 1⟩, ⟨.symbol .colon, 1⟩]
  let field : List Token := [⟨.name "b", 2⟩, ⟨.symbol .colon, 2⟩, ⟨.name "T", 2⟩,
    ⟨.symbol .assign, 2⟩, ⟨.name "StringAttribute", 2⟩, ⟨.symbol .openParen, 2⟩,
    ⟨.symbol .closeParen, 2⟩]
  let inner : List Token := [⟨.name "class", 3⟩, ⟨.name "C", 3⟩, ⟨.symbol .colon, 3⟩,
    ⟨.name "d", 3⟩, ⟨.symbol .colon, 3⟩, ⟨.name "T", 3⟩, ⟨.symbol .assign, 3⟩,
    ⟨.name "EnumAttribute", 3⟩, ⟨.symbol .openParen, 3⟩, ⟨.symbol .closeParen, 3⟩]
  let ts : List Token := outer ++ ⟨.newline, 1⟩ :: ⟨.indent, 2⟩ :: field ++ ⟨.newline, 2⟩ ::
    inner ++ [⟨.newline, 3⟩, ⟨.dedent, 4⟩, ⟨.endMarker, 4⟩]
  have htokens :
      tokenize "class A:\n b: T = StringAttribute()\n class C: d: T = EnumAttribute()\n" = .ok ts := by
    rw [tokenize_eq_steps]
    rfl
  have hstmts : statements ts =
      .ok [.compound ⟨outer, 1⟩ [.simple ⟨field, 2⟩, .simple ⟨inner, 3⟩]] := rfl
  have hclasses : classesInBlock "m.py"
      [.compound ⟨outer, 1⟩ [.simple ⟨field, 2⟩, .simple ⟨inner, 3⟩]] = classes := by
    with_unfolding_all rfl
  have h : scanSource "m.py" text = .ok classes :=
    scanSource_eq_ok.mpr ⟨ts, _, htokens, hstmts, hclasses⟩
  exact ⟨h, scanSource_eq_models h⟩

end DeclaredSchema
