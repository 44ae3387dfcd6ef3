import DeclaredSchema.Proofs.Declaration.PrintedFields
import DeclaredSchema.Proofs.Source.Outlines
import DeclaredSchema.Proofs.Source.PrintedLines

/-! # Scanning undoes printing

The lines of a printed text nest as its classes do: a header for every class, with its fields as the
block below it. So a scan of the text finds the classes that were printed, and nothing else.
-/

namespace DeclaredSchema

open Source

namespace Printed

variable {bare : String} {symbols : List Symbol}

/-! ## Lines -/

theorem readBlock_onLine {n : String} {ks : List Token.Kind} (h : Matched symbols (.name n :: ks))
    (line f : Nat) (nested : Bool) (order : ClauseOrder) (ts : List Token) :
    readBlock (f + 1) nested order (onLine line (.name n :: ks) ++ ⟨.newline, line⟩ :: ts) = (do
      checkLine (onLine line (.name n :: ks)) (opensBlock (onLine line (.name n :: ks)))
      let order ← order.next (onLine line (.name n :: ks)) line
      readBehind f nested order ⟨onLine line (.name n :: ks), line⟩
        (opensBlock (onLine line (.name n :: ks))) ts) :=
  readBlock_text rfl (fun _ ht => not_endsLine ((h line).not_isLayout ht)) (by rintro _ ⟨⟩; rfl)

/-- The block goes on behind a line, if no block of its own may follow there. -/
theorem readBlock_simple {n : String} {ks : List Token.Kind} (h : Matched symbols (.name n :: ks))
    (hsemicolon : .semicolon ∉ symbols) {line : Nat}
    (hopens : opensBlock (onLine line (.name n :: ks)) = false)
    (hcheck : checkLine (onLine line (.name n :: ks)) false = .ok ())
    (hclause : clauseOf? (onLine line (.name n :: ks)) = none) {order : ClauseOrder}
    (horder : order.previous ≠ some .tryBlock) {f : Nat} {nested : Bool}
    {ts rest : List Token} {others : List Statement}
    (hindent : ∀ t, ts.head? = some t → t.kind ≠ .indent)
    (hmore : readBlock f nested ⟨none, line⟩ ts = .ok (others, rest)) :
    readBlock (f + 1) nested order (onLine line (.name n :: ks) ++ ⟨.newline, line⟩ :: ts) =
      .ok (.simple ⟨onLine line (.name n :: ks), line⟩ :: others, rest) := by
  have hnext : order.next (onLine line (.name n :: ks)) line = .ok ⟨none, line⟩ := by
    simp [ClauseOrder.next, hclause, horder]
  have hlines : simpleLines (onLine line (.name n :: ks)) line =
      [.simple ⟨onLine line (.name n :: ks), line⟩] := by
    rw [simpleLines, hclause, (h line).splitTopLevel_eq fun t ht => ht.isSymbol hsemicolon]
    rfl
  rw [readBlock_onLine h, hopens, hcheck, hnext, Rule.ok_bind, Rule.ok_bind,
    readBehind_flat hindent, hmore, Rule.ok_bind, hlines]
  rfl

/-- The block that a header opens is read before the rest of the block around it. -/
theorem readBlock_compound {n : String} {ks : List Token.Kind}
    (h : Matched symbols (.name n :: ks)) {line : Nat}
    (hopens : opensBlock (onLine line (.name n :: ks)) = true)
    (hcheck : checkLine (onLine line (.name n :: ks)) true = .ok ()) {order next : ClauseOrder}
    (hnext : order.next (onLine line (.name n :: ks)) line = .ok next) {f below : Nat}
    {nested : Bool} {ts inner rest : List Token} {body others : List Statement}
    (hbody : readBlock f true .start ts = .ok (body, inner))
    (hmore : readBlock f nested next inner = .ok (others, rest)) :
    readBlock (f + 1) nested order
      (onLine line (.name n :: ks) ++ ⟨.newline, line⟩ :: ⟨.indent, below⟩ :: ts) =
      .ok (.compound ⟨onLine line (.name n :: ks), line⟩ body :: others, rest) := by
  rw [readBlock_onLine h, hopens, hcheck, hnext, Rule.ok_bind, Rule.ok_bind, readBehind_opens,
    hbody, Rule.ok_bind]
  simp only [hmore, Rule.ok_bind]

/-! ## Blocks -/

def fieldStatements (bare : String) (line : Nat) : List FieldDeclaration → List Statement
  | [] => []
  | f :: rest =>
    .simple ⟨onLine line (fieldKinds bare f), line⟩ :: fieldStatements bare (line + 1) rest

def classStatements (bare : String) (line : Nat) : List ClassDeclaration → List Statement
  | [] => []
  | c :: rest =>
    .compound ⟨onLine line (headerKinds c.name), line⟩
        (fieldStatements bare (line + 1) c.fields) ::
      classStatements bare (line + 1 + c.fields.length) rest

/-- The fields of a class are the statements of its block, up to where it is closed. -/
theorem readBlock_fields (hbare : isFreeName bare) {fields : List FieldDeclaration}
    (h : fields.all (·.isPrintable)) {f : Nat} (hfuel : fields.length < f) (line : Nat)
    {order : ClauseOrder} (horder : order.previous ≠ some .tryBlock) (below : Nat)
    (rest : List Token) :
    readBlock f true order (fieldsTokens bare line fields ++ ⟨.dedent, below⟩ :: rest) =
      .ok (fieldStatements bare line fields, rest) := by
  induction fields generalizing f line order with
  | nil =>
      obtain ⟨n, rfl⟩ : ∃ n, f = n + 1 := ⟨f - 1, by omega⟩
      rw [fieldsTokens, List.nil_append, readBlock]
      simp only [ClauseOrder.finish, if_neg horder, Rule.ok_bind, if_true, fieldStatements]
  | cons first fields ih =>
      obtain ⟨n, rfl⟩ : ∃ n, f = n + 1 := ⟨f - 1, by omega⟩
      rw [List.all_cons, Bool.and_eq_true] at h
      rw [List.length_cons] at hfuel
      have hplain := plainLine_field hbare h.1 line
      have hmore := ih h.2 (f := n) (by omega) (line + 1) (show (⟨none, line⟩ :
        ClauseOrder).previous ≠ some .tryBlock by simp)
      rw [fieldsTokens, List.append_assoc, List.cons_append]
      refine readBlock_simple (matched_field hbare h.1) (by decide) hplain.not_opensBlock
        (checkLine_field hbare h.1 line) hplain.clauseOf?_eq_none horder ?_ hmore
      intro t ht hindent
      cases fields with
      | nil =>
          rw [← Option.some.inj ht] at hindent
          cases hindent
      | cons second fields =>
          rw [← Option.some.inj ht] at hindent
          cases hindent

/-- A class opens a statement and follows every other one. -/
theorem next_header {order : ClauseOrder} (horder : order.previous ≠ some .tryBlock)
    (name : String) (line : Nat) :
    order.next (onLine line (headerKinds name)) line = .ok ⟨some .classBody, line⟩ := by
  have hclause : clauseOf? (onLine line (headerKinds name)) = some .classBody := rfl
  simp [ClauseOrder.next, hclause, horder, ClauseOrder.mayFollow]

theorem matched_header {name : String} (h : isFreeName name) :
    Matched [.colon] (headerKinds name) :=
  .word (by decide) (.word (not_operatorKeyword (not_isKeyword_of_isFreeName h))
    (.symbol (by decide) rfl rfl .nil))

theorem length_le_fieldsTokens (bare : String) (line : Nat) (fields : List FieldDeclaration) :
    fields.length ≤ (fieldsTokens bare line fields).length := by
  induction fields generalizing line with
  | nil => exact Nat.le_refl _
  | cons f fields ih =>
      have := ih (line + 1)
      simp only [fieldsTokens, List.length_append, List.length_cons]
      omega

theorem readBlock_classes (hbare : isFreeName bare) {classes : List ClassDeclaration}
    (h : classes.all (·.isPrintable)) {f line : Nat}
    (hfuel : (sourceTokens bare line classes).length ≤ f) {order : ClauseOrder}
    (horder : order.previous ≠ some .tryBlock) :
    ∃ rest, readBlock f false order (sourceTokens bare line classes) =
      .ok (classStatements bare line classes, rest) := by
  induction classes generalizing f line order with
  | nil =>
      obtain ⟨n, rfl⟩ : ∃ n, f = n + 1 := ⟨f - 1, by simp [sourceTokens] at hfuel; omega⟩
      refine ⟨[⟨.endMarker, line⟩], ?_⟩
      rw [sourceTokens, readBlock]
      simp only [ClauseOrder.finish, if_neg horder, Rule.ok_bind, classStatements]
  | cons c classes ih =>
      rw [List.all_cons, Bool.and_eq_true] at h
      obtain ⟨hname, -, -, hfields⟩ := ClassDeclaration.of_isPrintable h.1
      have hlength := length_le_fieldsTokens bare (line + 1) c.fields
      have hall : (sourceTokens bare line (c :: classes)).length =
          (fieldsTokens bare (line + 1) c.fields).length + 6 +
            (sourceTokens bare (line + 1 + c.fields.length) classes).length := by
        simp [sourceTokens, classTokens, headerKinds, onLine]
        omega
      obtain ⟨n, rfl⟩ : ∃ n, f = n + 1 := ⟨f - 1, by omega⟩
      obtain ⟨rest, hmore⟩ : ∃ rest, readBlock n false ⟨some .classBody, line⟩
          (sourceTokens bare (line + 1 + c.fields.length) classes) =
            .ok (classStatements bare (line + 1 + c.fields.length) classes, rest) :=
        ih h.2 (by omega) (by simp)
      have hbody := readBlock_fields hbare hfields (f := n) (by omega) (line + 1)
        (show ClauseOrder.start.previous ≠ some .tryBlock by simp [ClauseOrder.start])
        (line + 1 + c.fields.length) (sourceTokens bare (line + 1 + c.fields.length) classes)
      have htext : sourceTokens bare line (c :: classes) =
          onLine line (headerKinds c.name) ++ ⟨.newline, line⟩ :: ⟨.indent, line + 1⟩ ::
            (fieldsTokens bare (line + 1) c.fields ++ ⟨.dedent, line + 1 + c.fields.length⟩ ::
              sourceTokens bare (line + 1 + c.fields.length) classes) := by
        simp [sourceTokens, classTokens]
      refine ⟨rest, ?_⟩
      rw [htext]
      exact readBlock_compound (matched_header hname) rfl (checkLine_header hname line)
        (next_header horder c.name line) hbody hmore

theorem statements_source (hbare : isFreeName bare) {classes : List ClassDeclaration}
    (h : classes.all (·.isPrintable)) (line : Nat) :
    statements (sourceTokens bare line classes) = .ok (classStatements bare line classes) := by
  obtain ⟨rest, hread⟩ := readBlock_classes hbare h (Nat.le_succ
    (sourceTokens bare line classes).length) (show ClauseOrder.start.previous ≠ some .tryBlock by
      simp [ClauseOrder.start])
  rw [statements, hread]
  rfl

/-! ## Classes -/

theorem fieldDeclarations_fieldStatements (hbare : isFreeName bare)
    {fields : List FieldDeclaration} (h : fields.all (·.isPrintable)) (line : Nat) :
    ((fieldStatements bare line fields).filterMap simpleTokens?).filterMap fieldDeclaration? =
      locatedFields line fields := by
  induction fields generalizing line with
  | nil => rfl
  | cons f fields ih =>
      rw [List.all_cons, Bool.and_eq_true] at h
      have hfirst : simpleTokens? (.simple ⟨onLine line (fieldKinds bare f), line⟩) =
          some (onLine line (fieldKinds bare f)) := rfl
      rw [fieldStatements, List.filterMap_cons_some hfirst,
        List.filterMap_cons_some (fieldDeclaration?_field hbare h.1 line), ih h.2, locatedFields]

/-- No class stands in a field. -/
theorem classesInBlock_fieldStatements (path : String) (line : Nat)
    (fields : List FieldDeclaration) :
    classesInBlock path (fieldStatements bare line fields) = [] := by
  induction fields generalizing line with
  | nil => rfl
  | cons f fields ih =>
      have hheader : classHeader? (onLine line (fieldKinds bare f)) = none := by
        rw [classHeader?.eq_def]
        split
        · rename_i heq
          simp [fieldKinds, onLine] at heq
        · rfl
      rw [fieldStatements, classesInBlock, classesIn, inlineClass?, hheader, ih]
      rfl

theorem classesInBlock_classStatements (hbare : isFreeName bare)
    {classes : List ClassDeclaration} (h : classes.all (·.isPrintable)) (path : String)
    (line : Nat) :
    classesInBlock path (classStatements bare line classes) = located path line classes := by
  induction classes generalizing line with
  | nil => rfl
  | cons c classes ih =>
      rw [List.all_cons, Bool.and_eq_true] at h
      obtain ⟨-, hmarker, hne, hfields⟩ := ClassDeclaration.of_isPrintable h.1
      have hsome : (locatedFields (line + 1) c.fields).isEmpty = false := by
        cases hc : c.fields with
        | nil =>
            rw [hc] at hne
            cases hne
        | cons f fields => rfl
      have hheader : classHeader? (onLine line (headerKinds c.name)) = some ⟨c.name, []⟩ := rfl
      have hblock : blockClass? path ⟨onLine line (headerKinds c.name), line⟩
          (fieldStatements bare (line + 1) c.fields) =
            some { c with
              source := path, line, fields := locatedFields (line + 1) c.fields } := by
        rw [blockClass?, hheader]
        simp only [Option.bind_eq_bind, Option.bind_some, classDeclaration?,
          fieldDeclarations_fieldStatements hbare hfields, hmarker, hsome]
        rfl
      rw [classStatements, classesInBlock, classesIn, hblock, classesInBlock_fieldStatements,
        ih h.2, located]
      rfl

end Printed

/-- Scanning undoes printing: the classes of a printed text are found in their order, with their
fields, declarators, arguments and annotations as they were, every field on its line and with the key
that its arguments state. -/
theorem scanSource_source (path : String) {bare : String} (hbare : isFreeName bare)
    {classes : List ClassDeclaration} (h : classes.all (·.isPrintable)) :
    scanSource path (Printed.source bare classes) = .ok (Printed.located path 1 classes) := by
  rw [scanSource, Printed.tokenize_source hbare h]
  show (statements (Printed.sourceTokens bare 1 classes) >>= _) = _
  rw [Printed.statements_source hbare h]
  exact congrArg Except.ok (Printed.classesInBlock_classStatements hbare h path 1)

namespace Printed

/-- A class with a repeated argument, an argument that is no literal and a string that needs
escapes. -/
def post : ClassDeclaration where
  name := "Post"
  source := ""
  line := 0
  fields := [
    { field := "author_name", key := "", declarator := "StringAttribute", optional := true, line := 0
      args := [⟨"size", some (.int (-1))⟩, ⟨"size", none⟩, ⟨"default", some (.str "a\"\n\\é")⟩] },
    { field := "tags", key := "", declarator := "EnumAttribute", optional := false, line := 0
      args := [⟨"elements", some (.list [.null, .list [], .bool true])⟩,
        ⟨"attribute_key", some (.str "labels")⟩] }]

end Printed

theorem scanSource_source_post : isFreeName "LIMIT" ∧ [Printed.post].all (·.isPrintable) ∧
    scanSource "models.py" (Printed.source "LIMIT" [Printed.post]) =
      .ok (Printed.located "models.py" 1 [Printed.post]) := by
  have hbare : isFreeName "LIMIT" := by decide
  have hclasses : [Printed.post].all (·.isPrintable) := by decide
  exact ⟨hbare, hclasses, scanSource_source "models.py" hbare hclasses⟩

example : Printed.source "LIMIT" [Printed.post] =
    "class Post:\n" ++
    "    author_name: Optional[str] = " ++
      "StringAttribute(size=-1, size=LIMIT, default=\"a\\\"\\n\\\\é\")\n" ++
    "    tags: str = " ++
      "EnumAttribute(elements=[None, [], True], attribute_key=\"labels\")\n" := by
  decide +kernel

end DeclaredSchema
