import DeclaredSchema.Proofs.Source.ExpressionLines

/-! # Printed lines are grammatical

A field is an annotated assignment to a name, with a call as its value, so its line is that of a
statement whose trees can be given. The header of a class has nothing between its name and its colon.
-/

namespace DeclaredSchema.Printed

open Source

variable {bare : String}

/-! ## Trees of values -/

/-- The tokens are those of a tree that needs no parentheses in a list. -/
def IsTree (ks : List Token.Kind) : Prop :=
  ∃ e : Tree.Expr, Tree.Strength.expression.rank ≤ e.strength.rank ∧ e.raw = ks

theorem fitted_of_rank {p q : Tree.Strength} {ks : List Token.Kind} (h : p.rank ≤ q.rank) :
    Tree.fitted p q ks = ks := if_pos h

theorem isTree_name {n : String} (free : isKeyword n = false) : IsTree [.name n] :=
  ⟨.name ⟨n, free⟩, Tree.Strength.rank_le_primary _, by rw [Tree.Expr.raw]⟩

theorem isTree_constant (c : Tree.Constant) : IsTree [.name c.word] :=
  ⟨.constant c, Tree.Strength.rank_le_primary _, by rw [Tree.Expr.raw]⟩

theorem isTree_number (text : String) : IsTree [.number text] :=
  ⟨.number text, Tree.Strength.rank_le_primary _, by rw [Tree.Expr.raw]⟩

mutual

theorem isTree_literal {l : Literal} (h : l.isPlain) : IsTree (literalKinds l) := by
  cases l with
  | null => exact isTree_constant .none
  | bool b =>
      cases b with
      | true => exact isTree_constant .true
      | false => exact isTree_constant .false
  | int i =>
      rw [literalKinds]
      split
      · have hrank : Tree.Strength.expression.rank ≤ Tree.Strength.factor.rank := by decide
        refine ⟨.unary .minus (.number (String.ofList (Nat.toDigits 10 i.toInt.natAbs))), hrank, ?_⟩
        rw [Tree.Expr.raw, Tree.Expr.raw]
        rfl
      · exact isTree_number _
  | float x => cases h
  | str s => exact ⟨.string s true, Tree.Strength.rank_le_primary _, by rw [Tree.Expr.raw]; rfl⟩
  | list items =>
      rw [Literal.isPlain] at h
      obtain ⟨trees, htrees⟩ := trees_literals h
      refine ⟨.list trees, Tree.Strength.rank_le_primary _, ?_⟩
      rw [Tree.Expr.raw, htrees]
      rfl

theorem trees_literals {ls : List Literal} (h : Literal.arePlain ls) :
    ∃ items : List Tree.Item, items.map (·.raw) = literalsKinds ls := by
  cases ls with
  | nil => exact ⟨[], rfl⟩
  | cons l rest =>
      rw [Literal.arePlain, Bool.and_eq_true] at h
      obtain ⟨e, he, hraw⟩ := isTree_literal h.1
      obtain ⟨items, hitems⟩ := trees_literals h.2
      refine ⟨.plain e :: items, ?_⟩
      rw [List.map_cons, Tree.Item.raw, fitted_of_rank he, hraw, hitems]
      rfl

end

theorem isTree_value (hbare : isFreeName bare) {value? : Option Literal}
    (h : value?.all (·.isPlain)) : IsTree (valueKinds bare value?) := by
  cases value? with
  | none => exact isTree_name (not_isKeyword_of_isFreeName hbare)
  | some l => exact isTree_literal h

/-! ## Fields -/

theorem trees_arguments (hbare : isFreeName bare) {args : List Argument}
    (h : args.all (·.isPrintable)) :
    ∃ trees : List Tree.Argument, trees.map (·.raw) = args.map (argumentKinds bare) := by
  induction args with
  | nil => exact ⟨[], rfl⟩
  | cons a args ih =>
      rw [List.all_cons, Bool.and_eq_true] at h
      obtain ⟨hname, hvalue⟩ := Argument.of_isPrintable h.1
      obtain ⟨e, he, hraw⟩ := isTree_value hbare hvalue
      obtain ⟨trees, htrees⟩ := ih h.2
      refine ⟨.keyword ⟨a.name, not_isKeyword_of_isFreeName hname⟩ e :: trees, ?_⟩
      rw [List.map_cons, List.map_cons, Tree.Argument.raw, fitted_of_rank he, hraw, htrees]
      rfl

theorem isTree_call (hbare : isFreeName bare) {f : FieldDeclaration} (h : f.isPrintable) :
    IsTree (callKinds bare f) := by
  obtain ⟨-, hname, hargs⟩ := FieldDeclaration.of_isPrintable h
  obtain ⟨trees, htrees⟩ := trees_arguments hbare hargs
  refine ⟨.call (.name ⟨f.declarator, not_isKeyword_of_isDeclaratorName hname⟩) trees,
    Tree.Strength.rank_le_primary _, ?_⟩
  rw [Tree.Expr.raw, Tree.Expr.raw, htrees]
  rfl

theorem isTree_typeHint (optional : Bool) : IsTree (typeHintKinds optional) := by
  cases optional with
  | false => exact isTree_name (by decide)
  | true =>
      refine ⟨.subscript (.name ⟨"Optional", by decide⟩) (.index (.name ⟨"str", by decide⟩)) [],
        by decide, ?_⟩
      rw [Tree.Expr.raw, Tree.Expr.raw, Tree.Slice.raw, Tree.Expr.raw]
      rfl

/-- A printed field is an annotated assignment to a name. -/
theorem exists_statement (hbare : isFreeName bare) {f : FieldDeclaration} (h : f.isPrintable) :
    ∃ s : Tree.ExpressionStatement, s.kinds = fieldKinds bare f ∧ s.Valid := by
  have hfield := not_isKeyword_of_isFreeName (FieldDeclaration.of_isPrintable h).1
  obtain ⟨a, ha, hhint⟩ := isTree_typeHint f.optional
  obtain ⟨v, hv, hcall⟩ := isTree_call hbare h
  refine ⟨.annotated (.name ⟨f.field, hfield⟩) a (some v), ?_, .name _⟩
  have htarget : (Tree.Expr.name ⟨f.field, hfield⟩).printed = [.name f.field] := by
    rw [Tree.Expr.printed, Tree.Expr.raw]
    rfl
  have hvalue : v.printed = callKinds bare f := by
    rw [Tree.Expr.printed, fitted_of_rank (Nat.le_trans (by decide) hv), hcall]
  rw [Tree.ExpressionStatement.kinds, htarget, fitted_of_rank ha, hhint]
  simp [Tree.assigned, hvalue, fieldKinds]

/-! ## Lines -/

theorem map_kind_onLine (line : Nat) (ks : List Token.Kind) :
    (onLine line ks).map (·.kind) = ks := by
  rw [onLine, List.map_map]
  exact List.map_id ks

/-- The line of a field. -/
theorem plainLine_field (hbare : isFreeName bare) {f : FieldDeclaration} (h : f.isPrintable)
    (line : Nat) : Tree.PlainLine ((onLine line (fieldKinds bare f)).map (·.kind)) := by
  obtain ⟨s, hs, -⟩ := exists_statement hbare h
  rw [map_kind_onLine, ← hs]
  exact s.plain

theorem checkLine_field (hbare : isFreeName bare) {f : FieldDeclaration} (h : f.isPrintable)
    (line : Nat) : checkLine (onLine line (fieldKinds bare f)) false = .ok () := by
  have hplain := plainLine_field hbare h line
  obtain ⟨s, hs, hvalid⟩ := exists_statement hbare h
  rw [← hplain.not_opensBlock]
  exact (hplain.checkLine_iff (s.settles ((map_kind_onLine line _).trans hs.symm))).mpr hvalid

/-- The header of a class. -/
theorem checkLine_header {name : String} (h : isFreeName name) (line : Nat) :
    checkLine (onLine line (headerKinds name)) true = .ok () := by
  have hname : Cursor.identifier ⟨line, [⟨.name name, line⟩, ⟨.symbol .colon, line⟩]⟩ =
      .ok ⟨line, [⟨.symbol .colon, line⟩]⟩ :=
    Cursor.identifier_of_kinds (not_isKeyword_of_isFreeName h) rfl
  have hheader : Line.classHeader ⟨line, [⟨.name name, line⟩, ⟨.symbol .colon, line⟩]⟩ =
      .ok ⟨line, [⟨.symbol .colon, line⟩]⟩ := by
    rw [Line.classHeader, hname]
    rfl
  have hcompound : Line.compoundHeader ⟨0, onLine line (headerKinds name)⟩ = .ok ⟨line, []⟩ := by
    show (Line.classHeader ⟨line, [⟨.name name, line⟩, ⟨.symbol .colon, line⟩]⟩ >>= _) = _
    rw [hheader]
    rfl
  show (Line.compoundHeader ⟨0, onLine line (headerKinds name)⟩ >>= Cursor.finish) = _
  rw [hcompound]
  rfl

end DeclaredSchema.Printed
