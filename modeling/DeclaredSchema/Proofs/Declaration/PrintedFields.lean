import DeclaredSchema.Proofs.Source.PrintedExprs

/-! # Printed fields are read back

The tokens of a printed field are the declaration that it was printed for, on its line and with the
key that its arguments state.
-/

namespace DeclaredSchema.Printed

open Source

variable {bare : String} {symbols : List Symbol}

/-! ## Arguments -/

theorem readFuel_value (hbare : isFreeName bare) {value? : Option Literal}
    (h : value?.all (·.isPlain)) {n : Nat} (hn : (valueKinds bare value?).length ≤ n)
    (line : Nat) :
    (Expr.readFuel n (onLine line (valueKinds bare value?))).literal? = value? := by
  cases value? with
  | none =>
      have hname := not_isKeyword_of_isFreeName hbare
      obtain ⟨m, rfl⟩ : ∃ m, n = m + 1 := ⟨n - 1, by simp [valueKinds] at hn; omega⟩
      rw [valueKinds, readFuel_single (.word (not_operatorKeyword hname) .nil) (by simp) (by simp)
        fun sub line => atomWith_name hname sub line []]
      rfl
  | some l => exact readFuel_literal h hn line

theorem valueKinds_ne_nil (bare : String) {value? : Option Literal} (h : value?.all (·.isPlain)) :
    valueKinds bare value? ≠ [] := by
  cases value? with
  | none => exact List.cons_ne_nil _ _
  | some l => exact literalKinds_ne_nil h

/-- The arguments of a printed call, with the values that `sub` reads. -/
theorem argsWith_arguments (hbare : isFreeName bare) {args : List Argument}
    (h : args.all (·.isPrintable)) (sub : List Token → Expr) (line : Nat) :
    Expr.argsWith sub (onLine line (commaJoined (args.map (argumentKinds bare)))) =
      args.map fun a => (some a.name, sub (onLine line (valueKinds bare a.value))) := by
  have hne : ∀ part ∈ args.map (argumentKinds bare), part ≠ [] := by
    rw [List.forall_mem_map]
    exact fun a _ => List.cons_ne_nil _ _
  rw [Expr.argsWith, parts_commaJoined (by decide) (matched_arguments hbare h) hne, List.map_map,
    List.map_map]
  apply List.map_congr_left
  intro a ha
  have hvalue := Argument.of_isPrintable (List.all_eq_true.mp h a ha)
  obtain ⟨k, ks, hkinds⟩ := List.exists_cons_of_ne_nil (valueKinds_ne_nil bare hvalue.2)
  simp [argumentKinds, onLine, hkinds]

theorem keywordArguments_arguments (hbare : isFreeName bare) {args : List Argument}
    (h : args.all (·.isPrintable)) {n : Nat}
    (hn : ∀ a ∈ args, (valueKinds bare a.value).length ≤ n) (line : Nat) :
    keywordArguments (args.map fun a =>
      (some a.name, Expr.readFuel n (onLine line (valueKinds bare a.value)))) = args := by
  induction args with
  | nil => rfl
  | cons a args ih =>
      rw [List.all_cons, Bool.and_eq_true] at h
      obtain ⟨ha, hargs⟩ := List.forall_mem_cons.mp hn
      have hvalue := readFuel_value hbare (Argument.of_isPrintable h.1).2 ha line
      rw [keywordArguments] at ih ⊢
      rw [List.map_cons, List.filterMap_cons_some (b := a), ih h.2 hargs]
      simp only [Option.map_some, hvalue]

theorem postfixWith_call {sub : List Token → Expr} {e : Expr} {line : Nat}
    {ts inside rest : List Token} (h : bracketed? ts = some (inside, rest)) :
    Expr.postfixWith sub e (⟨.symbol .openParen, line⟩ :: ts) =
      Expr.postfixWith sub (.call e (Expr.argsWith sub inside)) rest := by
  rw [Expr.postfixWith.eq_def]
  dsimp only
  split
  · rename_i heq
    rw [h] at heq
    cases heq
    rfl
  · rename_i heq
    rw [h] at heq
    cases heq

theorem postfixWith_subscript {sub : List Token → Expr} {e : Expr} {line : Nat}
    {ts inside rest : List Token} (h : bracketed? ts = some (inside, rest)) :
    Expr.postfixWith sub e (⟨.symbol .openSquare, line⟩ :: ts) =
      Expr.postfixWith sub (.subscript e (sub inside)) rest := by
  rw [Expr.postfixWith.eq_def]
  dsimp only
  split
  · rename_i heq
    rw [h] at heq
    cases heq
    rfl
  · rename_i heq
    rw [h] at heq
    cases heq

theorem operandWith_call {sub : List Token → Expr} {name : String} (hname : isKeyword name = false)
    {inside : List Token.Kind} (hinside : Matched symbols inside) (line : Nat) :
    Expr.operandWith sub (onLine line
      (.name name :: .symbol .openParen :: (inside ++ [.symbol .closeParen]))) =
        .call (.name name) (Expr.argsWith sub (onLine line inside)) := by
  have htext : onLine line (.name name :: .symbol .openParen ::
      (inside ++ [.symbol .closeParen])) = ⟨.name name, line⟩ :: ⟨.symbol .openParen, line⟩ ::
        onLine line (inside ++ [.symbol .closeParen]) := rfl
  have hbracketed := hinside.bracketed?_close (show Symbol.closeParen.closes?.isSome from rfl) line
  rw [htext, Expr.operandWith, atomWith_name hname]
  simp [postfixWith_call hbracketed, Expr.postfixWith]

theorem operandWith_subscript {sub : List Token → Expr} {name : String}
    (hname : isKeyword name = false) {inside : List Token.Kind} (hinside : Matched symbols inside)
    (line : Nat) :
    Expr.operandWith sub (onLine line
      (.name name :: .symbol .openSquare :: (inside ++ [.symbol .closeSquare]))) =
        .subscript (.name name) (sub (onLine line inside)) := by
  have htext : onLine line (.name name :: .symbol .openSquare ::
      (inside ++ [.symbol .closeSquare])) = ⟨.name name, line⟩ :: ⟨.symbol .openSquare, line⟩ ::
        onLine line (inside ++ [.symbol .closeSquare]) := rfl
  have hbracketed := hinside.bracketed?_close (show Symbol.closeSquare.closes?.isSome from rfl) line
  rw [htext, Expr.operandWith, atomWith_name hname]
  simp [postfixWith_subscript hbracketed, Expr.postfixWith]

/-- The call that a printed field makes. -/
theorem ofTokens_call (hbare : isFreeName bare) {f : FieldDeclaration} (h : f.isPrintable)
    (line : Nat) : ∃ args, Expr.ofTokens (onLine line (callKinds bare f)) =
      .call (.name f.declarator) args ∧ keywordArguments args = f.args := by
  have hcall := (matched_call hbare h).mono (List.nil_subset [.minus])
  obtain ⟨-, hdeclarator, hargs⟩ := FieldDeclaration.of_isPrintable h
  obtain ⟨m, hm⟩ : ∃ m, (callKinds bare f).length = m + 1 := ⟨_, rfl⟩
  have hlength : ∀ a ∈ f.args, (valueKinds bare a.value).length ≤ m := by
    intro a ha
    have hle := length_le_commaJoined_of_mem (List.mem_map_of_mem (f := argumentKinds bare) ha)
    have hvalue : (argumentKinds bare a).length = (valueKinds bare a.value).length + 2 := rfl
    simp [callKinds] at hm
    omega
  refine ⟨_, ?_, keywordArguments_arguments hbare hargs hlength line⟩
  rw [Expr.ofTokens, onLine, List.length_map, hm, Expr.readFuel, ← argsWith_arguments hbare hargs]
  rw [callKinds] at hcall ⊢
  rw [← onLine, readWith_operand hcall (by simp) (by simp)]
  exact operandWith_call (not_isKeyword_of_isDeclaratorName hdeclarator)
    (.commaJoined (matched_arguments hbare hargs)) line

theorem isOptional_typeHint (optional : Bool) (line : Nat) :
    isOptional (.ofTokens (onLine line (typeHintKinds optional))) = optional := by
  have hstr : Matched [.minus] [.name "str"] := .word (by decide) .nil
  cases optional with
  | false =>
      have hread : Expr.ofTokens (onLine line [.name "str"]) = .name "str" :=
        readFuel_single hstr (by simp) (by simp) (fun sub line => rfl) 0 line
      rw [typeHintKinds, if_neg Bool.false_ne_true, hread]
      rfl
  | true =>
      have hmatched := (matched_typeHint true).mono (List.nil_subset [.minus])
      have hread : Expr.ofTokens (onLine line (typeHintKinds true)) =
          .subscript (.name "Optional") (Expr.readFuel 3 (onLine line [.name "str"])) := by
        show Expr.readWith (Expr.readFuel 3) (onLine line (typeHintKinds true)) = _
        rw [typeHintKinds, if_pos rfl] at hmatched ⊢
        rw [readWith_operand hmatched (by simp) (by simp)]
        exact operandWith_subscript (by decide) hstr line
      rw [hread, readFuel_single hstr (by simp) (by simp) fun sub line => rfl]
      rfl

theorem keyOf_args (f : FieldDeclaration) : keyOf f.field f.args = key f := by
  have hlast : f.args.reverse.find? (·.name == "attribute_key") =
      (f.args.filter (·.name == "attribute_key")).getLast? := by
    rw [List.getLast?_eq_head?_reverse, ← List.filter_reverse, List.head?_filter]
  rw [keyOf, lastArgument?, hlast, key]
  cases (f.args.filter (·.name == "attribute_key")).getLast? with
  | none => rfl
  | some a =>
      obtain ⟨name, value⟩ := a
      cases value with
      | none => rfl
      | some l => cases l <;> rfl

theorem length_le_utf8ByteSize (s : String) : s.length ≤ s.utf8ByteSize := by
  obtain ⟨cs, rfl⟩ : ∃ cs, s = String.ofList cs := ⟨s.toList, String.ofList_toList.symm⟩
  rw [String.length_ofList]
  induction cs with
  | nil => exact Nat.zero_le _
  | cons c cs ih =>
      have hpos := c.utf8Size_pos
      have happend : String.ofList (c :: cs) = String.singleton c ++ String.ofList cs := by
        apply String.toList_injective
        simp
      rw [happend, String.utf8ByteSize_append, String.utf8ByteSize_singleton, List.length_cons]
      omega

theorem looksLikeDeclarator_of_isDeclaratorName {word : String} (h : isDeclaratorName word) :
    Kind.looksLikeDeclarator word = true := by
  simp only [isDeclaratorName, Bool.and_eq_true, decide_eq_true_eq] at h
  have hlength : "Attribute".toList.length < word.utf8ByteSize :=
    Nat.lt_of_lt_of_le h.1.2 (length_le_utf8ByteSize word)
  simp only [Kind.looksLikeDeclarator, h.2, Bool.and_true, gt_iff_lt, hlength, decide_true,
    Bool.or_true]

/-- A printed field is the declaration that it was printed for. -/
theorem fieldDeclaration?_field (hbare : isFreeName bare) {f : FieldDeclaration}
    (h : f.isPrintable) (line : Nat) :
    fieldDeclaration? (onLine line (fieldKinds bare f)) = some (locatedField line f) := by
  obtain ⟨args, hcall, hargs⟩ := ofTokens_call hbare h line
  obtain ⟨hfield, hdeclarator, -⟩ := FieldDeclaration.of_isPrintable h
  have hcut := (matched_typeHint f.optional line).cutTopLevel?_separator
    (fun t ht => ht.isSymbol (s := .assign) (List.not_mem_nil))
    (t := ⟨.symbol .assign, line⟩) rfl rfl rfl (onLine line (callKinds bare f))
  have hassigned : annotatedAssignment? (onLine line (fieldKinds bare f)) = some
      ⟨f.field, .ofTokens (onLine line (typeHintKinds f.optional)),
        .ofTokens (onLine line (callKinds bare f))⟩ := by
    rw [onLine_fieldKinds, annotatedAssignment?, not_isKeyword_of_isFreeName hfield, hcut]
    rfl
  have hhead : (onLine line (fieldKinds bare f)).head? = some ⟨.name f.field, line⟩ := rfl
  simp only [fieldDeclaration?, hhead, hassigned, Option.bind_eq_bind, Option.bind_some, hcall,
    hargs, keyOf_args, isOptional_typeHint, looksLikeDeclarator_of_isDeclaratorName hdeclarator, if_true]
  rfl

end DeclaredSchema.Printed
