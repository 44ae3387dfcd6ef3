import DeclaredSchema.Proofs.Source.Printed
import Mathlib.Data.List.Forall2

/-! # The tokens of a printed text

Every part of a printed class is read as the tokens that it was written for, whatever stands before
and after it. A value always follows a symbol, so that a string never continues another one, and a
delimiter follows it.
-/

namespace DeclaredSchema.Printed

open Source Source.Lexer

/-! ## The tokens that are written -/

def onLine (line : Nat) (kinds : List Token.Kind) : List Token := kinds.map (⟨·, line⟩)

def digits (n : Int) : Token.Kind := .number (String.ofList (Nat.toDigits 10 n.natAbs))

def commaJoined (parts : List (List Token.Kind)) : List Token.Kind :=
  [.symbol .comma].intercalate parts

/-- Parts behind commas. -/
def commaTail (parts : List (List Token.Kind)) : List Token.Kind :=
  parts.flatMap (.symbol .comma :: ·)

theorem commaJoined_cons (part : List Token.Kind) (parts : List (List Token.Kind)) :
    commaJoined (part :: parts) = part ++ commaTail parts := by
  induction parts generalizing part with
  | nil => simp [commaJoined, commaTail]
  | cons next parts ih =>
      have hstep : commaJoined (part :: next :: parts) =
          part ++ .symbol .comma :: commaJoined (next :: parts) := by simp [commaJoined]
      rw [hstep, ih]
      rfl

theorem commaJoined_cons_cons (part next : List Token.Kind) (parts : List (List Token.Kind)) :
    commaJoined (part :: next :: parts) =
      part ++ .symbol .comma :: commaJoined (next :: parts) := by
  rw [commaJoined_cons, commaJoined_cons]
  rfl

theorem commaJoined_singleton (part : List Token.Kind) : commaJoined [part] = part := by
  rw [commaJoined_cons]
  exact List.append_nil part

theorem length_le_commaTail (parts : List (List Token.Kind)) :
    parts.length ≤ (commaTail parts).length := by
  induction parts with
  | nil => exact Nat.le_refl _
  | cons part parts ih =>
      rw [commaTail, List.flatMap_cons, List.length_append, List.length_cons, List.length_cons]
      have ih : parts.length ≤ (parts.flatMap (.symbol .comma :: ·)).length := ih
      omega

theorem length_le_commaJoined (parts : List (List Token.Kind)) :
    parts.length ≤ (commaJoined parts).length + 1 := by
  cases parts with
  | nil => exact Nat.zero_le _
  | cons part parts =>
      have := length_le_commaTail parts
      rw [commaJoined_cons, List.length_append, List.length_cons]
      omega

theorem length_lt_commaTail {parts : List (List Token.Kind)} {part : List Token.Kind}
    (h : part ∈ parts) : part.length < (commaTail parts).length := by
  induction parts with
  | nil => cases h
  | cons first parts ih =>
      have hlength : (commaTail (first :: parts)).length =
          first.length + 1 + (commaTail parts).length := List.length_append
      rw [hlength]
      rcases List.mem_cons.mp h with rfl | h
      · omega
      · have := ih h
        omega

theorem length_le_commaJoined_of_mem {parts : List (List Token.Kind)} {part : List Token.Kind}
    (h : part ∈ parts) : part.length ≤ (commaJoined parts).length := by
  cases parts with
  | nil => cases h
  | cons first parts =>
      rw [commaJoined_cons, List.length_append]
      rcases List.mem_cons.mp h with rfl | h
      · exact Nat.le_add_right _ _
      · have := length_lt_commaTail h
        omega

mutual

def literalKinds : Literal → List Token.Kind
  | .null => [.name "None"]
  | .bool true => [.name "True"]
  | .bool false => [.name "False"]
  | .int i => if i.toInt < 0 then [.symbol .minus, digits i.toInt] else [digits i.toInt]
  | .float _ => []
  | .str s => [.str s true]
  | .list items =>
    .symbol .openSquare :: (commaJoined (literalsKinds items) ++ [.symbol .closeSquare])

def literalsKinds : List Literal → List (List Token.Kind)
  | [] => []
  | l :: rest => literalKinds l :: literalsKinds rest

end

def valueKinds (bare : String) : Option Literal → List Token.Kind
  | some l => literalKinds l
  | none => [.name bare]

def argumentKinds (bare : String) (a : Argument) : List Token.Kind :=
  .name a.name :: .symbol .assign :: valueKinds bare a.value

def typeHintKinds (optional : Bool) : List Token.Kind :=
  if optional then
    [.name "Optional", .symbol .openSquare, .name "str", .symbol .closeSquare]
  else [.name "str"]

def callKinds (bare : String) (f : FieldDeclaration) : List Token.Kind :=
  .name f.declarator :: .symbol .openParen ::
    (commaJoined (f.args.map (argumentKinds bare)) ++ [.symbol .closeParen])

def fieldKinds (bare : String) (f : FieldDeclaration) : List Token.Kind :=
  .name f.field :: .symbol .colon ::
    (typeHintKinds f.optional ++ .symbol .assign :: callKinds bare f)

def headerKinds (name : String) : List Token.Kind :=
  [.name "class", .name name, .symbol .colon]

/-! ## Values -/

/-- A text that is read as tokens of some kinds after a symbol and before a delimiter. -/
def Lexes (cs : List Char) (kinds : List Token.Kind) : Prop :=
  ∀ (symbol : Symbol) (opened line : Nat) (done : List Token) (indents : List Nat)
    (brackets : List (Bracket × Nat)) (rest : List Char), Delimited rest →
    (within line (⟨.symbol symbol, opened⟩ :: done) indents brackets (cs ++ rest)).run =
      (within line ((onLine line kinds).reverse ++ ⟨.symbol symbol, opened⟩ :: done) indents
        brackets rest).run

theorem lexes_name {word : String} (h : isAsciiName word) : Lexes word.toList [.name word] := by
  intro symbol opened line done indents brackets rest hrest
  exact run_name h hrest

/-- An escaped character is one that an escape stands for, or a plain one. -/
theorem escaped_cases (c : Char) :
    (∃ d, escaped c = ['\\', d] ∧ d ≠ '\n' ∧ ∀ rest, escape d rest = ([c], rest)) ∨
      (escaped c = [c] ∧ c ≠ '\\' ∧ c ≠ '"' ∧ c ≠ '\n') := by
  unfold escaped
  by_cases hslash : c = '\\'
  · rw [if_pos hslash, hslash]
    exact Or.inl ⟨'\\', rfl, by decide, fun _ => rfl⟩
  by_cases hquote : c = '"'
  · rw [if_neg hslash, if_pos hquote, hquote]
    exact Or.inl ⟨'"', rfl, by decide, fun _ => rfl⟩
  by_cases hline : c = '\n'
  · rw [if_neg hslash, if_neg hquote, if_pos hline, hline]
    exact Or.inl ⟨'n', rfl, by decide, fun _ => rfl⟩
  rw [if_neg hslash, if_neg hquote, if_neg hline]
  exact Or.inr ⟨rfl, hslash, hquote, hline⟩

/-- What stands between the quotes is read back. -/
theorem stringBody?_escaped (cs rest : List Char) :
    stringBody? '"' false false (cs.flatMap escaped ++ '"' :: rest) = some ⟨cs, 0, rest⟩ := by
  induction cs with
  | nil => exact stringBody?_close '"' rest
  | cons c cs ih =>
      rw [List.flatMap_cons, List.append_assoc]
      rcases escaped_cases c with ⟨d, hc, hline, hd⟩ | ⟨hc, hslash, hquote, hline⟩
      · rw [hc, List.cons_append, List.singleton_append, stringBody?_escape (by decide), hd, ih]
        simp [StringBody.after, hline]
      · rw [hc, List.singleton_append, stringBody?_plain hquote hslash hline, ih]
        simp [StringBody.after, hline]

/-- Only an empty string has two quotes in front, and no third one follows these. -/
theorem not_triple (cs : List Char) {rest : List Char} (hrest : Delimited rest) :
    ¬ ['"', '"'] <+: cs.flatMap escaped ++ '"' :: rest := by
  rintro ⟨more, hmore⟩
  cases cs with
  | nil =>
      obtain ⟨-, hmore⟩ := List.cons.inj hmore
      exact absurd (hrest '"' (by rw [← hmore]; rfl)) (by decide)
  | cons c cs =>
      rw [List.flatMap_cons, List.append_assoc] at hmore
      rcases escaped_cases c with ⟨d, hc, -⟩ | ⟨hc, -, hquote, -⟩
      · rw [hc] at hmore
        exact absurd (List.cons.inj hmore).1 (by decide)
      · rw [hc] at hmore
        exact hquote (List.cons.inj hmore).1.symm

theorem lexes_quoted (s : String) : Lexes (quoted s) [.str s true] := by
  intro symbol opened line done indents brackets rest hrest
  have htext : quoted s ++ rest = '"' :: (s.toList.flatMap escaped ++ '"' :: rest) := by
    simp [quoted]
  rw [htext, run_string (not_triple _ hrest) (stringBody?_escaped _ _), String.ofList_toList]
  rfl

/-- The first character of a value makes nothing longer of a symbol before it. -/
def BeginsApart (cs : List Char) : Prop := ∃ c rest, cs = c :: rest ∧ c ≠ '=' ∧ c ≠ '>'

theorem beginsApart_name {word : String} (h : isAsciiName word) : BeginsApart word.toList := by
  obtain ⟨c, cs, hw, hc⟩ := exists_wordStart h
  exact ⟨c, cs, hw, isWordStart_ne hc (by decide), isWordStart_ne hc (by decide)⟩

theorem beginsApart_digits (n : Nat) : BeginsApart (Nat.toDigits 10 n) := by
  obtain ⟨c, cs, hcs⟩ : ∃ c cs, Nat.toDigits 10 n = c :: cs :=
    List.exists_cons_of_ne_nil Nat.toDigits_ne_nil
  have hc : Text.isAsciiDigit c = true := isAsciiDigit_of_mem_toDigits (hcs ▸ List.mem_cons_self)
  refine ⟨c, cs, hcs, ?_, ?_⟩
  · rintro rfl
    exact absurd hc (by decide)
  · rintro rfl
    exact absurd hc (by decide)

theorem lexes_digits (n : Int) : Lexes (Nat.toDigits 10 n.natAbs) [digits n] := by
  intro symbol opened line done indents brackets rest hrest
  exact run_number n.natAbs hrest

theorem lexes_integer (i : Int64) :
    Lexes (integer i.toInt) (literalKinds (.int i)) := by
  rw [integer, literalKinds]
  by_cases hneg : i.toInt < 0
  · rw [if_pos hneg, if_pos hneg]
    intro symbol opened line done indents brackets rest hrest
    obtain ⟨c, cs, hcs, hassign, hgreater⟩ := beginsApart_digits i.toInt.natAbs
    have hdigits := lexes_digits i.toInt .minus line line (⟨.symbol symbol, opened⟩ :: done) indents
      brackets rest hrest
    rw [hcs] at hdigits ⊢
    rw [List.cons_append, List.cons_append, run_minus hassign hgreater, ← List.cons_append,
      hdigits]
    rfl
  · rw [if_neg hneg, if_neg hneg]
    exact lexes_digits i.toInt

theorem onLine_append (line : Nat) (ks ls : List Token.Kind) :
    onLine line (ks ++ ls) = onLine line ks ++ onLine line ls := List.map_append

theorem onLine_bracketed (line : Nat) (opening closing : Symbol) (inside ks : List Token.Kind) :
    onLine line (.symbol opening :: (inside ++ .symbol closing :: ks)) =
      ⟨.symbol opening, line⟩ :: (onLine line inside ++ ⟨.symbol closing, line⟩ ::
        onLine line ks) := by
  simp [onLine]

theorem onLine_fieldKinds (bare : String) (f : FieldDeclaration) (line : Nat) :
    onLine line (fieldKinds bare f) = ⟨.name f.field, line⟩ :: ⟨.symbol .colon, line⟩ ::
      (onLine line (typeHintKinds f.optional) ++ ⟨.symbol .assign, line⟩ ::
        onLine line (callKinds bare f)) := by
  simp [fieldKinds, onLine]

/-- Values with commas between them. -/
theorem lexes_commaSeparated {parts : List (List Char)} {kinds : List (List Token.Kind)}
    (h : List.Forall₂ Lexes parts kinds) : Lexes (commaSeparated parts) (commaJoined kinds) := by
  induction h with
  | nil =>
      intro symbol opened line done indents brackets rest _
      rfl
  | @cons cs ks parts kinds hcs hrest ih =>
      cases hrest with
      | nil => simpa [commaSeparated, commaJoined] using hcs
      | @cons cs' ks' parts kinds hcs' hrest =>
          intro symbol opened line done indents brackets rest hdelimited
          have htext : commaSeparated (cs :: cs' :: parts) ++ rest =
              cs ++ ',' :: ' ' :: (commaSeparated (cs' :: parts) ++ rest) := by
            simp [commaSeparated]
          rw [htext, hcs _ _ _ _ _ _ _ (delimited_cons (by decide) _), run_comma, run_blank,
            ih _ _ _ _ _ _ _ hdelimited, commaJoined_cons_cons, onLine_append]
          simp [onLine]

theorem beginsApart_literal {l : Literal} (h : l.isPlain) : BeginsApart (literal l) := by
  cases l with
  | null => exact beginsApart_name (by decide)
  | bool b => cases b <;> exact beginsApart_name (by decide)
  | int i =>
      rw [literal, integer]
      split
      · exact ⟨'-', _, rfl, by decide, by decide⟩
      · exact beginsApart_digits _
  | float x => cases h
  | str s => exact ⟨'"', _, rfl, by decide, by decide⟩
  | list items => exact ⟨'[', _, rfl, by decide, by decide⟩

/-- A list is read if its items are. -/
theorem lexes_list {parts : List (List Char)} {kinds : List (List Token.Kind)}
    (h : List.Forall₂ Lexes parts kinds) : Lexes ('[' :: (commaSeparated parts ++ [']']))
      (.symbol .openSquare :: (commaJoined kinds ++ [.symbol .closeSquare])) := by
  intro symbol opened line done indents brackets rest hrest
  have htext : '[' :: (commaSeparated parts ++ [']']) ++ rest =
      '[' :: (commaSeparated parts ++ ']' :: rest) := by simp
  rw [htext, run_openSquare,
    lexes_commaSeparated h _ _ _ _ _ _ _ (delimited_cons (by decide) _), run_closeSquare]
  simp [onLine]

mutual

theorem lexes_literal {l : Literal} (h : l.isPlain) : Lexes (literal l) (literalKinds l) := by
  cases l with
  | null => exact lexes_name (by decide)
  | bool b => cases b <;> exact lexes_name (by decide)
  | int i => exact lexes_integer i
  | float x => cases h
  | str s => exact lexes_quoted s
  | list items =>
      rw [Literal.isPlain] at h
      exact lexes_list (lexes_literals h)

theorem lexes_literals {ls : List Literal} (h : Literal.arePlain ls) :
    List.Forall₂ Lexes (literals ls) (literalsKinds ls) := by
  cases ls with
  | nil => exact .nil
  | cons l rest =>
      rw [Literal.arePlain, Bool.and_eq_true] at h
      exact .cons (lexes_literal h.1) (lexes_literals h.2)

end

/-! ## Fields -/

variable {bare : String}

theorem lexes_value (hbare : isFreeName bare) {value? : Option Literal}
    (h : value?.all (·.isPlain)) :
    Lexes (value bare value?) (valueKinds bare value?) ∧ BeginsApart (value bare value?) := by
  cases value? with
  | none =>
      have hname := isAsciiName_of_isFreeName hbare
      exact ⟨lexes_name hname, beginsApart_name hname⟩
  | some l => exact ⟨lexes_literal h, beginsApart_literal h⟩

theorem lexes_argument (hbare : isFreeName bare) {a : Argument} (h : a.isPrintable) :
    Lexes (argument bare a) (argumentKinds bare a) := by
  obtain ⟨hname, hplain⟩ := Argument.of_isPrintable h
  obtain ⟨hvalue, c, cs, hcs, hassign, hgreater⟩ := lexes_value hbare hplain
  intro symbol opened line done indents brackets rest hrest
  have htext : argument bare a ++ rest = a.name.toList ++ '=' :: c :: (cs ++ rest) := by
    simp [argument, hcs]
  have hread := hvalue .assign line line (⟨.name a.name, line⟩ :: ⟨.symbol symbol, opened⟩ :: done)
    indents brackets rest hrest
  rw [hcs, List.cons_append] at hread
  rw [htext, run_name (isAsciiName_of_isFreeName hname) (delimited_cons (by decide) _),
    run_assign hassign hgreater, hread]
  simp [onLine, argumentKinds]

theorem lexes_arguments (hbare : isFreeName bare) {args : List Argument}
    (h : args.all (·.isPrintable)) :
    List.Forall₂ Lexes (args.map (argument bare)) (args.map (argumentKinds bare)) := by
  induction args with
  | nil => exact .nil
  | cons a rest ih =>
      rw [List.all_cons, Bool.and_eq_true] at h
      exact .cons (lexes_argument hbare h.1) (ih h.2)

theorem lexes_typeHint (optional : Bool) :
    Lexes (typeHint optional) (typeHintKinds optional) := by
  cases optional with
  | false => exact lexes_name (by decide)
  | true =>
      intro symbol opened line done indents brackets rest hrest
      have htext : typeHint true ++ rest =
          "Optional".toList ++ '[' :: ("str".toList ++ ']' :: rest) := by simp [typeHint]
      rw [htext, run_name (by decide) (delimited_cons (by decide) _), run_openSquare,
        run_name (by decide) (delimited_cons (by decide) _), run_closeSquare]
      rfl

/-- A field is read and its line ends. -/
theorem run_field (hbare : isFreeName bare) {f : FieldDeclaration} (h : f.isPrintable)
    (line : Nat) (done : List Token) (indents : List Nat) (rest : List Char) :
    (within line done indents [] (field bare f ++ '\n' :: rest)).run =
      (atLine (line + 1) (⟨.newline, line⟩ :: ((onLine line (fieldKinds bare f)).reverse ++ done))
        indents rest).run := by
  obtain ⟨hfield, hdeclarator, hargs⟩ := FieldDeclaration.of_isPrintable h
  have htext : field bare f ++ '\n' :: rest = f.field.toList ++ ':' :: ' ' ::
      (typeHint f.optional ++ ' ' :: '=' :: ' ' :: (f.declarator.toList ++ '(' ::
        (commaSeparated (f.args.map (argument bare)) ++ ')' :: '\n' :: rest))) := by
    simp [field]
  have hkinds : (onLine line (fieldKinds bare f)).reverse =
      ⟨.symbol .closeParen, line⟩ ::
        ((onLine line (commaJoined (f.args.map (argumentKinds bare)))).reverse ++
          ⟨.symbol .openParen, line⟩ :: ⟨.name f.declarator, line⟩ :: ⟨.symbol .assign, line⟩ ::
            ((onLine line (typeHintKinds f.optional)).reverse ++
              [⟨.symbol .colon, line⟩, ⟨.name f.field, line⟩])) := by
    simp [fieldKinds, callKinds, onLine]
  rw [htext, run_name (isAsciiName_of_isFreeName hfield) (delimited_cons (by decide) _),
    run_colon (by decide) (by decide), run_blank,
    lexes_typeHint f.optional _ _ _ _ _ _ _ (delimited_cons (by decide) _), run_blank,
    run_assign (by decide) (by decide), run_blank,
    run_name (isAsciiName_of_isDeclaratorName hdeclarator) (delimited_cons (by decide) _), run_openParen,
    lexes_commaSeparated (lexes_arguments hbare hargs) _ _ _ _ _ _ _
      (delimited_cons (by decide) _),
    run_closeParen, run_newline rfl, hkinds]
  simp

/-! ## Classes -/

def fieldsTokens (bare : String) (line : Nat) : List FieldDeclaration → List Token
  | [] => []
  | f :: rest =>
    onLine line (fieldKinds bare f) ++ ⟨.newline, line⟩ :: fieldsTokens bare (line + 1) rest

/-- The block of a class ends on the line after its last field. -/
def classTokens (bare : String) (line : Nat) (c : ClassDeclaration) : List Token :=
  onLine line (headerKinds c.name) ++ ⟨.newline, line⟩ :: ⟨.indent, line + 1⟩ ::
    (fieldsTokens bare (line + 1) c.fields ++ [⟨.dedent, line + 1 + c.fields.length⟩])

def sourceTokens (bare : String) (line : Nat) : List ClassDeclaration → List Token
  | [] => [⟨.endMarker, line⟩]
  | c :: rest =>
    classTokens bare line c ++ sourceTokens bare (line + 1 + c.fields.length) rest

theorem fieldLine_append (f : FieldDeclaration) (rest : List Char) :
    fieldLine bare f ++ rest = List.replicate 4 ' ' ++ (field bare f ++ '\n' :: rest) := by
  simp [fieldLine, List.replicate]

/-- A field begins its line, at the depth of the fields before it or deeper than its class. -/
theorem run_fieldLine (hbare : isFreeName bare) {f : FieldDeclaration} (h : f.isPrintable)
    {line : Nat} {done opened : List Token} {indents : List Nat}
    (hshift : ∀ cs, (within line done indents [] cs).shiftBlocks 4 =
      .ok (within line opened [4] [] cs)) (rest : List Char) :
    (atLine line done indents (fieldLine bare f ++ rest)).run =
      (atLine (line + 1)
        (⟨.newline, line⟩ :: ((onLine line (fieldKinds bare f)).reverse ++ opened)) [4] rest).run := by
  have hfield := (FieldDeclaration.of_isPrintable h).1
  rw [fieldLine_append, field, List.append_assoc,
    run_atLine (isAsciiName_of_isFreeName hfield) 4 hshift, ← List.append_assoc, ← field,
    run_field hbare h]

theorem run_fields (hbare : isFreeName bare) {fields : List FieldDeclaration}
    (h : fields.all (·.isPrintable)) (line : Nat) (done : List Token) (rest : List Char) :
    (atLine line done [4] (fields.flatMap (fieldLine bare) ++ rest)).run =
      (atLine (line + fields.length) ((fieldsTokens bare line fields).reverse ++ done) [4]
        rest).run := by
  induction fields generalizing line done with
  | nil => rfl
  | cons f fields ih =>
      rw [List.all_cons, Bool.and_eq_true] at h
      rw [List.flatMap_cons, List.append_assoc, run_fieldLine hbare h.1 (fun _ => rfl), ih h.2,
        List.length_cons, fieldsTokens]
      simp [Nat.add_comm, Nat.add_left_comm]

/-- The first field opens the block of its class. -/
theorem run_body (hbare : isFreeName bare) {fields : List FieldDeclaration}
    (hne : fields.isEmpty = false) (h : fields.all (·.isPrintable)) (line : Nat)
    (done : List Token) (rest : List Char) :
    (atLine line done [] (fields.flatMap (fieldLine bare) ++ rest)).run =
      (atLine (line + fields.length)
        ((fieldsTokens bare line fields).reverse ++ ⟨.indent, line⟩ :: done) [4] rest).run := by
  cases fields with
  | nil => cases hne
  | cons f fields =>
      rw [List.all_cons, Bool.and_eq_true] at h
      have hshift : ∀ cs, (within line done [] [] cs).shiftBlocks 4 =
          .ok (within line (⟨.indent, line⟩ :: done) [4] [] cs) := fun _ => rfl
      rw [List.flatMap_cons, List.append_assoc, run_fieldLine hbare h.1 hshift,
        run_fields hbare h.2, List.length_cons, fieldsTokens]
      simp [Nat.add_comm, Nat.add_left_comm]

/-- A class is read, its block still open. The block of the class before it is closed first. -/
theorem run_class (hbare : isFreeName bare) {c : ClassDeclaration} (h : c.isPrintable) {line : Nat}
    {done closed : List Token} {indents : List Nat}
    (hshift : ∀ cs, (within line done indents [] cs).shiftBlocks 0 =
      .ok (within line closed [] [] cs)) (rest : List Char) :
    (atLine line done indents (classLines bare c ++ rest)).run =
      (atLine (line + 1 + c.fields.length)
        ((fieldsTokens bare (line + 1) c.fields).reverse ++ ⟨.indent, line + 1⟩ ::
          ⟨.newline, line⟩ :: ((onLine line (headerKinds c.name)).reverse ++ closed)) [4]
        rest).run := by
  obtain ⟨hname, -, hne, hfields⟩ := ClassDeclaration.of_isPrintable h
  have htext : classLines bare c ++ rest = List.replicate 0 ' ' ++ ("class".toList ++ ' ' ::
      (c.name.toList ++ ':' :: '\n' :: (c.fields.flatMap (fieldLine bare) ++ rest))) := by
    simp [classLines, header]
  rw [htext, run_atLine (by decide) 0 hshift, run_name (by decide) (delimited_cons (by decide) _),
    run_blank, run_name (isAsciiName_of_isFreeName hname) (delimited_cons (by decide) _),
    run_colon (by decide) (by decide), run_newline rfl, run_body hbare hne hfields]
  rfl

/-- After fields the last line is over. -/
theorem lineIsEmpty_fields (fields : List FieldDeclaration) (line : Nat) {s : Lexer}
    (h : s.lineIsEmpty) :
    lineIsEmpty { s with done := (fieldsTokens bare line fields).reverse ++ s.done } := by
  induction fields generalizing line s with
  | nil => exact h
  | cons f fields ih =>
      have hnext := ih (line + 1) (s := { s with
        done := ⟨.newline, line⟩ :: ((onLine line (fieldKinds bare f)).reverse ++ s.done) }) rfl
      simpa [fieldsTokens] using hnext

/-- Between classes the line before is over and at most the block of one class is open. -/
theorem run_classes (hbare : isFreeName bare) {classes : List ClassDeclaration}
    (h : classes.all (·.isPrintable)) (line : Nat) {done : List Token} {indents : List Nat}
    (hdone : (atLine line done indents []).lineIsEmpty)
    (hindents : indents = [] ∨ indents = [4]) :
    (atLine line done indents (classes.flatMap (classLines bare))).run.bind finish =
      .ok (done.reverse ++ indents.map (fun _ => ⟨.dedent, line⟩) ++
        sourceTokens bare line classes) := by
  induction classes generalizing line done indents with
  | nil =>
      rw [List.flatMap_nil, run_of_nil rfl]
      show Except.ok ((if (atLine line done indents []).lineIsEmpty then _ else _ : Lexer).done.reverse
        ++ _ ++ _) = _
      rw [if_pos hdone]
      rfl
  | cons c classes ih =>
      rw [List.all_cons, Bool.and_eq_true] at h
      have hshift : ∀ cs, (within line done indents [] cs).shiftBlocks 0 =
          .ok (within line ((indents.map fun _ => (⟨.dedent, line⟩ : Token)) ++ done) [] [] cs) := by
        rcases hindents with rfl | rfl <;> exact fun _ => rfl
      rw [List.flatMap_cons, run_class hbare h.1 hshift, ih h.2 _ _ (Or.inr rfl)]
      · rcases hindents with rfl | rfl <;> simp [sourceTokens, classTokens]
      · exact lineIsEmpty_fields c.fields (line + 1) (s := atLine _ (⟨.indent, line + 1⟩ :: _) _ _) rfl

/-- The tokens of a printed text. -/
theorem tokenize_source (hbare : isFreeName bare) {classes : List ClassDeclaration}
    (h : classes.all (·.isPrintable)) :
    tokenize (source bare classes) = .ok (sourceTokens bare 1 classes) := by
  have hstart : Lexer.start (source bare classes).toList =
      atLine 1 [] [] (classes.flatMap (classLines bare)) := by
    rw [source, String.toList_ofList]
    cases classes with
    | nil => rfl
    | cons c rest => rfl
  have hrun : (atLine 1 [] [] (classes.flatMap (classLines bare))).run.bind finish =
      .ok (sourceTokens bare 1 classes) := run_classes hbare h 1 rfl (Or.inl rfl)
  rw [tokenize, hstart]
  exact hrun

end DeclaredSchema.Printed
