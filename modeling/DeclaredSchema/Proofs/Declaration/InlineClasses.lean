import DeclaredSchema.Proofs.Declaration.UnlinedClasses
import DeclaredSchema.Proofs.Source.StatementLines

/-! # Classes on one line

A class may be written on one line, or with its statements on lines below its header. Both outlines
are accepted (`Unfolds.fitting`), and they declare the same (`Unfolds.sameDeclarations`).
-/

namespace DeclaredSchema

open Source

/-- A class on one line, and the same class as a block of one or more lines. -/
inductive Unfolds : Outline → Outline → Prop
  | intro {line : SimpleLine} {header below : HeaderLine} {inline : List Token}
      {groups : List (List SimpleStatement)} {body : List SimpleLine} {opens closes : Nat}
      (isClass : header.tokens.head?.any (·.isName "class") = true) (checked : header.Checked)
      (tokens : line.tokens = header.tokens ++ inline)
      (same : kindsOf below.tokens = kindsOf header.tokens)
      (onLine : OnLine groups.flatten inline)
      (onLines : List.Forall₂ (fun stmts (l : SimpleLine) => OnLine stmts l.tokens) groups body) :
      Unfolds (.line line) (.block below opens (body.map .line) closes)

namespace Source.OnLine

variable {stmts : List SimpleStatement} {ts : List Token}

theorem clauseOf?_eq (h : OnLine stmts ts) : clauseOf? ts = none :=
  (clauseOf?_of_simpleStatements (h.simpleStatements_eq 0)).1

theorem checkLine_eq (h : OnLine stmts ts) : checkLine ts false = .ok () := by
  rw [checkLine, h.clauseOf?_eq]
  exact h.simpleStatements_eq 0

/-- What the statements of a line declare. -/
theorem unlinedFields_eq (h : OnLine stmts ts) :
    unlinedFields (splitTopLevel .semicolon ts) = unlinedFields (stmts.map (·.tokens)) := by
  rw [← unlinedFields_filter]
  refine unlinedFields_of_kinds ?_
  rw [h.parts, List.map_map]
  rfl

theorem unlinedFields_simpleLines (h : OnLine stmts ts) (n : Nat) :
    unlinedFields ((simpleLines ts n).filterMap simpleTokens?) =
      unlinedFields (stmts.map (·.tokens)) := by
  rw [← h.unlinedFields_eq, ← unlinedFields_filter (splitTopLevel .semicolon ts), simpleLines,
    h.clauseOf?_eq, if_neg (by simp), List.filterMap_filterMap, ← List.filterMap_eq_filter]
  refine congrArg _ (List.filterMap_congr fun part _ => ?_)
  cases part <;> rfl

end Source.OnLine

section Body

variable {groups : List (List SimpleStatement)} {body : List SimpleLine}
  (h : List.Forall₂ (fun stmts (l : SimpleLine) => OnLine stmts l.tokens) groups body)
include h

/-- No statement of the body is a class. -/
theorem classesInBlock_body (path : String) :
    classesInBlock path (Outline.statementsOf (body.map .line)) = [] := by
  have hnone {ss : List Statement}
      (hss : ∀ s ∈ ss, ∃ line, s = .simple line ∧ clauseOf? line.tokens = none) :
      classesInBlock path ss = [] := by
    induction ss with
    | nil => rfl
    | cons s ss ih =>
        obtain ⟨⟨line, rfl, hline⟩, hrest⟩ := List.forall_mem_cons.mp hss
        have hheader : classHeader? line.tokens = none :=
          Statement.classHeader?_of_not_isClass (Statement.not_isClass_of_clauseOf? hline)
        rw [classesInBlock, classesIn, inlineClass?, hheader, ih hrest]
        rfl
  induction h with
  | nil => rfl
  | @cons _ l _ _ hl _ ih =>
      rw [List.map_cons, Outline.statementsOf, Outline.statements, classesInBlock_append, ih,
        hnone fun s hs => simple_of_mem_simpleLines (hl.simpleStatements_eq 0) hs]
      rfl

theorem unlinedFields_body :
    unlinedFields ((Outline.statementsOf (body.map .line)).filterMap simpleTokens?) =
      unlinedFields (groups.flatten.map (·.tokens)) := by
  induction h with
  | nil => rfl
  | cons hl _ ih =>
      rw [List.map_cons, Outline.statementsOf, Outline.statements, List.filterMap_append,
        unlinedFields_append, hl.unlinedFields_simpleLines, ih, List.flatten_cons, List.map_append,
        unlinedFields_append]

theorem checked_body : Outline.Checked (body.map .line) := by
  induction h with
  | nil => exact Outline.checked_nil
  | cons hl _ ih =>
      refine Outline.checked_line.mpr ⟨?_, ih⟩
      rw [LogicalLine.Checked, SimpleLine.closed]
      exact hl.checkLine_eq

theorem accepts_body : Accepts none (Outline.clauses (body.map .line)) := by
  induction h with
  | nil => exact .finish (by simp)
  | @cons _ l _ _ hl _ ih =>
      change Accepts none (clauseOf? l.tokens :: _)
      rw [hl.clauseOf?_eq]
      exact .next rfl ih

theorem bodiesAccepted_body : Outline.BodiesAccepted (body.map .line) := by
  induction h with
  | nil => exact Outline.bodiesAccepted_nil
  | cons _ _ ih => exact Outline.bodiesAccepted_line.mpr ih

end Body

/-! ## The header -/

/-- The header of a class, with and without a body behind it. -/
theorem classHeader?_inline {header : HeaderLine}
    (isClass : header.tokens.head?.any (·.isName "class") = true) (checked : header.Checked)
    (inline : List Token) : classHeader? header.tokens = some ⟨className header.tokens, []⟩ ∧
      classHeader? (header.tokens ++ inline) = some ⟨className header.tokens, inline⟩ := by
  have hclause := clauseOf?_of_class isClass
  have hchecked : checkLine header.tokens true = .ok () := by
    rwa [LogicalLine.Checked, header.opens] at checked
  obtain ⟨behind, hheader, hfinish⟩ := exists_header hclause hchecked
  have hend : behind.rest = [] := rest_of_finish hfinish
  have hown := classHeader?_of_compoundHeader isClass hheader
  rw [hend] at hown
  refine ⟨hown, ?_⟩
  have hinline : Line.compoundHeader (Cursor.start (header.tokens ++ inline)) = _ :=
    compoundHeader_append hclause hheader hend
  obtain ⟨m, n, word, rest, htokens⟩ := exists_of_classHeader? hown
  rw [htokens] at hinline ⊢
  exact classHeader?_of_compoundHeader rfl hinline

namespace Unfolds

variable {o o' : Outline}

theorem clause (h : Unfolds o o') : clauseOf? o'.lead.tokens = clauseOf? o.lead.tokens := by
  obtain ⟨isClass, checked, tokens, same, onLine, onLines⟩ := h
  dsimp only [Outline.lead]
  rw [tokens, clauseOf?_append (clauseOf?_of_class isClass), clauseOf?_of_kinds same]

theorem sameDeclarations (h : Unfolds o o') (path : String) :
    SameDeclarations path o.statements o'.statements := by
  obtain @⟨line, header, below, inline, groups, body, opens, closes, isClass, checked, tokens,
    same, onLine, onLines⟩ := h
  have hclause : (clauseOf? line.tokens).isSome := by
    rw [tokens, clauseOf?_append (clauseOf?_of_class isClass)]
    exact clauseOf?_of_class isClass
  have hline : simpleLines line.tokens line.start = [.simple ⟨line.tokens, line.start⟩] :=
    if_pos hclause
  rw [Outline.statements, Outline.statements, hline]
  obtain ⟨hheader, hinline⟩ := classHeader?_inline isClass checked inline
  obtain ⟨hnone, -⟩ | ⟨name, _, _, hname, hbelow, -⟩ := classHeader?_of_kinds same
  · rw [hheader] at hnone
    cases hnone
  obtain rfl : className header.tokens = name := by
    rw [hheader] at hname
    exact (ClassHeader.mk.inj (Option.some.inj hname)).1
  have hfields : unlinedFields ((Outline.statementsOf (body.map .line)).filterMap simpleTokens?) =
      unlinedFields (splitTopLevel .semicolon inline) := by
    rw [unlinedFields_body onLines, onLine.unlinedFields_eq]
  constructor
  · simp only [classesInBlock, classesIn, List.append_nil, classesInBlock_body onLines,
      ← Option.toList_map, inlineClass?, blockClass?, tokens, hinline, hbelow]
    exact congrArg _ (classDeclaration?_unlined hfields)
  · have hnone : unlinedFields [line.tokens] = [] := by
      rw [unlinedFields, List.filterMap_cons, fieldDeclaration?_of_clauseOf? hclause]
      rfl
    exact hnone.symm

/-- The block is accepted in the place of the line. -/
theorem fitting : Fitting Unfolds where
  clause h := h.clause
  checked h := by
    obtain ⟨isClass, checked, tokens, same, onLine, onLines⟩ := h
    refine Outline.checked_block.mpr ⟨Alike.checked_of_kinds same checked, ?_, ?_⟩
    · exact checked_body onLines
    · exact Outline.checked_nil
  bodies h := by
    obtain ⟨isClass, checked, tokens, same, onLine, onLines⟩ := h
    refine Outline.bodiesAccepted_block.mpr ⟨⟨accepts_body onLines, ?_⟩, ?_⟩
    · exact bodiesAccepted_body onLines
    · exact Outline.bodiesAccepted_nil

/-- The line is accepted in the place of the block. -/
theorem fitting_swap : Fitting (Function.swap Unfolds) where
  clause h := h.clause.symm
  checked h := by
    obtain ⟨isClass, checked, tokens, same, onLine, onLines⟩ := h
    refine Outline.checked_line.mpr ⟨?_, Outline.checked_nil⟩
    rw [LogicalLine.Checked, SimpleLine.closed, tokens,
      checkLine_inline_iff (clauseOf?_of_class isClass) checked onLine.clauseOf?_eq]
    exact onLine.checkLine_eq
  bodies h := by
    obtain ⟨isClass, checked, tokens, same, onLine, onLines⟩ := h
    exact Outline.bodiesAccepted_line.mpr Outline.bodiesAccepted_nil

end Unfolds

end DeclaredSchema
