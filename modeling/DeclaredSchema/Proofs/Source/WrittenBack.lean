import DeclaredSchema.Proofs.Source.Accepted

/-! # Statements written back as tokens

The statements of a text, written one after the other with marks around every body, are the tokens
of the text without those that only end a line or a simple statement. So reading drops no other
token, and every statement stands in the block that its indentation puts it in.
-/

namespace DeclaredSchema.Source

/-- A token within a line, or where a block opens or closes. -/
inductive Piece where
  | token (t : Token)
  | opens
  | closes
  deriving DecidableEq, Repr

/-! ## From statements -/

namespace Statement

mutual

/-- A simple statement as its tokens, a compound one as its header and, between marks, its body. -/
def written : Statement → List Piece
  | simple line => line.tokens.map .token
  | compound header body =>
    header.tokens.map .token ++ .opens :: (writtenAll body ++ [.closes])

def writtenAll : List Statement → List Piece
  | [] => []
  | s :: rest => written s ++ writtenAll rest

end

theorem writtenAll_append (ss others : List Statement) :
    writtenAll (ss ++ others) = writtenAll ss ++ writtenAll others := by
  induction ss with
  | nil => rfl
  | cons s ss ih => rw [List.cons_append, writtenAll, writtenAll, ih, List.append_assoc]

end Statement

/-! ## From tokens -/

namespace Token

/-- A mark of indentation. -/
def shifts (t : Token) : Bool := t.kind = .indent || t.kind = .dedent

def piece (t : Token) : Piece :=
  match t.kind with
  | .indent => .opens
  | .dedent => .closes
  | _ => .token t

end Token

/-- Drops the semicolons outside of brackets, behind tokens that stand before on the line. -/
def unseparatedBehind (before : List Token) : List Token → List Token
  | [] => []
  | t :: ts =>
    let others := unseparatedBehind (before ++ [t]) ts
    if t.isSymbol .semicolon && depthBehind? 0 before = some 0 then others else t :: others

/-- What is kept of a line: semicolons that only separate simple statements are dropped. -/
def kept (line : List Token) : List Token :=
  if opensBlock line || (clauseOf? line).isSome then line else unseparatedBehind [] line

/-- A line with the marks of indentation in front of it. -/
def piecesOfLine (line : List Token) : List Piece :=
  (line.takeWhile (·.shifts) ++ kept (line.dropWhile (·.shifts))).map (·.piece)

/-- The tokens of a text, without those that end a line or separate simple statements. -/
def piecesOf (tokens : List Token) : List Piece := (tokens.splitOnP endsLine).flatMap piecesOfLine

theorem piece_of_plain {t : Token} (h : t.isLayout = false) : t.piece = .token t := by
  obtain ⟨kind, n⟩ := t
  cases kind <;> first | rfl | cases h

theorem map_piece_of_plain {ts : List Token} (h : ∀ t ∈ ts, t.isLayout = false) :
    ts.map (·.piece) = ts.map .token :=
  List.map_congr_left fun t ht => piece_of_plain (h t ht)

theorem not_shifts {t : Token} (h : t.isLayout = false) : t.shifts = false := by
  obtain ⟨kind, n⟩ := t
  cases kind <;> first | rfl | cases h

/-- A mark of indentation stands for itself. -/
theorem piecesOf_shift {t : Token} (h : t.shifts = true) (ts : List Token) :
    piecesOf (t :: ts) = t.piece :: piecesOf ts := by
  have hends : endsLine t = false := by
    obtain ⟨kind, n⟩ := t
    cases kind <;> first | rfl | cases h
  unfold piecesOf
  rw [List.splitOnP_cons_eq_if_modifyHead, hends]
  obtain ⟨line, lines, hlines⟩ := List.exists_cons_of_ne_nil (List.splitOnP_ne_nil endsLine ts)
  rw [hlines]
  simp [piecesOfLine, h]

theorem piecesOf_end (n : Nat) : piecesOf [⟨.endMarker, n⟩] = [] := rfl

theorem mem_unseparatedBehind {before ts : List Token} {t : Token}
    (h : t ∈ unseparatedBehind before ts) : t ∈ ts := by
  induction ts generalizing before with
  | nil => cases h
  | cons u us ih =>
      unfold unseparatedBehind at h
      split at h
      · exact .tail _ (ih h)
      · rcases List.mem_cons.mp h with rfl | h
        · exact List.mem_cons_self
        · exact .tail _ (ih h)

theorem mem_kept {line : List Token} {t : Token} (h : t ∈ kept line) : t ∈ line := by
  unfold kept at h
  split at h
  · exact h
  · exact mem_unseparatedBehind h

/-- A whole line stands for what is kept of it. -/
theorem piecesOf_line (l : LogicalLine) (ts : List Token) :
    piecesOf (l.printed ++ ts) = (kept l.tokens).map .token ++ piecesOf ts := by
  have hfront : l.tokens.takeWhile (·.shifts) = [] ∧ l.tokens.dropWhile (·.shifts) = l.tokens := by
    obtain ⟨t, us, hl⟩ := List.exists_cons_of_ne_nil l.nonempty
    have ht := not_shifts (l.plain t (hl ▸ List.mem_cons_self))
    simp [hl, ht]
  unfold piecesOf
  rw [LogicalLine.printed, List.append_assoc, List.singleton_append,
    List.splitOnP_append_cons_of_forall_mem (fun t ht => not_endsLine (l.plain t ht)) _ rfl,
    List.flatMap_cons, piecesOfLine, hfront.1, hfront.2, List.nil_append,
    map_piece_of_plain fun t ht => l.plain t (mem_kept ht)]

/-! ## Lines -/

theorem flatten_consToFirst (t : Token) (parts : List (List Token)) :
    (consToFirst t parts).flatten = t :: parts.flatten := by
  cases parts <;> rfl

theorem not_semicolon {t : Token} (h : t.opens = true ∨ t.closes = true) :
    t.isSymbol .semicolon = false := by
  obtain ⟨kind, n⟩ := t
  cases kind with
  | symbol s => cases s <;> first | rfl | (rcases h with h | h <;> cases h)
  | _ => rcases h with h | h <;> cases h

/-- The parts between semicolons are the line without them, if the line closes no bracket that it
has not opened. -/
theorem flatten_splitFrom {before ts : List Token} {depth after : Nat}
    (hbefore : depthBehind? 0 before = some depth) (hts : depthBehind? depth ts = some after) :
    (splitFrom .semicolon depth ts).flatten = unseparatedBehind before ts := by
  induction ts generalizing before depth with
  | nil => rfl
  | cons t ts ih =>
      rw [depthBehind?_cons, Option.bind_eq_some_iff] at hts
      obtain ⟨next, ht, hts⟩ := hts
      have hnext : depthBehind? 0 (before ++ [t]) = some next := by
        rw [depthBehind?_append, hbefore, Option.bind_some, depthBehind?_cons, ht]
        rfl
      have hrest := ih hnext hts
      unfold splitFrom unseparatedBehind
      obtain ⟨hopens, rfl⟩ | ⟨hopens, hcloses, rfl⟩ | ⟨hopens, hcloses, rfl⟩ :=
        Token.depthBehind?_cases ht
      · have hkept : t.isSymbol .semicolon = false := not_semicolon (.inl hopens)
        simp [hopens, hkept, flatten_consToFirst, hrest]
      · have hkept : t.isSymbol .semicolon = false := not_semicolon (.inr hcloses)
        simp [hopens, hcloses, hkept, flatten_consToFirst, hrest]
      · simp only [hopens, hcloses, hbefore, Option.some.injEq]
        by_cases hcut : next = 0 ∧ t.isSymbol .semicolon = true
        · obtain ⟨rfl, hsemicolon⟩ := hcut
          simp [hsemicolon, hrest]
        · rw [if_neg (by simp), if_neg (by simp), if_neg (by simpa using hcut),
            if_neg (by simpa [and_comm] using hcut), flatten_consToFirst, hrest]

/-- Simple statements made of the parts that are not empty. -/
theorem writtenAll_parts (parts : List (List Token)) :
    Statement.writtenAll (parts.filterMap fun part =>
      part.head?.map fun first => .simple ⟨part, first.line⟩) = parts.flatten.map .token := by
  induction parts with
  | nil => rfl
  | cons part parts ih =>
      cases part with
      | nil => exact ih
      | cons t ts => simp [Statement.writtenAll, Statement.written, ih]

theorem writtenAll_simpleLines {line : List Token} (hclosed : depthBehind? 0 line = some 0)
    (hopens : opensBlock line = false) (n : Nat) :
    Statement.writtenAll (simpleLines line n) = (kept line).map .token := by
  unfold simpleLines kept
  rw [hopens, Bool.false_or]
  split
  · simp [Statement.writtenAll, Statement.written]
  · have hstart : depthBehind? 0 [] = some 0 := rfl
    rw [writtenAll_parts, splitTopLevel, flatten_splitFrom hstart hclosed]

/-! ## Texts -/

namespace Outline

/-- By recursion over the outline, of which every line has its own tokens. -/
theorem piecesOf_printedAll (outlines : List Outline) (h : Accepted outlines)
    (after : List Token) : piecesOf (printedAll outlines ++ after) =
      Statement.writtenAll (statementsOf outlines) ++ piecesOf after := by
  match outlines with
  | [] => rfl
  | .line l :: others =>
      obtain ⟨hl, hothers⟩ := accepted_line.mp h
      rw [printedAll, printed, List.append_assoc, piecesOf_line,
        piecesOf_printedAll others hothers, statementsOf, statements, Statement.writtenAll_append,
        writtenAll_simpleLines hl.closed l.closed, List.append_assoc]
  | .block header opens body closes :: others =>
      obtain ⟨-, hbody, hothers⟩ := accepted_block.mp h
      have hkept : kept header.tokens = header.tokens := by
        rw [kept, header.opens, Bool.true_or, if_pos rfl]
      rw [printedAll, printed, List.append_assoc, List.append_assoc, piecesOf_line, hkept,
        List.cons_append, List.append_assoc, piecesOf_shift rfl, piecesOf_printedAll body hbody,
        List.cons_append, List.nil_append, piecesOf_shift rfl, piecesOf_printedAll others hothers,
        statementsOf, statements, Statement.writtenAll_append]
      simp [Statement.writtenAll, Statement.written, Token.piece]

end Outline

/-- Written back, the statements of a text are its tokens, without those that end a line or separate
simple statements and with every body between the marks of its indentation. -/
theorem writtenAll_eq_piecesOf {text : String} {ts : List Token} {stmts : List Statement}
    (htokens : tokenize text = .ok ts) (hstmts : statements ts = .ok stmts) :
    Statement.writtenAll stmts = piecesOf ts := by
  obtain ⟨outlines, last, rfl, haccepted, rfl⟩ := exists_outline htokens hstmts
  rw [Outline.tokens, Outline.piecesOf_printedAll outlines haccepted, piecesOf_end, List.append_nil]

/-- A condition with two statements on the line of its body, and a line behind it. -/
theorem writtenAll_eq_piecesOf_condition :
    let header : List Token := [⟨.name "if", 1⟩, ⟨.name "a", 1⟩, ⟨.symbol .colon, 1⟩]
    let body : List Token := [⟨.name "b", 2⟩, ⟨.symbol .semicolon, 2⟩, ⟨.name "c", 2⟩]
    let ts : List Token := header ++ ⟨.newline, 1⟩ :: ⟨.indent, 2⟩ :: body ++
      [⟨.newline, 2⟩, ⟨.dedent, 3⟩, ⟨.name "d", 3⟩, ⟨.newline, 3⟩, ⟨.endMarker, 4⟩]
    let stmts : List Statement := [.compound ⟨header, 1⟩ [.simple ⟨[⟨.name "b", 2⟩], 2⟩,
      .simple ⟨[⟨.name "c", 2⟩], 2⟩], .simple ⟨[⟨.name "d", 3⟩], 3⟩]
    tokenize "if a:\n b; c\nd\n" = .ok ts ∧ statements ts = .ok stmts ∧
      Statement.writtenAll stmts = piecesOf ts := by
  intro header body ts stmts
  have htokens : tokenize "if a:\n b; c\nd\n" = .ok ts := by
    rw [tokenize_eq_steps]
    rfl
  have hstmts : statements ts = .ok stmts := rfl
  exact ⟨htokens, hstmts, writtenAll_eq_piecesOf htokens hstmts⟩

end DeclaredSchema.Source
