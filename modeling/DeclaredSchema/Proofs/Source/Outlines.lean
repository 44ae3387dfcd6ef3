import DeclaredSchema.Proofs.Source.ClauseGroups
import DeclaredSchema.Proofs.Source.Locality
import Mathlib.Data.List.Basic

/-! # Lines nested by indentation

An outline is a text whose indentation is well formed: lines, some of which have a body of further
lines. Reading its tokens gives back the lines with their bodies, if every line has the grammar of a
line and every block is a sequence of complete statements.
-/

namespace DeclaredSchema.Source

/-- The tokens of a line, and the line that its last token stands on. -/
structure LogicalLine where
  tokens : List Token
  ends : Nat
  nonempty : tokens ≠ []
  plain : ∀ t ∈ tokens, t.isLayout = false

/-- A line without a body. -/
structure SimpleLine extends LogicalLine where
  closed : opensBlock tokens = false

/-- A line with a body. -/
structure HeaderLine extends LogicalLine where
  opens : opensBlock tokens = true

/-- A line or a header with its body, between the lines on which the body's layout tokens stand. -/
inductive Outline where
  | line (line : SimpleLine)
  | block (header : HeaderLine) (opens : Nat) (body : List Outline) (closes : Nat)

namespace LogicalLine

/-- The line that the first token stands on. -/
def start (l : LogicalLine) : Nat := (l.tokens.head l.nonempty).line

/-- The tokens up to the next line. -/
def printed (l : LogicalLine) : List Token := l.tokens ++ [⟨.newline, l.ends⟩]

/-- The line has the grammar of a line. -/
def Checked (l : LogicalLine) : Prop := checkLine l.tokens (opensBlock l.tokens) = .ok ()

end LogicalLine

namespace Outline

/-- The first line. -/
def lead : Outline → LogicalLine
  | line l => l.toLogicalLine
  | block header _ _ _ => header.toLogicalLine

/-- The clauses that the lines of one block begin with. -/
def clauses (outlines : List Outline) : Clauses := outlines.map fun o => clauseOf? o.lead.tokens

mutual

def printed : Outline → List Token
  | line l => l.printed
  | block header opens body closes =>
    header.printed ++ ⟨.indent, opens⟩ :: (printedAll body ++ [⟨.dedent, closes⟩])

def printedAll : List Outline → List Token
  | [] => []
  | o :: rest => printed o ++ printedAll rest

end

mutual

def lines : Outline → List LogicalLine
  | line l => [l.toLogicalLine]
  | block header _ body _ => header.toLogicalLine :: linesOf body

/-- The lines of a block, at every depth. -/
def linesOf : List Outline → List LogicalLine
  | [] => []
  | o :: rest => lines o ++ linesOf rest

end

mutual

def bodies : Outline → List (List Outline)
  | line _ => []
  | block _ _ body _ => body :: bodiesOf body

/-- The bodies in a block, at every depth. -/
def bodiesOf : List Outline → List (List Outline)
  | [] => []
  | o :: rest => bodies o ++ bodiesOf rest

end

mutual

/-- The statements that an outline stands for. -/
def statements : Outline → List Statement
  | line l => simpleLines l.tokens l.start
  | block header _ body _ => [.compound ⟨header.tokens, header.start⟩ (statementsOf body)]

def statementsOf : List Outline → List Statement
  | [] => []
  | o :: rest => statements o ++ statementsOf rest

end

/-- The blocks of a text, the outermost one included. -/
def blocks (outlines : List Outline) : List (List Outline) := outlines :: bodiesOf outlines

end Outline

/-! ## Reading one line -/

theorem not_endsLine {t : Token} (h : t.isLayout = false) : endsLine t = false := by
  obtain ⟨k, n⟩ := t
  cases k <;> first | rfl | cases h

/-- The tokens behind the end of a line. -/
def behindEnd : List Token → List Token
  | ⟨.newline, _⟩ :: rest => rest
  | rest => rest

section Text

variable {t : Token} {ts tail inner after : List Token} {fuel : Nat} {nested : Bool}
  {order : ClauseOrder} {line : Line} {n : Nat}

/-- What is read behind a line, from the block that it opens to the end of its own block. -/
def readBehind (fuel : Nat) (nested : Bool) (order : ClauseOrder) (line : Line) (opens : Bool)
    (after : List Token) : Except SyntaxError (List Statement × List Token) :=
  match opens, after with
  | true, ⟨.indent, _⟩ :: inner => do
    let (body, rest) ← readBlock fuel true .start inner
    let (others, rest) ← readBlock fuel nested order rest
    .ok (.compound line body :: others, rest)
  | true, _ => .error ⟨line.line, .missingBlock⟩
  | false, ⟨.indent, below⟩ :: _ => .error ⟨below, .unexpectedIndent⟩
  | false, _ => do
    let (others, rest) ← readBlock fuel nested order after
    .ok (simpleLines line.tokens line.line ++ others, rest)

theorem readBehind_opens : readBehind fuel nested order line true (⟨.indent, n⟩ :: inner) = (do
    let (body, rest) ← readBlock fuel true .start inner
    let (others, rest) ← readBlock fuel nested order rest
    .ok (.compound line body :: others, rest)) := rfl

theorem readBehind_missing (flat : ∀ t ∈ after.head?, t.kind ≠ .indent) :
    readBehind fuel nested order line true after = .error ⟨line.line, .missingBlock⟩ := by
  rcases after with - | ⟨⟨k, n⟩, after⟩
  · rfl
  · cases k with
    | indent => exact absurd rfl (flat _ rfl)
    | _ => rfl

theorem readBehind_flat (flat : ∀ t ∈ after.head?, t.kind ≠ .indent) :
    readBehind fuel nested order line false after = (do
      let (others, rest) ← readBlock fuel nested order after
      .ok (simpleLines line.tokens line.line ++ others, rest)) := by
  rcases after with - | ⟨⟨k, n⟩, after⟩
  · rfl
  · cases k with
    | indent => exact absurd rfl (flat _ rfl)
    | _ => rfl

/-- A line is read to the token that ends it. -/
theorem readBlock_text (ht : t.isLayout = false) (hline : ∀ u ∈ t :: ts, endsLine u = false)
    (htail : ∀ u ∈ tail.head?, endsLine u = true) :
    readBlock (fuel + 1) nested order (t :: ts ++ tail) = (do
      checkLine (t :: ts) (opensBlock (t :: ts))
      let order ← order.next (t :: ts) t.line
      readBehind fuel nested order ⟨t :: ts, t.line⟩ (opensBlock (t :: ts)) (behindEnd tail)) := by
  have hends : ∀ u ∈ t :: ts, (!endsLine u) = true := fun u hu => by
    rw [hline u hu]
    rfl
  have htake : (t :: (ts ++ tail)).takeWhile (!endsLine ·) = t :: ts := by
    rw [← List.cons_append, List.takeWhile_append_of_pos hends]
    cases tail with
    | nil => simp
    | cons u us => simp [htail u rfl]
  have hdrop : (t :: (ts ++ tail)).dropWhile (!endsLine ·) = tail := by
    rw [← List.cons_append, List.dropWhile_append_of_pos hends]
    cases tail with
    | nil => rfl
    | cons u us => simp [htail u rfl]
  rw [List.cons_append, readBlock, htake, hdrop]
  obtain ⟨k, n⟩ := t
  cases k with
  | newline | indent | dedent | endMarker => cases ht
  | name | number | str | symbol => rfl

end Text

/-- A line is read to the token that ends it. -/
theorem readBlock_line (l : LogicalLine) (fuel : Nat) (nested : Bool) (order : ClauseOrder)
    (after : List Token) : readBlock (fuel + 1) nested order (l.printed ++ after) = (do
      checkLine l.tokens (opensBlock l.tokens)
      let order ← order.next l.tokens l.start
      readBehind fuel nested order ⟨l.tokens, l.start⟩ (opensBlock l.tokens) after) := by
  obtain ⟨tokens, ends, hnonempty, hplain⟩ := l
  obtain ⟨t, ts, rfl⟩ := List.exists_cons_of_ne_nil hnonempty
  have hprinted : LogicalLine.printed ⟨t :: ts, ends, hnonempty, hplain⟩ ++ after =
      t :: ts ++ ⟨.newline, ends⟩ :: after := by simp [LogicalLine.printed]
  rw [hprinted, readBlock_text (hplain t List.mem_cons_self)
    (fun u hu => not_endsLine (hplain u hu)) (by rintro _ ⟨⟩; rfl)]
  rfl

section Line

variable {fuel : Nat} {nested : Bool} {order : ClauseOrder} {after inner rest : List Token}
  {stmts : List Statement}

/-- Behind a line without a body the block goes on. -/
theorem readBlock_simple_iff {l : SimpleLine} (checked : l.Checked)
    (flat : ∀ t ∈ after.head?, t.kind ≠ .indent) :
    readBlock (fuel + 1) nested order (l.printed ++ after) = .ok (stmts, rest) ↔
      Follows order.previous (clauseOf? l.tokens) ∧
        ∃ others, readBlock fuel nested ⟨clauseOf? l.tokens, l.start⟩ after = .ok (others, rest) ∧
          simpleLines l.tokens l.start ++ others = stmts := by
  have hread : readBlock (fuel + 1) nested order (l.printed ++ after) = (do
      let order ← order.next l.tokens l.start
      let (others, rest) ← readBlock fuel nested order after
      .ok (simpleLines l.tokens l.start ++ others, rest)) := by
    rw [readBlock_line, checked, l.closed]
    simp only [readBehind_flat flat]
    rfl
  simp only [hread, bind_eq_ok, ClauseOrder.next_eq_ok, Except.ok.injEq, Prod.mk.injEq]
  constructor
  · rintro ⟨_, ⟨hfollows, rfl⟩, ⟨others, _⟩, hothers, rfl, rfl⟩
    exact ⟨hfollows, others, hothers, rfl⟩
  · rintro ⟨hfollows, others, hothers, rfl⟩
    exact ⟨_, ⟨hfollows, rfl⟩, ⟨others, rest⟩, hothers, rfl, rfl⟩

/-- Behind a header its body is read, and then the block goes on. -/
theorem readBlock_header_iff {l : HeaderLine} (checked : l.Checked) {opens : Nat} :
    readBlock (fuel + 1) nested order (l.printed ++ ⟨.indent, opens⟩ :: inner) =
        .ok (stmts, rest) ↔
      Follows order.previous (clauseOf? l.tokens) ∧
        ∃ body behind others, readBlock fuel true .start inner = .ok (body, behind) ∧
          readBlock fuel nested ⟨clauseOf? l.tokens, l.start⟩ behind = .ok (others, rest) ∧
          .compound ⟨l.tokens, l.start⟩ body :: others = stmts := by
  have hread : readBlock (fuel + 1) nested order (l.printed ++ ⟨.indent, opens⟩ :: inner) = (do
      let order ← order.next l.tokens l.start
      let (body, behind) ← readBlock fuel true .start inner
      let (others, rest) ← readBlock fuel nested order behind
      .ok (.compound ⟨l.tokens, l.start⟩ body :: others, rest)) := by
    rw [readBlock_line, checked, l.opens]
    rfl
  simp only [hread, bind_eq_ok, ClauseOrder.next_eq_ok, Except.ok.injEq, Prod.mk.injEq]
  constructor
  · rintro ⟨_, ⟨hfollows, rfl⟩, ⟨body, behind⟩, hbody, ⟨others, _⟩, hothers, rfl, rfl⟩
    exact ⟨hfollows, body, behind, others, hbody, hothers, rfl⟩
  · rintro ⟨hfollows, body, behind, others, hbody, hothers, rfl⟩
    exact ⟨_, ⟨hfollows, rfl⟩, ⟨body, behind⟩, hbody, ⟨others, rest⟩, hothers, rfl, rfl⟩

end Line

/-! ## Reading an outline -/

/-- How a block ends: a nested one with a dedent, the outermost one with the text. -/
inductive Closes : Bool → List Token → List Token → Prop where
  | dedent (n : Nat) (rest : List Token) : Closes true (⟨.dedent, n⟩ :: rest) rest
  | atEnd (n : Nat) (rest : List Token) :
      Closes false (⟨.endMarker, n⟩ :: rest) (⟨.endMarker, n⟩ :: rest)

theorem readBlock_closes_iff {fuel : Nat} {nested : Bool} {order : ClauseOrder}
    {tail rest behind : List Token} {stmts : List Statement} (h : Closes nested tail rest) :
    readBlock (fuel + 1) nested order tail = .ok (stmts, behind) ↔
      order.previous ≠ some .tryBlock ∧ stmts = [] ∧ behind = rest := by
  have hread : readBlock (fuel + 1) nested order tail = (do
      order.finish
      .ok ([], rest)) := by
    cases h with
    | dedent => rfl
    | atEnd => rfl
  simp only [hread, bind_eq_ok, Except.ok.injEq, Prod.mk.injEq]
  constructor
  · rintro ⟨_, horder, rfl, rfl⟩
    exact ⟨ClauseOrder.finish_eq_ok.mp horder, rfl, rfl⟩
  · rintro ⟨horder, rfl, rfl⟩
    exact ⟨(), ClauseOrder.finish_eq_ok.mpr horder, rfl, rfl⟩

namespace Outline

/-- Every line of a block, at every depth, has the grammar of a line. -/
def Checked (outlines : List Outline) : Prop := ∀ l ∈ linesOf outlines, l.Checked

/-- The bodies in a block, at every depth, are sequences of statements. -/
def BodiesAccepted (outlines : List Outline) : Prop :=
  ∀ body ∈ bodiesOf outlines, Accepts none (clauses body)

theorem checked_nil : Checked [] := List.forall_mem_nil _

theorem bodiesAccepted_nil : BodiesAccepted [] := List.forall_mem_nil _

theorem checked_line {l : SimpleLine} {others : List Outline} :
    Checked (.line l :: others) ↔ l.Checked ∧ Checked others := by
  simp [Checked, linesOf, lines]

theorem checked_block {header : HeaderLine} {opens closes : Nat} {body others : List Outline} :
    Checked (.block header opens body closes :: others) ↔
      header.Checked ∧ Checked body ∧ Checked others := by
  simp [Checked, linesOf, lines, or_imp, forall_and]

theorem bodiesAccepted_line {l : SimpleLine} {others : List Outline} :
    BodiesAccepted (.line l :: others) ↔ BodiesAccepted others := by
  simp [BodiesAccepted, bodiesOf, bodies]

theorem bodiesAccepted_block {header : HeaderLine} {opens closes : Nat}
    {body others : List Outline} : BodiesAccepted (.block header opens body closes :: others) ↔
      (Accepts none (clauses body) ∧ BodiesAccepted body) ∧ BodiesAccepted others := by
  simp [BodiesAccepted, bodiesOf, bodies, or_imp, forall_and, and_assoc]

theorem flat_printed (l : LogicalLine) (after : List Token) :
    ∀ t ∈ (l.printed ++ after).head?, t.kind ≠ .indent := by
  obtain ⟨t, ts, hts⟩ := List.exists_cons_of_ne_nil l.nonempty
  have hplain := l.plain t (hts ▸ List.mem_cons_self)
  rw [LogicalLine.printed, hts]
  rintro _ ⟨⟩ hindent
  rw [Token.isLayout, hindent] at hplain
  cases hplain

/-- Behind a whole line no indentation follows on its own. -/
theorem flat_printedAll (outlines : List Outline) {nested : Bool} {tail rest : List Token}
    (h : Closes nested tail rest) :
    ∀ t ∈ (printedAll outlines ++ tail).head?, t.kind ≠ .indent := by
  match outlines with
  | [] => cases h <;> simp [printedAll]
  | .line l :: others =>
      rw [printedAll, printed, List.append_assoc]
      exact flat_printed l.toLogicalLine _
  | .block header opens body closes :: others =>
      rw [printedAll, printed, List.append_assoc, List.append_assoc]
      exact flat_printed header.toLogicalLine _

/-- A block is read to its end if its lines follow each other as they may and so do the lines of
the bodies in it. -/
theorem readBlock_printedAll_iff {fuel : Nat} (outlines : List Outline)
    (checked : Checked outlines) {nested : Bool} {tail rest : List Token}
    (h : Closes nested tail rest) (enough : (printedAll outlines ++ tail).length < fuel)
    {order : ClauseOrder} {stmts : List Statement} {behind : List Token} :
    readBlock fuel nested order (printedAll outlines ++ tail) = .ok (stmts, behind) ↔
      (Accepts order.previous (clauses outlines) ∧ BodiesAccepted outlines) ∧
        stmts = statementsOf outlines ∧ behind = rest := by
  induction fuel generalizing outlines nested tail rest order stmts behind with
  | zero => exact absurd enough (Nat.not_lt_zero _)
  | succ fuel ih =>
      match outlines with
      | [] =>
          rw [printedAll, List.nil_append, readBlock_closes_iff h, clauses, List.map_nil,
            accepts_nil_iff, statementsOf]
          simp [BodiesAccepted, bodiesOf]
      | .line l :: others =>
          obtain ⟨hl, hothers⟩ := checked_line.mp checked
          have hfuel : (printedAll others ++ tail).length < fuel := by
            simp only [printedAll, printed, LogicalLine.printed, List.length_append,
              List.length_cons] at enough ⊢
            omega
          rw [printedAll, printed, List.append_assoc,
            readBlock_simple_iff hl (flat_printedAll others h), clauses, List.map_cons,
            accepts_cons_iff, bodiesAccepted_line, statementsOf, statements]
          simp only [ih others hothers h hfuel]
          constructor
          · rintro ⟨hfollows, _, ⟨⟨haccepts, hbodies⟩, rfl, rfl⟩, rfl⟩
            exact ⟨⟨⟨hfollows, haccepts⟩, hbodies⟩, rfl, rfl⟩
          · rintro ⟨⟨⟨hfollows, haccepts⟩, hbodies⟩, rfl, rfl⟩
            exact ⟨hfollows, _, ⟨⟨haccepts, hbodies⟩, rfl, rfl⟩, rfl⟩
      | .block header opens body closes :: others =>
          obtain ⟨hheader, hbody, hothers⟩ := checked_block.mp checked
          have hcloses : Closes true (⟨.dedent, closes⟩ :: (printedAll others ++ tail))
              (printedAll others ++ tail) := .dedent _ _
          have hinner : (printedAll body ++
              ⟨.dedent, closes⟩ :: (printedAll others ++ tail)).length < fuel := by
            simp only [printedAll, printed, LogicalLine.printed, List.length_append,
              List.length_cons] at enough ⊢
            omega
          have hfuel : (printedAll others ++ tail).length < fuel := by
            simp only [printedAll, printed, LogicalLine.printed, List.length_append,
              List.length_cons] at enough ⊢
            omega
          have htokens : printedAll (.block header opens body closes :: others) ++ tail =
              header.printed ++ ⟨.indent, opens⟩ ::
                (printedAll body ++ ⟨.dedent, closes⟩ :: (printedAll others ++ tail)) := by
            simp [printedAll, printed]
          rw [htokens, readBlock_header_iff hheader, clauses, List.map_cons, accepts_cons_iff,
            bodiesAccepted_block, statementsOf, statements]
          simp only [ih body hbody hcloses hinner]
          constructor
          · rintro ⟨hfollows, _, _, stmts, ⟨hin, rfl, rfl⟩, hread, rfl⟩
            obtain ⟨⟨haccepts, hbodies⟩, rfl, rfl⟩ := (ih others hothers h hfuel).mp hread
            exact ⟨⟨⟨hfollows, haccepts⟩, hin, hbodies⟩, rfl, rfl⟩
          · rintro ⟨⟨⟨hfollows, haccepts⟩, hin, hbodies⟩, rfl, rfl⟩
            exact ⟨hfollows, _, _, _, ⟨hin, rfl, rfl⟩,
              (ih others hothers h hfuel).mpr ⟨⟨haccepts, hbodies⟩, rfl, rfl⟩, rfl⟩

/-! ## Whole texts -/

/-- The tokens of a text. -/
def tokens (outlines : List Outline) (last : Nat) : List Token :=
  printedAll outlines ++ [⟨.endMarker, last⟩]

/-- Every block of a text is a sequence of complete statements. -/
def Sequenced (loose : Bool) (outlines : List Outline) : Prop :=
  ∀ block ∈ blocks outlines, Source.Sequenced loose (clauses block)

/-- In some block of a text a cleanup stands behind the `else` of a condition or a loop. -/
def HasStrayCleanup (outlines : List Outline) : Prop :=
  ∃ block ∈ blocks outlines, Source.HasStrayCleanup (clauses block)

theorem sequenced_iff_accepts {outlines : List Outline} : Sequenced true outlines ↔
    Accepts none (clauses outlines) ∧ BodiesAccepted outlines := by
  simp [Sequenced, blocks, BodiesAccepted, accepts_iff_sequenced]

theorem sequenced_strict_iff {outlines : List Outline} : Sequenced false outlines ↔
    Sequenced true outlines ∧ ¬ HasStrayCleanup outlines := by
  constructor
  · intro h
    refine ⟨fun block hblock => (h block hblock).loosen, ?_⟩
    rintro ⟨block, hblock, hstray⟩
    exact (h block hblock).tidy hstray
  · rintro ⟨h, tidy⟩ block hblock
    exact (h block hblock).strict fun hstray => tidy ⟨block, hblock, hstray⟩

/-- A text whose lines have the grammar of a line is accepted if each of its blocks, at every depth,
is a sequence of complete statements, where a cleanup may stand behind every `else`. These are
Python's statements unless one stands behind the `else` of a condition or a loop. -/
theorem statements_tokens_iff (outlines : List Outline) (checked : Checked outlines) (last : Nat) :
    (∀ stmts, Source.statements (tokens outlines last) = .ok stmts ↔
      Sequenced true outlines ∧ stmts = statementsOf outlines) ∧
    (Sequenced false outlines ↔
      (∃ stmts, Source.statements (tokens outlines last) = .ok stmts) ∧
        ¬ HasStrayCleanup outlines) := by
  have hend : Closes false [⟨.endMarker, last⟩] [⟨.endMarker, last⟩] := .atEnd last []
  have hread (stmts : List Statement) : Source.statements (tokens outlines last) = .ok stmts ↔
      Sequenced true outlines ∧ stmts = statementsOf outlines := by
    rw [Source.statements, bind_eq_ok, sequenced_iff_accepts]
    constructor
    · rintro ⟨⟨body, behind⟩, hread, ⟨⟩⟩
      obtain ⟨haccepts, hbody, -⟩ :=
        (readBlock_printedAll_iff outlines checked hend (Nat.lt_succ_self _)).mp hread
      exact ⟨haccepts, hbody⟩
    · rintro ⟨haccepts, rfl⟩
      exact ⟨_, (readBlock_printedAll_iff outlines checked hend (Nat.lt_succ_self _)).mpr
        ⟨haccepts, rfl, rfl⟩, rfl⟩
  refine ⟨hread, sequenced_strict_iff.trans (and_congr_left' ?_)⟩
  constructor
  · exact fun h => ⟨_, (hread _).mpr ⟨h, rfl⟩⟩
  · rintro ⟨stmts, hstmts⟩
    exact ((hread stmts).mp hstmts).1

/-- A `try` with an indented body and a handler with an inline one. -/
theorem statements_tokens_iff_handled :
    let attempt : HeaderLine :=
      ⟨⟨[⟨.name "try", 1⟩, ⟨.symbol .colon, 1⟩], 1, by decide, by decide⟩, by decide⟩
    let pass : SimpleLine := ⟨⟨[⟨.name "pass", 2⟩], 2, by decide, by decide⟩, by decide⟩
    let handler : SimpleLine := ⟨⟨[⟨.name "except", 3⟩, ⟨.symbol .colon, 3⟩, ⟨.name "pass", 3⟩], 3,
      by decide, by decide⟩, by decide⟩
    let text : List Outline := [.block attempt 2 [.line pass] 3, .line handler]
    Checked text ∧ Sequenced false text ∧
      Source.statements (tokens text 4) = .ok (statementsOf text) := by
  intro attempt pass handler text
  have checked : Checked text := by
    simp only [Checked, text, linesOf, lines, List.cons_append, List.nil_append, List.mem_cons,
      List.not_mem_nil, or_false]
    rintro l (rfl | rfl | rfl) <;> rfl
  have hbody : Source.Sequenced false (clauses [.line pass]) := .append .simple .nil
  have htext : Source.Sequenced false (clauses text) := .append (.handled 0 .nothing) .nil
  have sequenced : Sequenced false text := by
    intro block hblock
    simp only [blocks, text, bodiesOf, bodies, List.append_nil, List.mem_cons, List.not_mem_nil,
      or_false] at hblock
    rcases hblock with rfl | rfl
    · exact htext
    · exact hbody
  obtain ⟨hread, -⟩ := statements_tokens_iff text checked 4
  exact ⟨checked, sequenced, (hread _).mpr ⟨(sequenced_strict_iff.mp sequenced).1, rfl⟩⟩

/-- `finally` behind the `else` of an `if` is no statement of Python's, and it is accepted. -/
theorem stray_cleanup_is_accepted :
    let condition : SimpleLine := ⟨⟨[⟨.name "if", 1⟩, ⟨.name "a", 1⟩, ⟨.symbol .colon, 1⟩,
      ⟨.name "pass", 1⟩], 1, by decide, by decide⟩, by decide⟩
    let otherwise : SimpleLine := ⟨⟨[⟨.name "else", 2⟩, ⟨.symbol .colon, 2⟩, ⟨.name "pass", 2⟩], 2,
      by decide, by decide⟩, by decide⟩
    let cleanup : SimpleLine := ⟨⟨[⟨.name "finally", 3⟩, ⟨.symbol .colon, 3⟩, ⟨.name "pass", 3⟩], 3,
      by decide, by decide⟩, by decide⟩
    let text : List Outline := [.line condition, .line otherwise, .line cleanup]
    Checked text ∧ ¬ Sequenced false text ∧
      Source.statements (tokens text 4) = .ok (statementsOf text) := by
  intro condition otherwise cleanup text
  have checked : Checked text := by
    simp only [Checked, text, linesOf, lines, List.cons_append, List.nil_append, List.mem_cons,
      List.not_mem_nil, or_false]
    rintro l (rfl | rfl | rfl) <;> rfl
  have stray : HasStrayCleanup text :=
    ⟨text, List.mem_cons_self, [], .ifThen, 0, [], by decide, rfl⟩
  exact ⟨checked, fun h => (sequenced_strict_iff.mp h).2 stray, rfl⟩

end Outline

end DeclaredSchema.Source
