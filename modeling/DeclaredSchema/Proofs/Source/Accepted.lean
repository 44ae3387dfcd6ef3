import DeclaredSchema.Proofs.Source.LaidOut

/-! # Texts that are accepted

A text that is tokenized and read as statements is an outline: its tokens are those of lines nested
by indentation, each of which has the grammar of a line and closes its brackets, and its statements
are the ones the outline stands for. So what holds of the statements of every outline holds of the
statements of every text.
-/

namespace DeclaredSchema.Source

/-- The line has the grammar of a line and closes the brackets that it opens. -/
structure LogicalLine.Accepted (l : LogicalLine) : Prop where
  checked : l.Checked
  closed : depthBehind? 0 l.tokens = some 0

namespace Outline

/-- Every line of a block, at every depth, is accepted. -/
def Accepted (outlines : List Outline) : Prop := ∀ l ∈ linesOf outlines, l.Accepted

theorem accepted_line {l : SimpleLine} {others : List Outline} :
    Accepted (.line l :: others) ↔ l.Accepted ∧ Accepted others := by
  simp [Accepted, linesOf, lines]

theorem accepted_block {header : HeaderLine} {opens closes : Nat} {body others : List Outline} :
    Accepted (.block header opens body closes :: others) ↔
      header.Accepted ∧ Accepted body ∧ Accepted others := by
  simp [Accepted, linesOf, lines, or_imp, forall_and]

theorem accepted_nil : Accepted [] := by
  intro l hl
  cases hl

/-- What has been read of whole lines up to the end of a block: an outline, and whole lines that the
outer block goes on with. -/
structure ReadAs (nested : Bool) (depth last : Nat) (tokens : List Token) (stmts : List Statement)
    (rest : List Token) (outlines : List Outline) (tail : List Token) : Prop where
  tokens_eq : tokens = printedAll outlines ++ tail
  closes : Closes nested tail rest
  accepted : Accepted outlines
  stmts_eq : stmts = statementsOf outlines
  behind : nested = true → ∃ more, rest = more ++ [⟨.endMarker, last⟩] ∧ Laid (depth - 1) 0 more
  atEnd : nested = false → rest = [⟨.endMarker, last⟩]

section Reading

variable {nested : Bool} {depth last : Nat} {tokens rest : List Token} {stmts : List Statement}
  {outlines : List Outline} {tail : List Token}

theorem ReadAs.line (h : ReadAs nested depth last tokens stmts rest outlines tail) (l : SimpleLine)
    (hl : l.Accepted) : ReadAs nested depth last (l.printed ++ tokens)
      (simpleLines l.tokens l.start ++ stmts) rest (.line l :: outlines) tail where
  tokens_eq := by rw [h.tokens_eq, printedAll, printed, List.append_assoc]
  closes := h.closes
  accepted := accepted_line.mpr ⟨hl, h.accepted⟩
  stmts_eq := by rw [h.stmts_eq, statementsOf, statements]
  behind := h.behind
  atEnd := h.atEnd

theorem ReadAs.block {inner between : List Token} {body : List Statement} {lines : List Outline}
    {closes : Nat} {innerTail : List Token}
    (hbody : ReadAs true (depth + 1) last inner body between lines innerTail)
    (h : ReadAs nested depth last between stmts rest outlines tail) (header : HeaderLine)
    (hheader : header.Accepted) (opens : Nat) (htail : innerTail = ⟨.dedent, closes⟩ :: between) :
    ReadAs nested depth last (header.printed ++ ⟨.indent, opens⟩ :: inner)
      (.compound ⟨header.tokens, header.start⟩ body :: stmts) rest
      (.block header opens lines closes :: outlines) tail where
  tokens_eq := by
    rw [hbody.tokens_eq, htail, h.tokens_eq, printedAll, printed]
    simp
  closes := h.closes
  accepted := accepted_block.mpr ⟨hheader, hbody.accepted, h.accepted⟩
  stmts_eq := by
    rw [hbody.stmts_eq, h.stmts_eq, statementsOf, statements]
    rfl
  behind := h.behind
  atEnd := h.atEnd

end Reading

theorem eq_of_closes {tail rest : List Token} (h : Closes false tail rest) : tail = rest := by
  cases h with
  | atEnd => rfl

theorem eq_dedent_of_closes {tail rest : List Token} (h : Closes true tail rest) :
    ∃ n, tail = ⟨.dedent, n⟩ :: rest := by
  cases h with
  | dedent n => exact ⟨n, rfl⟩

/-- A mark of indentation in front of whole lines opens a block in them. -/
theorem laid_of_indent {depth last n : Nat} {lines inner : List Token} (h : Laid depth 0 lines)
    (hlines : lines ++ [⟨.endMarker, last⟩] = ⟨.indent, n⟩ :: inner) :
    ∃ more, inner = more ++ [⟨.endMarker, last⟩] ∧ Laid (depth + 1) 0 more := by
  cases h with
  | nil => cases hlines
  | @indent _ _ more m hmore =>
      exact ⟨more, (List.cons.inj hlines).2.symm, hmore⟩
  | dedent m hmore => cases hlines
  | @line _ _ more l _ _ =>
      rw [List.append_assoc] at hlines
      have hflat := flat_printed l (more ++ [⟨.endMarker, last⟩])
      rw [hlines] at hflat
      exact absurd rfl (hflat _ rfl)

theorem exists_indent {after : List Token} (h : ¬ ∀ t ∈ after.head?, t.kind ≠ .indent) :
    ∃ n inner, after = ⟨.indent, n⟩ :: inner := by
  rcases after with - | ⟨⟨kind, n⟩, inner⟩
  · exact absurd (fun t ht => by cases ht) h
  · refine ⟨n, inner, ?_⟩
    by_contra hne
    exact h (by rintro _ ⟨⟩ rfl; exact hne rfl)

/-- By induction on the fuel. Where a line opens a block, the lines below it are read to the dedent
that closes the block, and the lines behind that are whole again. -/
theorem exists_readAs {fuel : Nat} {nested : Bool} {order : ClauseOrder}
    {lines rest : List Token} {stmts : List Statement} {depth last : Nat}
    (hlaid : Laid depth 0 lines) (hnested : nested = decide (0 < depth))
    (enough : (lines ++ [(⟨.endMarker, last⟩ : Token)]).length < fuel)
    (h : readBlock fuel nested order (lines ++ [⟨.endMarker, last⟩]) = .ok (stmts, rest)) :
    ∃ outlines tail,
      ReadAs nested depth last (lines ++ [⟨.endMarker, last⟩]) stmts rest outlines tail := by
  induction fuel generalizing nested order lines rest stmts depth with
  | zero => exact absurd enough (Nat.not_lt_zero _)
  | succ fuel ih =>
      generalize hzero : 0 = bottom at hlaid
      cases hlaid with
      | nil =>
          subst hzero
          obtain rfl : nested = false := by simpa using hnested
          have hend : Closes false [⟨.endMarker, last⟩] [⟨.endMarker, last⟩] := .atEnd last []
          obtain ⟨-, rfl, rfl⟩ := (readBlock_closes_iff hend).mp h
          exact ⟨[], _, rfl, hend, accepted_nil, rfl, nofun, fun _ => rfl⟩
      | indent n hinner => cases h
      | @dedent depth _ more n hmore =>
          subst hzero
          obtain rfl : nested = true := by simpa using hnested
          have hend : Closes true (⟨.dedent, n⟩ :: (more ++ [⟨.endMarker, last⟩]))
              (more ++ [⟨.endMarker, last⟩]) := .dedent n _
          obtain ⟨-, rfl, rfl⟩ := (readBlock_closes_iff hend).mp h
          exact ⟨[], _, rfl, hend, accepted_nil, rfl, fun _ => ⟨more, rfl, hmore⟩,
            nofun⟩
      | @line _ _ more l closed hmore =>
          subst hzero
          rw [List.append_assoc] at h enough ⊢
          rw [readBlock_line] at h
          obtain ⟨⟨⟩, hchecked, h⟩ := bind_eq_ok.mp h
          obtain ⟨order, -, h⟩ := bind_eq_ok.mp h
          have hl : l.Accepted := ⟨hchecked, closed⟩
          have hshorter : (more ++ [(⟨.endMarker, last⟩ : Token)]).length < fuel := by
            simp only [LogicalLine.printed, List.length_append, List.length_cons] at enough ⊢
            omega
          by_cases hflat : ∀ t ∈ (more ++ [(⟨.endMarker, last⟩ : Token)]).head?, t.kind ≠ .indent
          · cases hopens : opensBlock l.tokens with
            | true =>
                rw [hopens, readBehind_missing hflat] at h
                cases h
            | false =>
                rw [hopens, readBehind_flat hflat] at h
                obtain ⟨⟨others, behind⟩, hothers, ⟨⟩⟩ := bind_eq_ok.mp h
                obtain ⟨outlines, tail, hread⟩ := ih hmore hnested hshorter hothers
                exact ⟨_, tail, hread.line ⟨l, hopens⟩ hl⟩
          · obtain ⟨n, inner, hindent⟩ := exists_indent hflat
            obtain ⟨within, rfl, hwithin⟩ := laid_of_indent hmore hindent
            rw [hindent] at h ⊢
            rw [hindent, List.length_cons] at hshorter
            cases hopens : opensBlock l.tokens with
            | false =>
                rw [hopens] at h
                cases h
            | true =>
                rw [hopens, readBehind_opens] at h
                obtain ⟨⟨body, between⟩, hbody, h⟩ := bind_eq_ok.mp h
                obtain ⟨⟨others, behind⟩, hothers, ⟨⟩⟩ := bind_eq_ok.mp h
                obtain ⟨lines, tail, hread⟩ :=
                  ih hwithin (by simp) (Nat.lt_of_succ_lt hshorter) hbody
                obtain ⟨after, rfl, hafter⟩ := hread.behind rfl
                obtain ⟨closes, rfl⟩ := eq_dedent_of_closes hread.closes
                have henough : (after ++ [(⟨.endMarker, last⟩ : Token)]).length < fuel := by
                  have hlength := congrArg List.length hread.tokens_eq
                  simp only [List.length_append, List.length_cons] at hlength hshorter ⊢
                  omega
                obtain ⟨outlines, tail, hmore⟩ := ih hafter hnested henough hothers
                exact ⟨_, tail, hread.block hmore ⟨l, hopens⟩ hl n rfl⟩

end Outline

/-- An accepted text is an outline, whose statements it is read as. -/
theorem exists_outline {text : String} {ts : List Token} {stmts : List Statement}
    (htokens : tokenize text = .ok ts) (hstmts : statements ts = .ok stmts) :
    ∃ outlines last, ts = Outline.tokens outlines last ∧ Outline.Accepted outlines ∧
      stmts = Outline.statementsOf outlines := by
  obtain ⟨lines, last, rfl, hlaid⟩ := laid_of_tokenize htokens
  obtain ⟨⟨body, rest⟩, hread, ⟨⟩⟩ := bind_eq_ok.mp hstmts
  obtain ⟨outlines, tail, h⟩ := Outline.exists_readAs hlaid rfl (Nat.lt_succ_self _) hread
  have htail : tail = rest := Outline.eq_of_closes h.closes
  refine ⟨outlines, last, ?_, h.accepted, h.stmts_eq⟩
  rw [h.tokens_eq, htail, h.atEnd rfl, Outline.tokens]

end DeclaredSchema.Source
