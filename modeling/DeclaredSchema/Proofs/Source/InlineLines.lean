import DeclaredSchema.Proofs.Source.LineNumbers
import DeclaredSchema.Proofs.Source.Outlines

/-! # Lines with a body behind the colon

The body of a clause may stand behind the colon of its header. The header is read as far as it would
be without the body, so that such a line has the grammar of a line if the body has it.
-/

namespace DeclaredSchema.Source

open Cursor Line Crossing

/-! ## Behind a colon -/

/-- A colon with what stands behind it, and what else may stand there. -/
structure Seam where
  colon : Token
  isColon : colon.kind = .symbol .colon
  behind : List Token
  other : List Token

namespace Seam

variable {j : Seam} {c d : Cursor}

def cross (j : Seam) (c : Cursor) : Cursor :=
  ⟨c.line, c.rest.take (c.rest.length - (j.behind.length + 1)) ++ j.colon :: j.other⟩

theorem cross_eq (ts : List Token) (h : c.rest = ts ++ j.colon :: j.behind) :
    j.cross c = ⟨c.line, ts ++ j.colon :: j.other⟩ := by
  rw [cross, h, List.length_append, List.length_cons, Nat.add_sub_cancel, List.take_left' rfl]

/-- Other tokens behind the colon. -/
def crossing (j : Seam) : Crossing where
  Within _ := True
  Ahead c := j.colon :: j.behind <:+ c.rest
  cross := j.cross
  lost := j.behind.length
  gained := j.other.length
  within_later _ _ := trivial
  ahead_earlier hd hc := hd.trans hc
  lost_le h := Nat.le_of_succ_le h.length_le
  length_cross _ h := by
    obtain ⟨ts, hts⟩ := h
    rw [cross_eq _ hts.symm, ← hts]
    simp
    omega
  advance_cross {c} _ _ h := by
    obtain ⟨line, rest⟩ := c
    cases rest with
    | nil => exact absurd h.length_le (by simp [advance])
    | cons t ts =>
        obtain ⟨us, hus⟩ := h
        obtain rfl : us ++ j.colon :: j.behind = ts := hus
        rw [cross_eq (t :: us) rfl, advance, cross_eq us rfl]
        rfl
  head_cross {c} _ h := by
    obtain ⟨ts, hts⟩ := h
    rw [cross_eq _ hts.symm, kinds, kinds, ← hts]
    cases ts <;> exact .inl rfl
  second_cross {c n} _ h hname := by
    obtain ⟨ts, hts⟩ := h
    rw [cross_eq _ hts.symm, kinds, kinds, ← hts]
    rw [kinds, ← hts] at hname
    match ts with
    | [] =>
        have hcolon : j.colon.kind = .name n := Option.some.inj hname
        rw [j.isColon] at hcolon
        cases hcolon
    | [t] => exact .inl rfl
    | t :: u :: ts => exact .inl rfl

/-- The brackets in front of the colon are closed. -/
def Closed (j : Seam) (c : Cursor) : Prop :=
  ∃ ts, c.rest = ts ++ j.colon :: j.behind ∧ depthBehind? 0 ts = some 0

theorem Closed.of_passes (hp : Passes 0 0 c d) (hd : d.rest = j.colon :: j.behind) :
    j.Closed c := by
  obtain ⟨ts, hts, hdepth⟩ := hp
  exact ⟨ts, by rw [hts, hd], depthBehind?_of_within hdepth⟩

/-- The colon is not a name, so it is still ahead behind one. -/
theorem Closed.advance {word : String} (h : j.Closed c) (hname : c.name? = some word) :
    j.Closed c.advance := by
  obtain ⟨ts, hts, hdepth⟩ := h
  obtain ⟨t, rest, hc, ht⟩ := Crossing.exists_of_name? hname
  cases ts with
  | nil =>
      obtain rfl : j.colon = t := (List.cons.inj (hts.symm.trans hc)).1
      rw [j.isColon] at ht
      cases ht
  | cons u us =>
      obtain rfl : u = t := (List.cons.inj (hts.symm.trans hc)).1
      rw [depthBehind?_cons, Crossing.depthBehind?_of_name ht] at hdepth
      exact ⟨us, by rw [rest_advance, hts]; rfl, hdepth⟩

/-- The same colon with the other tokens behind it. -/
def flip (j : Seam) : Seam := ⟨j.colon, j.isColon, j.other, j.behind⟩

theorem Closed.cross (h : j.Closed c) :
    j.flip.Closed (j.cross c) ∧ j.flip.cross (j.cross c) = c := by
  obtain ⟨ts, hts, hdepth⟩ := h
  refine ⟨⟨ts, by rw [cross_eq _ hts]; rfl, hdepth⟩, ?_⟩
  rw [cross_eq (j := j.flip) (c := j.cross c) _ (by rw [cross_eq _ hts]; rfl), cross_eq _ hts]
  change (⟨c.line, ts ++ j.colon :: j.behind⟩ : Cursor) = c
  rw [← hts]

/-- Items in parentheses do not run over a colon outside of all brackets. -/
theorem Closed.ahead (h : j.Closed c) (hitems : Crossing.Enclosed c d) : j.crossing.Ahead d := by
  obtain ⟨ts, hc, hdepth⟩ := h
  obtain ⟨opening, body, closing, hrest, hopens, hbody⟩ :=
    Crossing.parenthesizedWithItems_eq_ok hitems.1
  have hcolon : j.colon :: j.behind <:+ c.rest := ⟨ts, hc.symm⟩
  have hbehind : d.rest <:+ c.rest := ⟨opening :: (body ++ [closing]), by rw [hrest]; simp⟩
  by_cases hlength : j.behind.length < d.rest.length
  · exact List.suffix_of_suffix_length_le hcolon hbehind hlength
  · have hfront : ts <+: c.rest := ⟨_, hc.symm⟩
    have hinside : opening :: body <+: c.rest := ⟨closing :: d.rest, by rw [hrest]; simp⟩
    exfalso
    refine depthBehind?_ne_zero hopens hbody ?_ ?_ hdepth
    · refine List.prefix_of_prefix_length_le hfront hinside ?_
      have := congrArg List.length (hc.symm.trans hrest)
      simp only [List.length_append, List.length_cons] at this ⊢
      omega
    · rintro rfl
      have : j.colon = opening := (List.cons.inj (hc.symm.trans hrest)).1
      rw [← this, Token.opens_of_symbol j.isColon] at hopens
      cases hopens

/-- So a `with` has its items in parentheses whatever stands behind the colon, or never. -/
theorem Closed.steady (h : j.Closed c) : j.crossing.Steady c := by
  intro e he
  obtain ⟨hflip, hcross⟩ := h.cross
  have hback := he.cross (j := j.flip.crossing) ⟨trivial, hflip.ahead he⟩
  change Crossing.Enclosed (j.flip.cross (j.cross c)) _ at hback
  rw [hcross] at hback
  exact ⟨_, hback⟩

end Seam

/-! ## A header with its body -/

section Header

variable {header body : List Token}

theorem keyword_of_clauseOf? (h : (clauseOf? header).isSome) : ∃ word,
    (start header).name? = some word ∧ word ≠ "case" := by
  cases header with
  | nil => cases h
  | cons t ts =>
      rw [clauseOf?] at h
      split at h
      · next hasync => exact ⟨"async", name?_of_atName hasync, by decide⟩
      · cases hname : t.name? with
        | none => simp [hname] at h
        | some word =>
            refine ⟨word, hname, ?_⟩
            rintro rfl
            rw [Option.bind_some, hname] at h
            cases h

theorem steady_refl (c : Cursor) : refl.Steady c := fun e he => ⟨e, he⟩

/-- A header up to its colon is read the same with a body behind it. -/
theorem compoundHeader_append (hclause : (clauseOf? header).isSome) {d : Cursor}
    (h : compoundHeader (start header) = .ok d) (hend : d.rest = []) :
    compoundHeader (start (header ++ body)) = .ok ⟨d.line, body⟩ := by
  obtain ⟨word, hname, hcase⟩ := keyword_of_clauseOf? hclause
  rw [compoundHeader_eq, hname] at h
  obtain ⟨e, he, hd⟩ := bind_eq_ok.mp h
  obtain ⟨t, hrest, ht, hline⟩ := expect_eq_ok hd
  rw [hend] at hrest
  let j : Seam := ⟨t, ht, [], body⟩
  have hpasses : refl.Carries 0 0 0 (start header) _ _ :=
    carries_headerOf hname hcase (steady_refl _) fun _ _ => steady_refl _
  have closed : j.Closed (start header) := .of_passes (hpasses.passes he) hrest
  have behind := closed.advance hname
  have hheader : j.crossing.Carries 0 0 0 (start header) _ _ :=
    carries_headerOf hname hcase behind.steady fun _ hw => (behind.advance hw).steady
  have hcross : j.cross (start header) = start (header ++ body) := by
    obtain ⟨ts, hts, -⟩ := closed
    rw [Seam.cross_eq _ hts]
    change _ = (⟨0, header ++ body⟩ : Cursor)
    rw [show header = ts ++ [t] from hts, List.append_assoc]
    rfl
  have hcolon := hheader.crosses he ⟨trivial, ⟨[], hrest.symm⟩⟩
  change headerOf (some word) (j.cross (start header)) = .ok (j.cross e) at hcolon
  rw [hcross, Seam.cross_eq [] hrest] at hcolon
  have hname' : (start (header ++ body)).name? = some word := by
    obtain ⟨u, us, hheader, -⟩ := exists_of_name? hname
    obtain rfl : header = u :: us := hheader
    exact hname
  have hkinds : (⟨e.line, t :: body⟩ : Cursor).kinds = .symbol .colon :: body.map (·.kind) := by
    rw [kinds, List.map_cons, ht]
  rw [compoundHeader_eq, hname', ← hline]
  exact bind_eq_ok.mpr ⟨_, hcolon, expect_of_kinds hkinds⟩

/-- Where statements begin nothing in front of them matters. -/
theorem simpleStatements_line (line line' : Nat) (h : simpleStatements ⟨line, body⟩ = .ok ()) :
    simpleStatements ⟨line', body⟩ = .ok () := by
  have same : (⟨line', body⟩ : Cursor).kinds = (⟨line, body⟩ : Cursor).kinds := rfl
  have hcross := simpleStatements_renumbering same List.suffix_rfl h
  rwa [cross_renumbering same] at hcross

/-- The clause of a line stands at its beginning. -/
theorem clauseOf?_append (h : (clauseOf? header).isSome) :
    clauseOf? (header ++ body) = clauseOf? header := by
  match header with
  | [] => cases h
  | [t] =>
      rw [clauseOf?] at h ⊢
      rw [List.cons_append, clauseOf?]
      split at h
      · cases h
      · next hasync => rw [if_neg hasync, if_neg hasync]
  | t :: u :: ts => rfl

end Header

/-- Behind a header that has the grammar of one, a body is checked like a line of its own. -/
theorem checkLine_inline_iff {header : HeaderLine} (hclause : (clauseOf? header.tokens).isSome)
    (hheader : header.Checked) {body : List Token} (hbody : clauseOf? body = none) :
    checkLine (header.tokens ++ body) false = .ok () ↔ checkLine body false = .ok () := by
  rw [LogicalLine.Checked, header.opens, checkLine, hclause, Bool.true_or, if_pos rfl] at hheader
  obtain ⟨d, hd, hfinish⟩ := bind_eq_ok.mp hheader
  have hend : d.rest = [] := by
    rw [if_pos rfl, finish] at hfinish
    split at hfinish
    · next hend => exact List.isEmpty_iff.mp hend
    · cases hfinish
  have hinline : checkLine (header.tokens ++ body) false = simpleStatements ⟨d.line, body⟩ := by
    rw [checkLine, clauseOf?_append hclause, hclause, Bool.true_or, if_pos rfl,
      compoundHeader_append hclause hd hend]
    rfl
  have hown : checkLine body false = simpleStatements ⟨0, body⟩ := by
    rw [checkLine, hbody]
    rfl
  rw [hinline, hown]
  exact ⟨simpleStatements_line _ _, simpleStatements_line _ _⟩

end DeclaredSchema.Source
