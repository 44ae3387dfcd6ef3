import DeclaredSchema.Proofs.Source.InlineBodies
import DeclaredSchema.Proofs.Source.StatementParts

/-! # Lines of simple statements

A simple statement that is read to the end of its line is read the same in front of a semicolon. So
statements that stand on one line, with semicolons between them, have the grammar of a line
(`OnLine.simpleStatements`), and its parts between semicolons are the statements (`OnLine.parts`).
-/

namespace DeclaredSchema.Source

open Cursor Line

/-- One simple statement: nothing is left of it when it has been read. -/
structure SimpleStatement extends SimpleLine where
  read : ∃ line, simpleStatement (Cursor.start tokens) = .ok ⟨line, []⟩

/-- The tokens of a line that holds some statements. A semicolon may end the line. -/
inductive OnLine : List SimpleStatement → List Token → Prop
  | last {s : SimpleStatement} {ts : List Token} (same : kindsOf ts = kindsOf s.tokens) :
      OnLine [s] ts
  | ended {s : SimpleStatement} {ts : List Token} {t : Token}
      (same : kindsOf ts = kindsOf s.tokens) (semicolon : t.kind = .symbol .semicolon) :
      OnLine [s] (ts ++ [t])
  | more {s : SimpleStatement} {others : List SimpleStatement} {ts us : List Token} {t : Token}
      (same : kindsOf ts = kindsOf s.tokens) (semicolon : t.kind = .symbol .semicolon)
      (h : OnLine others us) : OnLine (s :: others) (ts ++ t :: us)

/-! ## In front of a semicolon -/

/-- Nothing, or a semicolon and what stands behind it. -/
def EndsStatement (behind : List Token) : Prop := ∀ t ∈ behind.head?, t.kind = .symbol .semicolon

namespace EndsStatement

variable {behind : List Token} {c : Cursor}

theorem nil : EndsStatement [] := by simp [EndsStatement]

theorem semicolon {t : Token} (ht : t.kind = .symbol .semicolon) (ts : List Token) :
    EndsStatement (t :: ts) := by
  rintro _ ⟨⟩
  exact ht

theorem sameHead (h : EndsStatement behind) (ts : List Token) :
    SameHead (kindsOf ts) (kindsOf (ts ++ behind)) := by
  rcases ts with - | ⟨t, ts⟩
  · rcases behind with - | ⟨u, us⟩
    · exact .inl rfl
    · exact .inr ⟨rfl, congrArg some (h u rfl)⟩
  · exact .inl rfl

theorem loses_nothing {c : Cursor} (_ : True) : 0 ≤ c.rest.length := Nat.zero_le _

/-- Further statements behind the end of a line. -/
def crossing (h : EndsStatement behind) : Crossing where
  Within _ := True
  Ahead _ := True
  cross c := ⟨c.line, c.rest ++ behind⟩
  lost := 0
  gained := behind.length
  within_later _ _ := trivial
  ahead_earlier _ _ := trivial
  lost_le := loses_nothing
  length_cross _ _ := List.length_append
  advance_cross {c} _ hne _ := by
    obtain ⟨line, rest⟩ := c
    cases rest with
    | nil => exact absurd rfl hne
    | cons t ts => rfl
  head_cross {c} _ _ := h.sameHead c.rest
  second_cross {c} n _ _ hname := by
    obtain ⟨line, rest⟩ := c
    cases rest with
    | nil => cases hname
    | cons t ts => exact h.sameHead ts

/-- A semicolon is no name, and no sign of an alias. -/
theorem aliases (h : EndsStatement behind) (hne : c.rest ≠ []) : h.crossing.Aliases c := by
  intro _
  obtain ⟨line, rest⟩ := c
  obtain ⟨t, ts, rfl⟩ := List.exists_cons_of_ne_nil hne
  have hname : (kindsOf (ts ++ behind)).head?.bind Token.Kind.name? =
      (kindsOf ts).head?.bind Token.Kind.name? := (h.sameHead ts).bind rfl
  rw [Crossing.atTypeAlias_eq, Crossing.atTypeAlias_eq]
  change (((kindsOf (ts ++ behind)).head?.bind _).any _ &&
    (kindsOf (ts ++ behind)).tail.head?.any _) = (((kindsOf ts).head?.bind _).any _ &&
    (kindsOf ts).tail.head?.any _)
  rw [hname]
  cases ts with
  | nil => rfl
  | cons u ts => exact congrArg _ ((h.sameHead ts).any rfl)

theorem endsAlike (h : EndsStatement behind) (hne : c.rest ≠ []) : h.crossing.EndsAlike c := by
  intro _
  obtain ⟨line, rest⟩ := c
  cases rest with
  | nil => exact absurd rfl hne
  | cons t ts => rfl

end EndsStatement

namespace SimpleStatement

variable {ts behind : List Token}

/-- A statement is read on other lines, and in front of further ones. -/
theorem simpleStatement_append (s : SimpleStatement) (same : kindsOf ts = kindsOf s.tokens)
    (h : EndsStatement behind) (line : Nat) :
    ∃ n, simpleStatement ⟨line, ts ++ behind⟩ = .ok ⟨n, behind⟩ := by
  obtain ⟨n, hread⟩ := s.read
  have hkinds : (⟨line, ts⟩ : Cursor).kinds = (Cursor.start s.tokens).kinds := same
  have hother : (Crossing.renumbering hkinds).Carries 0 0 0 (Cursor.start s.tokens) _ _ :=
    Crossing.carries_simpleStatement (Crossing.aliases_renumbering hkinds _)
      ((Crossing.faithful_renumbering hkinds).endsAlike _)
  have hown := hother.crosses hread (Crossing.spans_renumbering hkinds List.suffix_rfl)
  rw [Crossing.cross_renumbering hkinds] at hown
  have hrest : ((Crossing.renumbering hkinds).cross ⟨n, []⟩).rest = [] :=
    List.map_eq_nil_iff.mp (Crossing.kinds_cross hkinds (List.nil_suffix))
  have hne : ts ≠ [] := by
    rintro rfl
    exact s.nonempty (List.map_eq_nil_iff.mp same.symm)
  have hmore : h.crossing.Carries 0 0 0 ⟨line, ts⟩ _ _ :=
    Crossing.carries_simpleStatement (h.aliases hne) (h.endsAlike hne)
  have hcross := hmore.crosses hown ⟨trivial, trivial⟩
  refine ⟨((Crossing.renumbering hkinds).cross ⟨n, []⟩).line, hcross.trans ?_⟩
  change Except.ok (Cursor.mk _ (((Crossing.renumbering hkinds).cross ⟨n, []⟩).rest ++ behind)) = _
  rw [hrest]
  rfl

theorem statementRound_append (s : SimpleStatement) (same : kindsOf ts = kindsOf s.tokens)
    (h : EndsStatement behind) (line : Nat) :
    ∃ n, Crossing.statementRound () ⟨line, ts ++ behind⟩ =
      match (⟨n, behind⟩ : Cursor).eat? .semicolon with
      | none => .ok (.stop () ⟨n, behind⟩)
      | some c => if c.atEnd then .ok (.stop () c) else .ok (.again () c) := by
  obtain ⟨n, hn⟩ := s.simpleStatement_append same h line
  refine ⟨n, ?_⟩
  rw [Crossing.statementRound, hn]
  rfl

/-- Outside of all brackets a statement has no semicolon. -/
theorem depthWithin?_tokens (s : SimpleStatement) (same : kindsOf ts = kindsOf s.tokens) :
    depthWithin? 0 ts = some 0 := by
  obtain ⟨n, hread⟩ := s.simpleStatement_append same .nil 0
  obtain ⟨us, hus, hdepth⟩ := passes_simpleStatement hread
  change ts ++ [] = us ++ [] at hus
  rwa [List.append_cancel_right hus]

end SimpleStatement

/-! ## Whole lines -/

theorem eat?_semicolon {t : Token} (h : t.kind = .symbol .semicolon) (line : Nat)
    (ts : List Token) : (⟨line, t :: ts⟩ : Cursor).eat? .semicolon = some ⟨t.line, ts⟩ := by
  have hat : (⟨line, t :: ts⟩ : Cursor).atSymbol .semicolon = true := by
    simp [atSymbol, Token.isSymbol, h]
  rw [eat?, if_pos hat]
  rfl

theorem opensBlock_append {ts us : List Token} (hne : us ≠ []) :
    opensBlock (ts ++ us) = opensBlock us := by
  rw [opensBlock, List.getLast?_append_of_ne_nil _ hne, ← opensBlock]

theorem plain_of_kinds {ts us : List Token} (h : ∀ t ∈ us, t.isLayout = false)
    (same : kindsOf ts = kindsOf us) : ∀ t ∈ ts, t.isLayout = false := by
  intro t ht
  have hmem : t.kind ∈ kindsOf us := same ▸ List.mem_map_of_mem ht
  obtain ⟨u, hu, hkind⟩ := List.mem_map.mp hmem
  rw [← isLayout_kind, ← hkind]
  exact h u hu

namespace OnLine

variable {stmts : List SimpleStatement} {ts us : List Token}

theorem ne_nil (h : OnLine stmts ts) : ts ≠ [] := by
  cases h with
  | @last s _ same =>
      rintro rfl
      exact s.nonempty (List.map_eq_nil_iff.mp same.symm)
  | ended | more => simp

/-- The lines of the tokens do not matter. -/
theorem of_kinds (h : OnLine stmts ts) (same : kindsOf us = kindsOf ts) : OnLine stmts us := by
  induction h generalizing us with
  | last hs => exact .last (same.trans hs)
  | ended hs semicolon =>
      rw [kindsOf_append] at same
      obtain ⟨front, behind, rfl, hfront, hbehind⟩ := List.map_eq_append_iff.mp same
      obtain ⟨n, rest, rfl, hrest⟩ := exists_of_kindsOf_cons hbehind
      obtain rfl : rest = [] := List.map_eq_nil_iff.mp hrest
      exact .ended (hfront.trans hs) semicolon
  | more hs semicolon _ ih =>
      rw [kindsOf_append] at same
      obtain ⟨front, behind, rfl, hfront, hbehind⟩ := List.map_eq_append_iff.mp same
      obtain ⟨n, rest, rfl, hrest⟩ := exists_of_kindsOf_cons hbehind
      exact .more (hfront.trans hs) semicolon (ih hrest)

theorem plain (h : OnLine stmts ts) : ∀ t ∈ ts, t.isLayout = false := by
  have hsemicolon {t : Token} (ht : t.kind = .symbol .semicolon) : t.isLayout = false := by
    rw [← isLayout_kind, ht]
    rfl
  induction h with
  | @last s ts same => exact plain_of_kinds s.plain same
  | @ended s ts t same semicolon =>
      refine List.forall_mem_append.mpr ⟨plain_of_kinds s.plain same, ?_⟩
      simpa using hsemicolon semicolon
  | @more s others ts us t same semicolon _ ih =>
      refine List.forall_mem_append.mpr ⟨plain_of_kinds s.plain same, ?_⟩
      exact List.forall_mem_cons.mpr ⟨hsemicolon semicolon, ih⟩

/-- Such a line opens no block. -/
theorem closed (h : OnLine stmts ts) : opensBlock ts = false := by
  induction h with
  | @last s ts same => exact (ShortClause.opensBlock_of_kinds same).trans s.closed
  | ended _ semicolon => simp [opensBlock, Token.isSymbol, semicolon]
  | @more s others ts us t _ _ h ih =>
      rw [opensBlock_append (List.cons_ne_nil t us), ← List.singleton_append,
        opensBlock_append h.ne_nil, ih]

/-- By induction on the statements, each of which is read up to its semicolon. -/
theorem rounds_eq (h : OnLine stmts ts) {fuel : Nat} (enough : ts.length < fuel) (line : Nat) :
    ∃ n, roundsFuel Crossing.statementRound fuel () ⟨line, ts⟩ = .ok ((), ⟨n, []⟩) := by
  obtain ⟨fuel, rfl⟩ := Nat.exists_eq_add_one_of_ne_zero (Nat.ne_zero_of_lt enough)
  induction h generalizing fuel line with
  | @last s ts same =>
      obtain ⟨n, hn⟩ := s.statementRound_append same .nil line
      rw [List.append_nil] at hn
      refine ⟨n, ?_⟩
      rw [roundsFuel, hn]
      rfl
  | @ended s ts t same semicolon =>
      obtain ⟨n, hn⟩ := s.statementRound_append same (.semicolon semicolon []) line
      refine ⟨t.line, ?_⟩
      rw [roundsFuel, hn, eat?_semicolon semicolon]
      rfl
  | @more s others ts us t same semicolon h ih =>
      obtain ⟨n, hn⟩ := s.statementRound_append same (.semicolon semicolon us) line
      have hend : (⟨t.line, us⟩ : Cursor).atEnd = false := List.isEmpty_eq_false_iff.mpr h.ne_nil
      have hless : us.length < fuel := by
        simp only [List.length_append, List.length_cons] at enough
        omega
      obtain ⟨fuel, rfl⟩ := Nat.exists_eq_add_one_of_ne_zero (Nat.ne_zero_of_lt hless)
      rw [roundsFuel, hn, eat?_semicolon semicolon]
      simp only [hend]
      exact ih t.line fuel hless

/-- Statements with semicolons between them have the grammar of a line. -/
theorem simpleStatements_eq (h : OnLine stmts ts) (line : Nat) :
    simpleStatements ⟨line, ts⟩ = .ok () := by
  obtain ⟨n, hn⟩ := h.rounds_eq (Nat.lt_succ_self ts.length) line
  exact bind_eq_ok.mpr ⟨_, hn, rfl⟩

/-- The parts between semicolons are the statements. -/
theorem parts (h : OnLine stmts ts) :
    ((splitTopLevel .semicolon ts).filter (!·.isEmpty)).map kindsOf =
      stmts.map fun s => kindsOf s.tokens := by
  have hfull {s : SimpleStatement} {ts : List Token} (same : kindsOf ts = kindsOf s.tokens) :
      ts.isEmpty = false := by
    rw [List.isEmpty_eq_false_iff]
    exact OnLine.ne_nil (.last same)
  induction h with
  | @last s ts same =>
      rw [splitTopLevel_end (s.depthWithin?_tokens same)]
      simp [hfull same, same]
  | @ended s ts t same semicolon =>
      rw [splitTopLevel_semicolon (s.depthWithin?_tokens same) semicolon]
      simp [hfull same, same, splitTopLevel, splitFrom]
  | @more s others ts us t same semicolon _ ih =>
      rw [splitTopLevel_semicolon (s.depthWithin?_tokens same) semicolon]
      simp [hfull same, same, ← ih]

end OnLine

end DeclaredSchema.Source
