import DeclaredSchema.Proofs.Source.LocalHeaders

/-! # What brackets enclose

The rules that begin behind an opening bracket end with the bracket that closes it: what they read
in front of that one closes no bracket that it has not opened.
-/

namespace DeclaredSchema.Source

open Cursor Rule Crossing Source.Tree

/-- From behind an opening bracket over the one that closes it. -/
def Encloses (c d : Cursor) : Prop :=
  ∃ e t, Passes 0 0 c e ∧ e.rest = t :: d.rest ∧ t.closes = true

section Readings

variable {c d e : Cursor} {fuel k : Nat} {rule : Rule}

theorem enough_refl (c : Cursor) (n : Nat) : refl.Enough (24 * c.rest.length + n + 1) n c :=
  Nat.lt_succ_self _

theorem passes_read (hready : rule.Ready c) {r : Shape × Cursor} (h : read fuel rule c = .ok r)
    (k : Nat) : Passes (k + rule.opened) k c r.2 :=
  (local_read refl fuel _ rule c k 0 hready (enough_refl c rule.height)).passes h

theorem Encloses.of_expect {s : Symbol} (h : Passes 0 0 c e) (hclose : e.expect s = .ok d)
    (hs : s.closes?.isSome = true) : Encloses c d := by
  obtain ⟨t, hrest, ht, -⟩ := expect_eq_ok hclose
  exact ⟨e, t, h, hrest, (Token.closes_of_symbol ht).trans hs⟩

theorem Encloses.earlier (hp : Passes 0 0 c e) (h : Encloses e d) : Encloses c d := by
  obtain ⟨i, t, hq, hrest, ht⟩ := h
  exact ⟨i, t, hp.trans hq, hrest, ht⟩

/-- A bracket that is closed at once. -/
theorem encloses_nothing {s : Symbol} (h : c.eat? s = some d) (hs : s.closes?.isSome = true) :
    Encloses c d := .of_expect (.refl 0 c) (by rw [expect, h]) hs

theorem encloses_comprehension {close : Symbol} (hs : close.closes?.isSome = true)
    {r : Shape × Cursor} (h : (do
      let (_, c) ← read fuel .comprehension c
      let c ← c.expect close
      .ok (Shape.value, c)) = .ok r) : Encloses c r.2 := by
  obtain ⟨⟨_, e⟩, hread, h⟩ := bind_eq_ok.mp h
  obtain ⟨i, hclose, h⟩ := bind_eq_ok.mp h
  cases h
  exact .of_expect (passes_read (ready_of_ne (by decide)) hread 0) hclose hs

theorem encloses_sequenceTail {close : Symbol} (hs : close.closes?.isSome = true)
    {first : Shape} {r : Shape × Cursor}
    (h : sequenceTail (read fuel (.item .starNamed)) close first c = .ok r) :
    Encloses c r.2 := by
  rw [sequenceTail_eq] at h
  obtain ⟨⟨fit, e⟩, hrounds, h⟩ := bind_eq_ok.mp h
  obtain ⟨i, hclose, h⟩ := bind_eq_ok.mp h
  cases h
  have hplain : close ≠ .semicolon := by
    rintro rfl
    cases hs
  have hitem (e : Cursor) (he : refl.Enough (24 * c.rest.length + 23) 23 e) :
      refl.Carries 0 0 0 e (read fuel (.item .starNamed) e) (read _ (.item .starNamed) e) :=
    local_read refl fuel _ _ e 0 0 (ready_of_ne (by decide)) (he.mono (by decide))
  have hcarries : refl.Carries 0 0 0 c _ _ :=
    carries_itemRounds close hplain (enough_refl c 23) hitem first.fitsSequence
  exact .of_expect (hcarries.passes hrounds) hclose hs

/-! ## The rules behind an opening bracket -/

theorem encloses_arguments {r : Shape × Cursor} (h : read (fuel + 1) .arguments c = .ok r) :
    Encloses c r.2 := by
  rw [read_arguments_eq] at h
  obtain ⟨⟨_, e⟩, hrounds, h⟩ := bind_eq_ok.mp h
  obtain ⟨i, hclose, h⟩ := bind_eq_ok.mp h
  cases h
  have hcarries : refl.Carries 0 0 0 c _ _ :=
    carries_argumentRounds (local_read refl fuel _) (enough_refl c 19)
  exact .of_expect (hcarries.passes hrounds) hclose rfl

theorem encloses_slices {r : Shape × Cursor} (h : read (fuel + 1) .slices c = .ok r) :
    Encloses c r.2 := by
  rw [read_slices_eq] at h
  obtain ⟨⟨_, e⟩, hrounds, h⟩ := bind_eq_ok.mp h
  obtain ⟨i, hclose, h⟩ := bind_eq_ok.mp h
  cases h
  have hcarries : refl.Carries 0 0 0 c _ (rounds (nextSlice (24 * c.rest.length + 19)) () c) :=
    .rounds (fun _ e he =>
      carries_nextSlice (local_read refl fuel _) ((enough_refl c 19).passes he)) ()
  exact .of_expect (hcarries.passes hrounds) hclose rfl

theorem encloses_parenthesized {r : Shape × Cursor}
    (h : read (fuel + 1) .parenthesized c = .ok r) : Encloses c r.2 := by
  rw [Rule.read] at h
  split at h
  · next d hclose =>
    cases h
    exact encloses_nothing hclose rfl
  split at h
  · next hyield =>
    obtain ⟨⟨_, e⟩, hread, h⟩ := bind_eq_ok.mp h
    obtain ⟨i, hclose, h⟩ := bind_eq_ok.mp h
    cases h
    exact .of_expect (passes_read (fun _ => hyield) hread 0) hclose rfl
  · obtain ⟨⟨first, e⟩, hread, h⟩ := bind_eq_ok.mp h
    refine .earlier (passes_read (ready_of_ne (by decide)) hread 0) ?_
    dsimp only at h
    split at h
    · exact encloses_comprehension rfl h
    split at h
    · obtain ⟨i, hclose, h⟩ := bind_eq_ok.mp h
      cases h
      exact .of_expect (.refl 0 e) hclose rfl
    · exact encloses_sequenceTail rfl h

theorem encloses_squareDisplay {r : Shape × Cursor}
    (h : read (fuel + 1) .squareDisplay c = .ok r) : Encloses c r.2 := by
  rw [Rule.read] at h
  split at h
  · next d hclose =>
    cases h
    exact encloses_nothing hclose rfl
  · obtain ⟨⟨first, e⟩, hread, h⟩ := bind_eq_ok.mp h
    refine .earlier (passes_read (ready_of_ne (by decide)) hread 0) ?_
    dsimp only at h
    split at h
    · exact encloses_comprehension rfl h
    · exact encloses_sequenceTail rfl h

theorem encloses_braceDisplay {r : Shape × Cursor}
    (h : read (fuel + 1) .braceDisplay c = .ok r) : Encloses c r.2 := by
  rw [read_braceDisplay_eq] at h
  split at h
  · next d hclose =>
    cases h
    exact encloses_nothing hclose rfl
  · obtain ⟨⟨dict, e⟩, hfirst, h⟩ := bind_eq_ok.mp h
    have hcarries : refl.Carries 0 0 0 c _ _ :=
      carries_firstEntry (local_read refl fuel _) (enough_refl c 19)
    refine .earlier (hcarries.passes hfirst) ?_
    dsimp only at h
    split at h
    · exact encloses_comprehension rfl h
    · obtain ⟨⟨_, i⟩, hrounds, h⟩ := bind_eq_ok.mp h
      obtain ⟨m, hclose, h⟩ := bind_eq_ok.mp h
      cases h
      have hcarries : refl.Carries 0 0 0 e _
          (rounds (entryRound (24 * e.rest.length + 23) dict) () e) :=
        .rounds (fun _ o ho =>
          carries_entryRound (local_read refl fuel _) dict ((enough_refl e 23).passes ho)) ()
      exact .of_expect (hcarries.passes hrounds) hclose rfl

/-- A rule that begins behind an opening bracket reads what this bracket encloses. -/
theorem encloses_read (hrule : rule.opened = 1) {r : Shape × Cursor}
    (h : read fuel rule c = .ok r) : Encloses c r.2 := by
  cases fuel with
  | zero => cases h
  | succ fuel =>
      cases rule with
      | arguments => exact encloses_arguments h
      | slices => exact encloses_slices h
      | parenthesized => exact encloses_parenthesized h
      | squareDisplay => exact encloses_squareDisplay h
      | braceDisplay => exact encloses_braceDisplay h
      | _ => cases hrule

end Readings

end DeclaredSchema.Source
