import DeclaredSchema.Proofs.Source.Places
import DeclaredSchema.Proofs.Source.ExprReadings

/-! # Cuts of tokens by places

Parts between separators, and what stands in brackets, as slices between places that a count of open
brackets has found. The place where a part begins never lies behind the one where it ends, and the
count is one at the bracket that a search starts from, so no slice and no difference fails
(`partsAt_eq`, `groupAt_eq`).
-/

namespace DeclaredSchema.Source.ByPlace

/-! ## Parts -/

/-- The parts from a place on, with `depth` brackets open and the current part begun at `first`. -/
def partsFrom (separator : Symbol) (tokens : List Token) (depth first place : Nat) :
    Checked (List (List Token)) :=
  match _h : tokens[place]? with
  | none => do
    let part ← slice? tokens first tokens.length
    some [part]
  | some t =>
    if t.opens then partsFrom separator tokens (depth + 1) first (place + 1)
    else if t.closes then partsFrom separator tokens (depth - 1) first (place + 1)
    else if depth = 0 && t.isSymbol separator then do
      let part ← slice? tokens first place
      let parts ← partsFrom separator tokens depth (place + 1) (place + 1)
      some (part :: parts)
    else partsFrom separator tokens depth first (place + 1)
termination_by tokens.length - place
decreasing_by
  all_goals
    have := (List.getElem?_eq_some_iff.mp _h).1
    omega

/-- The parts between separators outside all brackets. -/
def partsAt (separator : Symbol) (tokens : List Token) : Checked (List (List Token)) :=
  partsFrom separator tokens 0 0 0

/-! ## Brackets -/

/-- The place of the bracket that closes the last of `depth` open ones. -/
def closingFrom (tokens : List Token) (depth place : Nat) : Checked (Option Nat) :=
  match _h : tokens[place]? with
  | none => some none
  | some t =>
    if t.opens then closingFrom tokens (depth + 1) (place + 1)
    else if t.closes then do
      let left ← less? depth 1
      if left = 0 then some (some place) else closingFrom tokens left (place + 1)
    else closingFrom tokens depth (place + 1)
termination_by tokens.length - place
decreasing_by
  all_goals
    have := (List.getElem?_eq_some_iff.mp _h).1
    omega

/-- The place of the bracket that closes the one at a place. -/
def closingAt (tokens : List Token) (opening : Nat) : Checked (Option Nat) :=
  closingFrom tokens 0 opening

/-- What stands in the brackets that open at a place, and the place behind them. -/
def groupAt (tokens : List Token) (opening : Nat) : Checked (Option (List Token × Nat)) :=
  whenFound (closingAt tokens opening) fun close => do
    let inside ← slice? tokens (opening + 1) close
    some (some (inside, close + 1))

/-! ## The same cuts -/

section Parts

variable {separator : Symbol} {tokens : List Token} {t : Token} {depth first place : Nat}

theorem partsFrom_of_none (h : tokens[place]? = none) :
    partsFrom separator tokens depth first place =
      (do
        let part ← slice? tokens first tokens.length
        some [part]) := by
  rw [partsFrom]
  split
  · rfl
  · next ht => cases h.symm.trans ht

theorem partsFrom_of_some (h : tokens[place]? = some t) :
    partsFrom separator tokens depth first place =
      if t.opens then partsFrom separator tokens (depth + 1) first (place + 1)
      else if t.closes then partsFrom separator tokens (depth - 1) first (place + 1)
      else if depth = 0 && t.isSymbol separator then do
        let part ← slice? tokens first place
        let parts ← partsFrom separator tokens depth (place + 1) (place + 1)
        some (part :: parts)
      else partsFrom separator tokens depth first (place + 1) := by
  rw [partsFrom]
  split
  · next hnone => cases h.symm.trans hnone
  · next u hu =>
    cases h.symm.trans hu
    rfl

/-- By induction on what is left; `begun` is the part so far, from its first place on. -/
theorem partsFrom_eq {begun rest : List Token} (hfirst : first ≤ tokens.length)
    (hbegun : tokens.drop first = begun ++ rest) (hplace : place = first + begun.length) :
    partsFrom separator tokens depth first place =
      some (begun.foldr consToFirst (splitFrom separator depth rest)) := by
  induction rest generalizing depth first place begun with
  | nil =>
      have hrest : tokens.drop place = [] := hplace ▸ drop_add_of_drop hbegun
      rw [List.append_nil] at hbegun
      rw [partsFrom_of_none (getElem?_of_drop_nil hrest), slice?_to_end hbegun hfirst, splitFrom,
        foldr_consToFirst, List.append_nil]
      rfl
  | cons t rest ih =>
      have hrest : tokens.drop place = t :: rest := hplace ▸ drop_add_of_drop hbegun
      have hnext : tokens.drop (place + 1) = rest := drop_succ_of_drop hrest
      have grown (d : Nat) : partsFrom separator tokens d first (place + 1) =
          some (begun.foldr consToFirst (consToFirst t (splitFrom separator d rest))) := by
        have hgrown : tokens.drop first = (begun ++ [t]) ++ rest := by
          rw [hbegun, List.append_assoc]
          rfl
        rw [ih hfirst hgrown (by rw [List.length_append, hplace]; rfl), List.foldr_append]
        rfl
      rw [partsFrom_of_some (getElem?_of_drop hrest), splitFrom]
      split
      · exact grown (depth + 1)
      split
      · exact grown (depth - 1)
      split
      · next hseparator =>
        obtain rfl : depth = 0 := by simpa using (Bool.and_eq_true_iff.mp hseparator).1
        have hempty : tokens.drop (place + 1) = [] ++ rest := hnext
        have hparts : partsFrom separator tokens 0 (place + 1) (place + 1) =
            some (splitFrom separator 0 rest) := ih (lt_length_of_drop hrest) hempty rfl
        rw [slice?_of_drop hbegun hplace hfirst, hparts, foldr_consToFirst, List.append_nil]
        rfl
      · exact grown depth

/-- Parts cut out by places are the parts. -/
theorem partsAt_eq (separator : Symbol) (tokens : List Token) :
    partsAt separator tokens = some (splitTopLevel separator tokens) := by
  have hempty : tokens.drop 0 = [] ++ tokens := rfl
  exact partsFrom_eq (Nat.zero_le _) hempty rfl

end Parts

section Cuts

variable {tokens rest : List Token} {t : Token} {place : Nat}
  {cut : Option (List Token × List Token)} {found : Option Nat}

/-- Tokens that stand from a place on are cut at the place that has been found, whose token is left
out. -/
structure CutsAt (tokens ts : List Token) (place : Nat) (cut : Option (List Token × List Token))
    (found : Option Nat) : Prop where
  cut_eq : cut = found.map fun last => (ts.take (last - place), tokens.drop (last + 1))
  within : ∀ last ∈ found, place ≤ last ∧ last < tokens.length

theorem CutsAt.nowhere (ts : List Token) : CutsAt tokens ts place none none := ⟨rfl, nofun⟩

theorem CutsAt.here (hrest : tokens.drop place = t :: rest) :
    CutsAt tokens (t :: rest) place (some ([], rest)) (some place) := by
  refine ⟨by simp [drop_succ_of_drop hrest], ?_⟩
  rintro last ⟨⟩
  exact ⟨Nat.le_refl place, lt_length_of_drop hrest⟩

/-- A later cut has one more token in front. -/
theorem CutsAt.later (h : CutsAt tokens rest (place + 1) cut found) (t : Token) :
    CutsAt tokens (t :: rest) place (cut.map fun (a, b) => (t :: a, b)) found := by
  have hlt {last : Nat} (hlast : last ∈ found) : place < last := (h.within last hlast).1
  refine ⟨?_, fun last hlast => ⟨Nat.le_of_lt (hlt hlast), (h.within last hlast).2⟩⟩
  rw [h.cut_eq, Option.map_map]
  refine Option.map_congr fun last hlast => ?_
  have hpast : last - place = (last - (place + 1)) + 1 := by
    have := hlt hlast
    omega
  rw [hpast]
  rfl

end Cuts

section Brackets

variable {tokens rest : List Token} {t : Token} {depth place : Nat}

theorem closingFrom_of_some (h : tokens[place]? = some t) : closingFrom tokens depth place =
    if t.opens then closingFrom tokens (depth + 1) (place + 1)
    else if t.closes then do
      let left ← less? depth 1
      if left = 0 then some (some place) else closingFrom tokens left (place + 1)
    else closingFrom tokens depth (place + 1) := by
  rw [closingFrom]
  split
  · next hnone => cases h.symm.trans hnone
  · next u hu =>
    cases h.symm.trans hu
    rfl

theorem closingFrom_of_none (h : tokens[place]? = none) :
    closingFrom tokens depth place = some none := by
  rw [closingFrom]
  split
  · rfl
  · next ht => cases h.symm.trans ht

/-- Where at least one bracket is open, the count never falls below zero. -/
theorem closingFrom_eq (depth : Nat) (hrest : tokens.drop place = rest) :
    ∃ close, closingFrom tokens (depth + 1) place = some close ∧
      CutsAt tokens rest place (bracketedFrom? depth rest) close := by
  induction rest generalizing depth place with
  | nil => exact ⟨none, closingFrom_of_none (getElem?_of_drop_nil hrest), .nowhere []⟩
  | cons t rest ih =>
      have hnext : tokens.drop (place + 1) = rest := drop_succ_of_drop hrest
      rw [closingFrom_of_some (getElem?_of_drop hrest), bracketedFrom?]
      split
      · obtain ⟨close, hclose, hcut⟩ := ih (depth + 1) hnext
        exact ⟨close, hclose, hcut.later t⟩
      split
      · rw [less?_of_le (Nat.le_add_left 1 depth), Nat.add_sub_cancel]
        cases depth with
        | zero => exact ⟨some place, rfl, .here hrest⟩
        | succ depth =>
            obtain ⟨close, hclose, hcut⟩ := ih depth hnext
            exact ⟨close, hclose, hcut.later t⟩
      · obtain ⟨close, hclose, hcut⟩ := ih depth hnext
        exact ⟨close, hclose, hcut.later t⟩

theorem closingAt_eq (hrest : tokens.drop place = t :: rest) (hopens : t.opens = true) :
    ∃ close, closingAt tokens place = some close ∧
      CutsAt tokens rest (place + 1) (bracketed? rest) close := by
  rw [closingAt, closingFrom_of_some (getElem?_of_drop hrest), if_pos hopens]
  exact closingFrom_eq 0 (drop_succ_of_drop hrest)

/-- What stands in brackets is cut out by the places of both. -/
theorem groupAt_eq (hrest : tokens.drop place = t :: rest) (hopens : t.opens = true) :
    ∃ group, groupAt tokens place = some group ∧
      bracketed? rest = group.map (fun (inside, behind) => (inside, tokens.drop behind)) ∧
      ∀ inside behind, group = some (inside, behind) →
        place < behind ∧ behind ≤ tokens.length := by
  obtain ⟨close, hclose, hcut⟩ := closingAt_eq hrest hopens
  rw [groupAt, hclose, hcut.cut_eq]
  cases close with
  | none => exact ⟨none, rfl, rfl, nofun⟩
  | some last =>
      obtain ⟨hfirst, hlast⟩ := hcut.within last rfl
      have hslice := slice?_take (drop_succ_of_drop hrest) hfirst (Nat.le_of_lt hlast)
      refine ⟨some (rest.take (last - (place + 1)), last + 1), ?_, rfl, ?_⟩
      · simp [whenFound, hslice]
      · rintro inside behind ⟨⟩
        exact ⟨Nat.lt_succ_of_lt hfirst, hlast⟩

end Brackets

end DeclaredSchema.Source.ByPlace
