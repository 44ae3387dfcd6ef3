import DeclaredSchema.Proofs.Source.StandingLines

/-! # Looking at places

A text can be read by the places in it, counted from its beginning, instead of by what is left of
it. Then a reading can go wrong: it can look at a place where nothing stands, cut out a slice whose
ends lie beyond the text or in the wrong order, or take a number from a smaller one. What has gone
wrong has no value here (`Checked`), so that a reading by places that has the value of a reading of
what is left never does.
-/

namespace DeclaredSchema.Source.ByPlace

/-- What is computed by looks, slices and differences, or nothing when one of them is none. -/
abbrev Checked (α : Type) := Option α

/-- Goes on with what has been found, if there is something. -/
def whenFound {α β : Type} (found : Checked (Option α)) (next : α → Checked (Option β)) :
    Checked (Option β) := do
  match ← found with
  | none => some none
  | some a => next a

/-- Goes on with what has been read, unless it is refused. -/
def unlessError {ε α β : Type} (read : Checked (Except ε α)) (next : α → Checked (Except ε β)) :
    Checked (Except ε β) := do
  match ← read with
  | .error e => some (.error e)
  | .ok a => next a

/-- If all items have a value, so have all of them together. -/
theorem mapM_eq_some {α β : Type} {read : α → Checked β} {g : α → β} {xs : List α}
    (h : ∀ x ∈ xs, read x = some (g x)) : xs.mapM read = some (xs.map g) := by
  induction xs with
  | nil => rfl
  | cons x xs ih =>
      rw [List.mapM_cons, h x List.mem_cons_self, ih fun y hy => h y (List.mem_cons_of_mem x hy)]
      rfl

section Looks

variable {α : Type}

/-- What stands at a place, where something has to stand. -/
def at? (xs : List α) (place : Nat) : Checked α := xs[place]?

/-- What stands from one place up to another. -/
def slice? (xs : List α) (first last : Nat) : Checked (List α) :=
  if first ≤ last ∧ last ≤ xs.length then some ((xs.take last).drop first) else none

/-- A number without another, which must not be greater. -/
def less? (a b : Nat) : Checked Nat := if b ≤ a then some (a - b) else none

variable {xs middle rest : List α} {x : α} {place first last a b : Nat}

theorem less?_of_le (h : b ≤ a) : less? a b = some (a - b) := if_pos h

theorem slice?_of_le (h : first ≤ last) (hlast : last ≤ xs.length) :
    slice? xs first last = some ((xs.take last).drop first) := if_pos ⟨h, hlast⟩

/-- From a place up to the end of what stands there. -/
theorem slice?_of_drop (h : xs.drop first = middle ++ rest) (hlast : last = first + middle.length)
    (hfirst : first ≤ xs.length) : slice? xs first last = some middle := by
  have hlength : xs.length - first = middle.length + rest.length := by
    rw [← List.length_drop, h, List.length_append]
  subst hlast
  rw [slice?_of_le (Nat.le_add_right _ _) (by omega), List.drop_take, h, Nat.add_sub_cancel_left,
    List.take_left]

/-- From a place up to the end of all. -/
theorem slice?_to_end (h : xs.drop first = rest) (hfirst : first ≤ xs.length) :
    slice? xs first xs.length = some rest := by
  rw [slice?_of_le hfirst (Nat.le_refl _), List.take_length, h]

theorem slice?_take (h : xs.drop first = rest) (hle : first ≤ last) (hlast : last ≤ xs.length) :
    slice? xs first last = some (rest.take (last - first)) := by
  rw [slice?_of_le hle hlast, List.drop_take, h]

theorem getElem?_of_drop (h : xs.drop place = x :: rest) : xs[place]? = some x := by
  rw [← Nat.add_zero place, ← List.getElem?_drop, h]
  rfl

theorem getElem?_of_drop_nil (h : xs.drop place = []) : xs[place]? = none :=
  List.getElem?_eq_none_iff.mpr (List.drop_eq_nil_iff.mp h)

theorem drop_succ_of_drop (h : xs.drop place = x :: rest) : xs.drop (place + 1) = rest := by
  rw [← List.tail_drop, h]
  rfl

theorem drop_add_of_drop (h : xs.drop place = middle ++ rest) :
    xs.drop (place + middle.length) = rest := by
  rw [← List.drop_drop, h, List.drop_left]

theorem lt_length_of_drop (h : xs.drop place = x :: rest) : place < xs.length :=
  (List.getElem?_eq_some_iff.mp (getElem?_of_drop h)).1

theorem drop_of_getElem? (h : xs[place]? = some x) : xs.drop place = x :: xs.drop (place + 1) := by
  obtain ⟨hlt, rfl⟩ := List.getElem?_eq_some_iff.mp h
  exact List.drop_eq_getElem_cons hlt

theorem drop_of_getElem?_none (h : xs[place]? = none) : xs.drop place = [] :=
  List.drop_eq_nil_iff.mpr (List.getElem?_eq_none_iff.mp h)

theorem getElem?_add_of_drop (h : xs.drop place = rest) (n : Nat) : xs[place + n]? = rest[n]? := by
  rw [← List.getElem?_drop, h]

end Looks

section PastWhile

variable {α : Type}

/-- The first place from a given one on where a property ends. -/
def pastWhile (p : α → Bool) (items : List α) (place : Nat) : Nat :=
  match _h : items[place]? with
  | some a => if p a then pastWhile p items (place + 1) else place
  | none => place
termination_by items.length - place
decreasing_by
  have := (List.getElem?_eq_some_iff.mp _h).1
  omega

theorem pastWhile_eq (p : α → Bool) (items : List α) (place : Nat) :
    pastWhile p items place = place + ((items.drop place).takeWhile p).length := by
  fun_induction pastWhile p items place with
  | case1 place a h ha ih =>
      rw [ih, drop_of_getElem? h, List.takeWhile_cons_of_pos ha, List.length_cons]
      omega
  | case2 place a h ha =>
      rw [drop_of_getElem? h, List.takeWhile_cons_of_neg (by simpa using ha)]
      rfl
  | case3 place h =>
      rw [drop_of_getElem?_none h]
      rfl

/-- The items in front of that place, and those from it on. -/
theorem slice?_pastWhile (p : α → Bool) {items rest : List α} {place : Nat}
    (hrest : items.drop place = rest) (hplace : place ≤ items.length) :
    slice? items place (pastWhile p items place) = some (rest.takeWhile p) ∧
      items.drop (pastWhile p items place) = rest.dropWhile p ∧
      place ≤ pastWhile p items place ∧ pastWhile p items place ≤ items.length := by
  have happend : items.drop place = rest.takeWhile p ++ rest.dropWhile p :=
    hrest.trans List.takeWhile_append_dropWhile.symm
  have hlength := congrArg List.length happend
  rw [List.length_drop, List.length_append] at hlength
  rw [pastWhile_eq, hrest]
  exact ⟨slice?_of_drop happend rfl hplace, drop_add_of_drop happend, by omega, by omega⟩

end PastWhile

end DeclaredSchema.Source.ByPlace
