import DeclaredSchema.Proofs.Plan.Planned
import Mathlib.Data.Prod.Basic

/-! # The order of a plan

A plan sends no attribute twice, and an attribute of a collection that is still to be created stands
behind the creation. So whatever an operation needs has been prepared by those before it, and
nothing that they did is in its way.
-/

namespace DeclaredSchema.Plan

/-! ## Attributes that are sent -/

/-- The collection's name and the key of the attribute that an operation sends. -/
def touched? : Operation → Option (String × String)
  | .createCollection _ => none
  | .createAttribute ref a => some (ref.name, a.key)
  | .updateAttribute _ name a _ => some (name, a.key)

def touched (operations : List Operation) : List (String × String) := operations.filterMap touched?

theorem touched_append (xs ys : List Operation) :
    touched (xs ++ ys) = touched xs ++ touched ys := List.filterMap_append

theorem touched_forAttribute (remote : RemoteCollection) (a : Attribute) :
    (touched (forAttribute remote a).operations).Sublist [(remote.name, a.key)] := by
  unfold forAttribute
  cases remote.attribute? a.key with
  | none => exact List.Sublist.refl _
  | some e =>
      by_cases hk : e.kind = some a.kind
      · simp [hk, touched, touched?]
      · simp [hk, touched]

theorem touched_forExisting (remote : RemoteCollection) (c : Collection) :
    (touched (forExisting remote c).operations).Sublist
      ((collapse c.attributes).map fun a => (remote.name, a.key)) := by
  rw [operations_forExisting]
  induction collapse c.attributes with
  | nil => exact List.Sublist.refl _
  | cons a rest ih =>
      rw [List.flatMap_cons, touched_append, List.map_cons]
      exact (touched_forAttribute remote a).append ih

/-- One class sends attributes of its own collection, in the order of its keys. -/
theorem touched_forRemotes (snapshot : Snapshot) (mode : PlanMode) (c : Collection) :
    (touched (forRemotes c mode (snapshot.named c.name)).operations).Sublist
      ((collapse c.attributes).map fun a => (c.name, a.key)) := by
  cases hr : snapshot.named c.name with
  | nil =>
      have hmap : touched ((collapse c.attributes).map (.createAttribute (.pending c.name))) =
          (collapse c.attributes).map fun a => (c.name, a.key) := by
        rw [touched, List.filterMap_map, ← List.filterMap_eq_map]
        rfl
      rw [forRemotes, operations_forNew, touched, List.filterMap_cons_none rfl]
      exact hmap ▸ List.Sublist.refl _
  | cons remote others =>
      have hname : remote.name = c.name := (Snapshot.mem_named.mp (hr ▸ List.mem_cons_self)).2
      cases mode with
      | createOnly => exact List.nil_sublist _
      | update =>
          cases others with
          | cons other others => exact List.nil_sublist _
          | nil => exact hname ▸ touched_forExisting remote c

/-- The classes passed so far send nothing any more. -/
theorem touched_after (snapshot : Snapshot) (mode : PlanMode) (before classes : List Collection) :
    (touched (after snapshot mode before classes).operations).Nodup ∧
      ∀ p ∈ touched (after snapshot mode before classes).operations,
        p.1 ∉ before.map (·.name) := by
  induction classes generalizing before with
  | nil => simp [after, empty, touched]
  | cons c rest ih =>
      obtain ⟨hnodup, hrest⟩ := ih (before ++ [c])
      rw [after, append_operations, touched_append]
      have hout : ∀ p ∈ touched (after snapshot mode (before ++ [c]) rest).operations,
          p.1 ≠ c.name ∧ p.1 ∉ before.map (·.name) := by
        intro p hp
        have hb := hrest p hp
        rw [List.map_append, List.mem_append, not_or] at hb
        exact ⟨by simpa using hb.2, hb.1⟩
      by_cases hfree : ∀ b ∈ before, b.name ≠ c.name
      · rw [operations_forClass_of_free hfree]
        have hsub := touched_forRemotes snapshot mode c
        have hkeys : ((collapse c.attributes).map fun a => (c.name, a.key)).Nodup := by
          have hpair := (nodup_keys_collapse c.attributes).map (Prod.mk_right_injective c.name)
          rwa [List.map_map] at hpair
        have hown : ∀ p ∈ touched (forRemotes c mode (snapshot.named c.name)).operations,
            p.1 = c.name := by
          intro p hp
          obtain ⟨a, -, rfl⟩ := List.mem_map.mp (hsub.subset hp)
          rfl
        refine ⟨List.nodup_append.mpr ⟨hsub.nodup hkeys, hnodup, ?_⟩, ?_⟩
        · rintro p hp q hq rfl
          exact (hout p hq).1 (hown p hp)
        · intro p hp
          rcases List.mem_append.mp hp with hp | hp
          · rw [hown p hp]
            simpa using hfree
          · exact (hout p hp).2
      · push Not at hfree
        rw [operations_forClass_of_taken hfree]
        exact ⟨hnodup, fun p hp => (hout p hp).2⟩

/-- No two operations of a plan send the same attribute. -/
theorem nodup_touched_plan (classes : List Collection) (snapshot : Snapshot) (mode : PlanMode) :
    (touched (plan classes snapshot mode).operations).Nodup :=
  (touched_after snapshot mode [] classes).1

/-! ## Creations first -/

/-- Every attribute of a collection to be created stands behind the creation. -/
def Ordered (operations : List Operation) : Prop :=
  ∀ n name a, operations[n]? = some (.createAttribute (.pending name) a) →
    name ∈ creations (operations.take n)

theorem Ordered.append {xs ys : List Operation} (hx : Ordered xs) (hy : Ordered ys) :
    Ordered (xs ++ ys) := by
  intro n name a h
  rw [List.take_append, creations_append, List.mem_append]
  by_cases hn : n < xs.length
  · rw [List.getElem?_append_left hn] at h
    exact Or.inl (hx n name a h)
  · rw [List.getElem?_append_right (by omega)] at h
    exact Or.inr (hy _ name a h)

theorem ordered_of_existing {operations : List Operation}
    (h : ∀ name a, .createAttribute (.pending name) a ∉ operations) : Ordered operations :=
  fun _ name a hop => absurd (List.mem_of_getElem? hop) (h name a)

theorem ordered_forNew (c : Collection) : Ordered (forNew c).operations := by
  intro n name a h
  rw [operations_forNew] at h ⊢
  cases n with
  | zero => cases h
  | succ n =>
      rw [List.getElem?_cons_succ] at h
      obtain ⟨b, -, hb⟩ := List.mem_map.mp (List.mem_of_getElem? h)
      cases hb
      simp [creations, creation?]

theorem ordered_forRemotes (c : Collection) (mode : PlanMode) (remotes : List RemoteCollection) :
    Ordered (forRemotes c mode remotes).operations := by
  cases remotes with
  | nil => exact ordered_forNew c
  | cons remote others =>
      apply ordered_of_existing
      intro name a hop
      cases mode with
      | createOnly => simp [forRemotes, leaveOut] at hop
      | update =>
          cases others with
          | cons other others => simp [forRemotes, leaveOut] at hop
          | nil =>
              have hop : Operation.createAttribute (.pending name) a ∈
                  (forExisting remote c).operations := by simpa [forRemotes] using hop
              rw [operations_forExisting] at hop
              obtain ⟨b, -, hop⟩ := List.mem_flatMap.mp hop
              rcases mem_operations_forAttribute hop with ⟨-, h⟩ | ⟨e, -, -, h⟩ <;> cases h

theorem ordered_after (snapshot : Snapshot) (mode : PlanMode) (before classes : List Collection) :
    Ordered (after snapshot mode before classes).operations := by
  induction classes generalizing before with
  | nil => simp [after, empty, Ordered]
  | cons c rest ih =>
      rw [after, append_operations]
      refine Ordered.append ?_ (ih _)
      by_cases hfree : ∀ b ∈ before, b.name ≠ c.name
      · rw [operations_forClass_of_free hfree]
        exact ordered_forRemotes c mode _
      · push Not at hfree
        rw [operations_forClass_of_taken hfree]
        exact ordered_of_existing (by simp)

theorem ordered_plan (classes : List Collection) (snapshot : Snapshot) (mode : PlanMode) :
    Ordered (plan classes snapshot mode).operations := ordered_after snapshot mode [] classes

end DeclaredSchema.Plan
