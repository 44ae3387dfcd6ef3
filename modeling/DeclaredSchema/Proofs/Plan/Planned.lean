import DeclaredSchema.Proofs.Plan.DeclaredDiff
import DeclaredSchema.Proofs.Store.Memory

/-! # Which operations a plan can hold

`Planned` gives, for every kind of operation, what has to be declared and what the store has to
hold for a plan to contain it. No two operations of a plan create collections of one name.
-/

namespace DeclaredSchema.Plan

/-- An operation that the classes, the store's collections and the mode ask for. The class it comes
from is the first of its name. -/
inductive Planned (classes : List Collection) (snapshot : Snapshot) (mode : PlanMode) :
    Operation → Prop where
  | createCollection {c : Collection} (first : classes.find? (·.name == c.name) = some c)
      (absent : snapshot.named c.name = []) :
      Planned classes snapshot mode
        (.createCollection { c with attributes := collapse c.attributes })
  | createPending {c : Collection} {a : Attribute}
      (first : classes.find? (·.name == c.name) = some c) (mem : a ∈ collapse c.attributes)
      (absent : snapshot.named c.name = []) :
      Planned classes snapshot mode (.createAttribute (.pending c.name) a)
  | createExisting {c : Collection} {a : Attribute} {remote : RemoteCollection}
      (first : classes.find? (·.name == c.name) = some c) (mem : a ∈ collapse c.attributes)
      (update : mode = .update) (single : snapshot.named c.name = [remote])
      (absent : remote.attribute? a.key = none) :
      Planned classes snapshot mode (.createAttribute (.existing remote.id remote.name) a)
  | updateAttribute {c : Collection} {a : Attribute} {remote : RemoteCollection}
      {e : RemoteAttribute} (first : classes.find? (·.name == c.name) = some c)
      (mem : a ∈ collapse c.attributes) (update : mode = .update)
      (single : snapshot.named c.name = [remote]) (held : remote.attribute? a.key = some e)
      (kind : e.kind = some a.kind) :
      Planned classes snapshot mode (.updateAttribute remote.id remote.name a e)

theorem Planned.of_updateAttribute {classes : List Collection} {snapshot : Snapshot}
    {mode : PlanMode} {id name : String} {a : Attribute} {e : RemoteAttribute}
    (h : Planned classes snapshot mode (.updateAttribute id name a e)) :
    mode = .update ∧ ∃ c remote, classes.find? (·.name == c.name) = some c ∧
      a ∈ collapse c.attributes ∧ snapshot.named c.name = [remote] ∧ remote.id = id ∧
      remote.attribute? a.key = some e ∧ e.kind = some a.kind := by
  cases h with
  | updateAttribute first mem update single held kind =>
      exact ⟨update, _, _, first, mem, single, rfl, held, kind⟩

/-! ## Operations of one class -/

theorem operations_forNew (c : Collection) : (forNew c).operations =
    .createCollection { c with attributes := collapse c.attributes } ::
      (collapse c.attributes).map (.createAttribute (.pending c.name)) := rfl

theorem operations_forExisting (remote : RemoteCollection) (c : Collection) :
    (forExisting remote c).operations =
      (collapse c.attributes).flatMap fun a => (forAttribute remote a).operations := by
  rw [forExisting, operations_foldr_append, List.flatMap_map]

/-- A class whose name is taken asks for nothing. -/
theorem operations_forClass_of_taken {snapshot : Snapshot} {mode : PlanMode}
    {before : List Collection} {c : Collection} (h : ∃ b ∈ before, b.name = c.name) :
    (forClass snapshot mode before c).operations = [] := by
  obtain ⟨b, hb, hn⟩ := h
  cases hf : before.find? (·.name == c.name) with
  | none => exact absurd hn (by simpa using List.find?_eq_none.mp hf b hb)
  | some first => rw [forClass, hf]; rfl

theorem operations_forClass_of_free {snapshot : Snapshot} {mode : PlanMode}
    {before : List Collection} {c : Collection} (h : ∀ b ∈ before, b.name ≠ c.name) :
    (forClass snapshot mode before c).operations =
      (forRemotes c mode (snapshot.named c.name)).operations := by
  have hf : before.find? (·.name == c.name) = none := by simpa using h
  rw [forClass, hf]
  rfl

theorem mem_operations_forAttribute {remote : RemoteCollection} {a : Attribute} {op : Operation}
    (h : op ∈ (forAttribute remote a).operations) :
    (remote.attribute? a.key = none ∧ op = .createAttribute (.existing remote.id remote.name) a) ∨
      ∃ e, remote.attribute? a.key = some e ∧ e.kind = some a.kind ∧
        op = .updateAttribute remote.id remote.name a e := by
  unfold forAttribute at h
  cases he : remote.attribute? a.key with
  | none => exact Or.inl ⟨rfl, by simpa [he] using h⟩
  | some e =>
      by_cases hk : e.kind = some a.kind
      · exact Or.inr ⟨e, rfl, hk, by simpa [he, hk] using h⟩
      · simp [he, hk] at h

theorem planned_of_mem_forRemotes {classes : List Collection} {snapshot : Snapshot}
    {mode : PlanMode} {c : Collection} (first : classes.find? (·.name == c.name) = some c)
    {op : Operation} (h : op ∈ (forRemotes c mode (snapshot.named c.name)).operations) :
    Planned classes snapshot mode op := by
  cases hr : snapshot.named c.name with
  | nil =>
      rw [hr, forRemotes, operations_forNew] at h
      rcases List.mem_cons.mp h with rfl | h
      · exact .createCollection first hr
      · obtain ⟨a, ha, rfl⟩ := List.mem_map.mp h
        exact .createPending first ha hr
  | cons remote others =>
      cases mode with
      | createOnly => simp [hr, forRemotes, leaveOut] at h
      | update =>
          cases others with
          | cons other others => simp [hr, forRemotes, leaveOut] at h
          | nil =>
              have hop : op ∈ (forExisting remote c).operations := by
                simpa [hr, forRemotes] using h
              rw [operations_forExisting] at hop
              obtain ⟨a, ha, hop⟩ := List.mem_flatMap.mp hop
              rcases mem_operations_forAttribute hop with ⟨absent, rfl⟩ | ⟨e, held, kind, rfl⟩
              · exact .createExisting first ha rfl hr absent
              · exact .updateAttribute first ha rfl hr held kind

theorem planned_of_mem_after {snapshot : Snapshot} {mode : PlanMode}
    {before classes : List Collection} {op : Operation}
    (h : op ∈ (after snapshot mode before classes).operations) :
    Planned (before ++ classes) snapshot mode op := by
  induction classes generalizing before with
  | nil => simp [after, empty] at h
  | cons c rest ih =>
      rw [after, append_operations, List.mem_append] at h
      rcases h with h | h
      · by_cases hfree : ∀ b ∈ before, b.name ≠ c.name
        · rw [operations_forClass_of_free hfree] at h
          refine planned_of_mem_forRemotes ?_ h
          rw [List.find?_append, List.find?_eq_none.mpr (by simpa using hfree)]
          simp
        · push Not at hfree
          simp [operations_forClass_of_taken hfree] at h
      · simpa using ih h

/-- Whatever a plan holds is asked for. -/
theorem planned_of_mem {classes : List Collection} {snapshot : Snapshot} {mode : PlanMode}
    {op : Operation} (h : op ∈ (plan classes snapshot mode).operations) :
    Planned classes snapshot mode op := by
  simpa using planned_of_mem_after h

/-! ## Names of created collections -/

/-- The name of the collection that an operation creates. -/
def creation? : Operation → Option String
  | .createCollection c => some c.name
  | _ => none

def creations (operations : List Operation) : List String := operations.filterMap creation?

theorem creations_append (xs ys : List Operation) :
    creations (xs ++ ys) = creations xs ++ creations ys := List.filterMap_append

theorem creations_forRemotes (c : Collection) (mode : PlanMode) (remotes : List RemoteCollection) :
    creations (forRemotes c mode remotes).operations = if remotes = [] then [c.name] else [] := by
  have hnone (ops : List Operation) (h : ∀ op ∈ ops, creation? op = none) :
      creations ops = [] := List.filterMap_eq_nil_iff.mpr h
  cases remotes with
  | nil =>
      have hattributes : creations ((collapse c.attributes).map
          (.createAttribute (.pending c.name))) = [] := by
        apply hnone
        intro op hop
        obtain ⟨a, -, rfl⟩ := List.mem_map.mp hop
        rfl
      rw [if_pos rfl, forRemotes, operations_forNew]
      exact congrArg (c.name :: ·) hattributes
  | cons remote others =>
      rw [if_neg (by simp)]
      apply hnone
      intro op hop
      cases mode with
      | createOnly => simp [forRemotes, leaveOut] at hop
      | update =>
          cases others with
          | cons other others => simp [forRemotes, leaveOut] at hop
          | nil =>
              have hop : op ∈ (forExisting remote c).operations := by simpa [forRemotes] using hop
              rw [operations_forExisting] at hop
              obtain ⟨a, -, hop⟩ := List.mem_flatMap.mp hop
              rcases mem_operations_forAttribute hop with ⟨-, rfl⟩ | ⟨e, -, -, rfl⟩ <;> rfl

/-- The classes passed so far create nothing any more. -/
theorem creations_after (snapshot : Snapshot) (mode : PlanMode) (before classes : List Collection) :
    (creations (after snapshot mode before classes).operations).Nodup ∧
      ∀ name ∈ creations (after snapshot mode before classes).operations,
        name ∉ before.map (·.name) ∧ snapshot.named name = [] := by
  induction classes generalizing before with
  | nil => simp [after, empty, creations]
  | cons c rest ih =>
      obtain ⟨hnodup, hrest⟩ := ih (before ++ [c])
      rw [after, append_operations, creations_append]
      have hout : ∀ name ∈ creations (after snapshot mode (before ++ [c]) rest).operations,
          name ≠ c.name ∧ name ∉ before.map (·.name) ∧ snapshot.named name = [] := by
        intro name hn
        obtain ⟨hb, ha⟩ := hrest name hn
        rw [List.map_append, List.mem_append, not_or] at hb
        exact ⟨by simpa using hb.2, hb.1, ha⟩
      by_cases hfree : ∀ b ∈ before, b.name ≠ c.name
      · rw [operations_forClass_of_free hfree, creations_forRemotes]
        by_cases hr : snapshot.named c.name = []
        · rw [if_pos hr, List.singleton_append]
          refine ⟨List.nodup_cons.mpr ⟨fun hm => (hout _ hm).1 rfl, hnodup⟩, ?_⟩
          intro name hn
          rcases List.mem_cons.mp hn with rfl | hn
          · exact ⟨by simpa using hfree, hr⟩
          · exact (hout name hn).2
        · rw [if_neg hr, List.nil_append]
          exact ⟨hnodup, fun name hn => (hout name hn).2⟩
      · push Not at hfree
        rw [operations_forClass_of_taken hfree]
        exact ⟨hnodup, fun name hn => (hout name hn).2⟩

theorem nodup_creations_plan (classes : List Collection) (snapshot : Snapshot) (mode : PlanMode) :
    (creations (plan classes snapshot mode).operations).Nodup :=
  (creations_after snapshot mode [] classes).1

theorem named_of_mem_creations {classes : List Collection} {snapshot : Snapshot} {mode : PlanMode}
    {name : String} (h : name ∈ creations (plan classes snapshot mode).operations) :
    name ∉ snapshot.names :=
  Snapshot.named_eq_nil.mp ((creations_after snapshot mode [] classes).2 name h).2

end DeclaredSchema.Plan
