import DeclaredSchema.Proofs.Store.Rehearsal
import DeclaredSchema.Proofs.Store.Results

/-! # Running again after refused calls

Whatever calls a first run was refused, an update after it leaves under every name what an update of
the store as it was at first leaves, up to the order of what is new and the ids that were generated.
The comparison is made name by name, from what `Leaves` says of each of the three runs.
-/

namespace DeclaredSchema

open MemoryStore Snapshot

/-- Two collections that differ at most in an id that was generated, if the store `held` none of
their name, and in the order of the attributes that came behind those it held. -/
structure SameBut (held : List RemoteCollection) (c d : RemoteCollection) : Prop where
  name : c.name = d.name
  id : c.id = d.id ∨ held = [] ∧ (∃ n, c.id = generatedId n) ∧ ∃ n, d.id = generatedId n
  attributes : ∃ kept added added', c.attributes = kept ++ added ∧
    d.attributes = kept ++ added' ∧ added.Perm added' ∧
    ∀ b ∈ held, b.id = d.id → kept.length = b.attributes.length

theorem SameBut.refl {held : List RemoteCollection} (distinct : ids held |>.Nodup)
    {c : RemoteCollection} (hc : c ∈ held) : SameBut held c c where
  name := rfl
  id := Or.inl rfl
  attributes := by
    refine ⟨c.attributes, [], [], by simp, by simp, .nil, ?_⟩
    intro b hb hid
    rw [eq_of_id_eq distinct hb hc hid]

namespace Leaves

variable {now : Instant} {failing : List String} {mode : PlanMode} {d : Collection}
  {held broken repaired done : List RemoteCollection}

/-! ## Updates that no call refuses -/

theorem of_update_nil (h : Leaves now [] .update d [] done) : ∃ n, done =
    [⟨generatedId n, d.name, revised now (Plan.collapse d.attributes) []⟩] := by
  cases h with
  | refused hfail => cases hfail
  | created _ n => exact ⟨n, by rw [passing_nil]⟩
  | leftAlone nonempty => exact absurd rfl nonempty

theorem of_update_singleton {c : RemoteCollection} (h : Leaves now [] .update d [c] done) : done =
    [{ c with attributes := revised now (Plan.collapse d.attributes) c.attributes }] := by
  cases h with
  | updated => rw [passing_nil]
  | leftAlone _ several => exact absurd rfl (several rfl)

theorem of_update_several (h : Leaves now [] .update d held done) (nonempty : held ≠ [])
    (several : held.length ≠ 1) : done = held := by
  cases h with
  | refused => exact absurd rfl nonempty
  | created => exact absurd rfl nonempty
  | updated => exact absurd rfl several
  | leftAlone => rfl

/-! ## The first run and the one after it -/

/-- The update after a first run leaves of a name what an update at first leaves. -/
theorem repair (distinct : (ids held).Nodup) (back : ∀ c ∈ held, ∀ e ∈ c.attributes, e.WritesBack)
    (first : Leaves now failing mode d held broken)
    (again : Leaves now [] .update d broken repaired)
    (once : Leaves now [] .update d held done) : List.Forall₂ (SameBut held) repaired done := by
  have hkeys := Plan.nodup_keys_collapse d.attributes
  cases first with
  | refused =>
      obtain ⟨m, rfl⟩ := of_update_nil again
      obtain ⟨n, rfl⟩ := of_update_nil once
      refine .cons ⟨rfl, Or.inr ⟨rfl, ⟨m, rfl⟩, ⟨n, rfl⟩⟩, ?_⟩ .nil
      exact ⟨[], _, _, rfl, rfl, .refl _, by simp⟩
  | created _ m =>
      obtain rfl := of_update_singleton again
      obtain ⟨n, rfl⟩ := of_update_nil once
      obtain ⟨kept, added, added', h, h', -, hperm⟩ := revised_revised_filter hkeys
        (List.forall_mem_nil _) fun a => !failing.contains a.key
      refine .cons ⟨rfl, Or.inr ⟨rfl, ⟨m, rfl⟩, ⟨n, rfl⟩⟩, ?_⟩ .nil
      exact ⟨kept, added, added', h, h', hperm, by simp⟩
  | updated _ c =>
      obtain rfl := of_update_singleton again
      obtain rfl := of_update_singleton once
      obtain ⟨kept, added, added', h, h', hlength, hperm⟩ := revised_revised_filter hkeys
        (back c (List.mem_singleton_self c)) fun a => !failing.contains a.key
      refine .cons ⟨rfl, Or.inl rfl, kept, added, added', h, h', hperm, ?_⟩ .nil
      intro b hb _
      rw [List.mem_singleton.mp hb, hlength]
  | leftAlone nonempty =>
      match held, nonempty with
      | [c], _ =>
          obtain rfl := of_update_singleton again
          obtain rfl := of_update_singleton once
          obtain ⟨kept, -, added, -, h, hlength, -⟩ := revised_revised_filter hkeys
            (back c (List.mem_singleton_self c)) fun _ => false
          refine .cons ⟨rfl, Or.inl rfl, kept, added, added, h, h, .refl _, ?_⟩ .nil
          intro b hb _
          rw [List.mem_singleton.mp hb, hlength]
      | b :: c :: rest, nonempty =>
          obtain rfl := of_update_several again nonempty (by simp)
          obtain rfl := of_update_several once nonempty (by simp)
          exact List.forall₂_same.mpr fun c hc => .refl distinct hc

end Leaves

/-! ## Two runs and one -/

namespace Run

/-- What a run reports. -/
def report (r : Run) (s : MemoryStore) : ApplyReport MemoryStore.Fault :=
  (apply MemoryStore.store (r.plan s).operations r.clock { s with failing := r.failing }).report

variable {r : Run} {s : MemoryStore}

/-- A run without refused calls does all it was asked for. -/
theorem report_eq_ofDone (h : IdsFresh s.collections s.nextId) (hf : r.failing = []) :
    r.report s = .ofDone (r.plan s).operations := by
  have hdone := (rehearsed_after h hf (r.plan s).operations.length).report
  rw [after, List.take_length] at hdone
  exact hdone

/-- A run leaves the ids that were there in their places. -/
theorem ids_prefix_result (h : IdsFresh s.collections s.nextId) :
    s.collections.ids <+: (r.result s).collections.ids := by
  rw [List.prefix_iff_getElem?]
  intro i hi
  have hc : s.collections[i]? = some (s.collections.get ⟨i, by simpa [ids] using hi⟩) := by simp
  obtain ⟨d, hd, hid, -⟩ := (evolves_after (r := r) h (Nat.zero_le _)) i _ hc
  rw [result_eq_after, ids, List.getElem?_map, hd]
  simp [ids, hid]

end Run

/-- After a run in either mode, of which any calls were refused, an update at the same instant with
no refused calls has no failures and leaves nothing out. What it leaves under a name is what a
single such update leaves: the same collections with the same attributes, up to the order of what is
new and the ids that were generated. This holds for every list of classes and whatever snapshot the
store started from; the numbers of a document that is read from a text always fit. -/
theorem refused_runs_are_repaired (classes : List Collection) (now : Instant) (mode : PlanMode)
    (failing : List String) {j : Json} (numbers : j.NumbersFit) {s : Snapshot}
    (parsed : Snapshot.ofJson j = .ok s) (distinct : s.ids.Nodup)
    (unused : ∀ n, generatedId n ∉ s.ids) :
    let update := Run.undisturbed classes now .update
    let broken := { Run.undisturbed classes now mode with failing }.result (ofSnapshot s)
    let repaired := (update.result broken).collections
    let done := (update.result (ofSnapshot s)).collections
    ((update.report broken).failures = [] ∧ (update.report broken).skipped = []) ∧
      (s.ids <+: repaired.ids ∧ s.ids <+: done.ids) ∧
      ∀ name, List.Forall₂ (SameBut (s.named name)) (repaired.named name) (done.named name) := by
  intro update broken repaired done
  have hfresh : IdsFresh (ofSnapshot s).collections (ofSnapshot s).nextId :=
    ⟨distinct, fun n _ => unused n⟩
  have hbroken : IdsFresh broken.collections broken.nextId := Run.idsFresh_result hfresh
  have hreport : update.report broken = .ofDone _ := Run.report_eq_ofDone hbroken rfl
  have hnamed (name : String) : (ids (s.named name)).Nodup :=
    (List.filter_sublist.map _).nodup distinct
  refine ⟨by rw [hreport]; exact ⟨rfl, rfl⟩, ⟨?_, Run.ids_prefix_result hfresh⟩, ?_⟩
  · exact (Run.ids_prefix_result hfresh).trans (Run.ids_prefix_result hbroken)
  · intro name
    obtain ⟨hfirst, hfirst'⟩ := Run.leaves_result
      (r := { Run.undisturbed classes now mode with failing }) hfresh fun _ => rfl
    obtain ⟨hagain, hagain'⟩ := Run.leaves_result (r := update) hbroken fun _ => rfl
    obtain ⟨honce, honce'⟩ := Run.leaves_result (r := update) hfresh fun _ => rfl
    cases hd : classes.find? (·.name == name) with
    | none =>
        have hother : name ∉ classes.map (·.name) := by simpa using hd
        have hsame : repaired.named name = s.named name :=
          (hagain' name hother).trans (hfirst' name hother)
        rw [hsame, honce' name hother]
        exact List.forall₂_same.mpr fun c hc => .refl (hnamed name) hc
    | some d =>
        obtain rfl : d.name = name := by simpa using List.find?_some hd
        have back := Snapshot.writesBack_of_ofJson numbers parsed
        exact Leaves.repair (hnamed d.name) (fun c hc => back c (mem_named.mp hc).1)
          (hfirst d hd) (hagain d hd) (honce d hd)

/-- A class that could not be created, and a key that could not be added. -/
theorem refused_runs_are_repaired_posts :
    let classes : List Collection := [⟨"Note", "note.py", [{ key := "body", kind := .string }]⟩,
      ⟨"Post", "post.py", [⟨"sent", .datetime, false, false, false, some .now, {}⟩,
        { key := "title", kind := .string }]⟩]
    let j : Json := .arr [.obj [("$id", .str "posts"), ("name", .str "Post"), ("attributes",
      .arr [.obj [("key", .str "title"), ("type", .str "string"), ("default", .str "none")]])]]
    let s : Snapshot := [⟨"posts", "Post",
      [⟨"title", some .string, "string", false, some (.str "none"), {}⟩]⟩]
    let update := Run.undisturbed classes ⟨0, 0⟩ .update
    let first : Run := { update with failing := ["sent", "Note"] }
    (j.NumbersFit ∧ Snapshot.ofJson j = .ok s ∧ s.ids.Nodup ∧ ∀ n, generatedId n ∉ s.ids) ∧
      ((first.report (ofSnapshot s)).failures.length = 2 ∧
        (first.report (ofSnapshot s)).skipped.length = 1) ∧
      (update.report (first.result (ofSnapshot s))).failures = [] ∧
      ∀ name, List.Forall₂ (SameBut (s.named name))
        ((update.result (first.result (ofSnapshot s))).collections.named name)
        ((update.result (ofSnapshot s)).collections.named name) := by
  intro classes j s update first
  have numbers : j.NumbersFit := by
    simp [j, Json.NumbersFit, Json.AllNumbersFit, Json.FieldNumbersFit]
  have parsed : Snapshot.ofJson j = .ok s := rfl
  have distinct : s.ids.Nodup := List.nodup_singleton _
  have unused : ∀ n, generatedId n ∉ s.ids := by
    intro n hm
    have hid : generatedId n = "posts" := List.mem_singleton.mp hm
    simp [generatedId, ← String.toList_inj] at hid
  obtain ⟨⟨hfailures, -⟩, -, hnamed⟩ := refused_runs_are_repaired classes ⟨0, 0⟩ .update
    ["sent", "Note"] numbers parsed distinct unused
  exact ⟨⟨numbers, parsed, distinct, unused⟩, ⟨rfl, rfl⟩, hfailures, hnamed⟩

end DeclaredSchema
