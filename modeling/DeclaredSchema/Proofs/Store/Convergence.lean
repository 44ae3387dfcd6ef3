import DeclaredSchema.Proofs.Store.Results

/-! # A second run changes nothing

A run that no call refuses, at one instant, brings every declared attribute that is not in conflict
into the form in which a second update leaves it.
-/

namespace DeclaredSchema

open MemoryStore Snapshot MemoryRun

/-- A second update would leave the attribute as it is, or its kind is in conflict. -/
def Attribute.SettledIn (now : Instant) (c : RemoteCollection) (a : Attribute) : Prop :=
  ∃ e, c.attribute? a.key = some e ∧ (e.kind = some a.kind → stored (a.mergeInto e now) = e)

/-- The collection of a class exists and, as far as updates reach it, all attributes are settled. -/
def Collection.SettledIn (now : Instant) (mode : PlanMode) (s : Snapshot) (c : Collection) : Prop :=
  s.named c.name ≠ [] ∧ (mode = .update → ∀ rc, s.named c.name = [rc] →
    ∀ a ∈ Plan.collapse c.attributes, a.SettledIn now rc)

/-- An update settles what is declared. -/
theorem Attribute.settledIn_revised {now : Instant} {declared : List Attribute}
    (distinct : (declared.map (·.key)).Nodup) {c : RemoteCollection} {held : List RemoteAttribute}
    (back : ∀ e ∈ held, e.WritesBack) (revision : c.attributes = revised now declared held)
    {a : Attribute} (ha : a ∈ declared) : a.SettledIn now c := by
  have hdeclared := Plan.find?_key_of_mem distinct ha
  have hfind : c.attribute? a.key = _ := revision ▸ find?_revised a.key
  cases he : held.find? (·.key == a.key) with
  | none =>
      rw [he, hdeclared] at hfind
      exact ⟨stored (a.concrete now), hfind, fun _ => a.mergeInto_stored_concrete now⟩
  | some e =>
      have hkey : e.key = a.key := by simpa using List.find?_some he
      have hrevise : reviseBy now declared e = a.revise now e := by
        rw [reviseBy, hkey, hdeclared]
      rw [he] at hfind
      refine ⟨a.revise now e, hfind.trans (congrArg some hrevise), ?_⟩
      intro hkind
      calc stored (a.mergeInto (a.revise now e) now)
          = a.revise now (a.revise now e) := (if_pos hkind).symm
        _ = a.revise now e := revise_revise (back e (List.mem_of_find?_eq_some he))

/-- What a run without refused calls leaves is settled. -/
theorem Leaves.settled {now : Instant} {mode : PlanMode} {d : Collection}
    {before : List RemoteCollection} {s : Snapshot}
    (h : Leaves now [] mode d before (s.named d.name))
    (back : ∀ c ∈ before, ∀ e ∈ c.attributes, e.WritesBack) : d.SettledIn now mode s := by
  have hdistinct := Plan.nodup_keys_collapse d.attributes
  unfold Collection.SettledIn
  generalize s.named d.name = after at h ⊢
  cases h with
  | refused hfail => simp at hfail
  | created =>
      refine ⟨List.cons_ne_nil _ _, ?_⟩
      rintro - rc hrc a ha
      obtain rfl := List.singleton_inj.mp hrc
      have hnone : ∀ e ∈ ([] : List RemoteAttribute), e.WritesBack := by simp
      exact Attribute.settledIn_revised hdistinct hnone (by rw [passing_nil]) ha
  | updated _ c =>
      refine ⟨List.cons_ne_nil _ _, ?_⟩
      rintro - rc hrc a ha
      obtain rfl := List.singleton_inj.mp hrc
      exact Attribute.settledIn_revised hdistinct (back c (List.mem_singleton_self c))
        (by rw [passing_nil]) ha
  | leftAlone nonempty several =>
      refine ⟨nonempty, ?_⟩
      rintro hmode rc rfl
      exact absurd rfl (several hmode)

/-- No call is refused and every reading of the clock is `now`. -/
abbrev MemoryRun.Quiet (now : Instant) (u : MemoryRun) : Prop := Steady now [] u

/-! ## The second run -/

/-- Of settled classes a plan asks for updates only, and these give attributes that are there. -/
theorem Plan.Planned.update_of_settled {now : Instant} {classes : List Collection} {s : Snapshot}
    {mode : PlanMode}
    (settled : ∀ d, classes.find? (·.name == d.name) = some d → d.SettledIn now mode s)
    {op : Operation} (h : Planned classes s mode op) :
    mode = .update ∧ ∃ c a e, op = .updateAttribute c.id c.name a e ∧ c ∈ s ∧
      c.attribute? a.key = some e ∧ stored (a.mergeInto e now) = e := by
  cases h with
  | createCollection first absent => exact absurd absent (settled _ first).1
  | createPending first mem absent => exact absurd absent (settled _ first).1
  | createExisting first mem update single absent =>
      obtain ⟨e, he, -⟩ := (settled _ first).2 update _ single _ mem
      rw [absent] at he
      cases he
  | @updateAttribute d a c e first mem update single held kind =>
      obtain ⟨f, hf, hfixed⟩ := (settled _ first).2 update _ single _ mem
      obtain rfl : e = f := Option.some.inj (held.symm.trans hf)
      have hc : c ∈ s := (mem_named.mp (single ▸ List.mem_singleton_self c)).1
      exact ⟨update, c, a, e, rfl, hc, held, hfixed kind⟩

/-- Updates that give attributes that are there leave the collections as they are. -/
theorem MemoryRun.run_updates {now : Instant} {u : MemoryRun} (total : Nat) (hq : Quiet now u)
    {operations : List Operation}
    (h : ∀ op ∈ operations, ∃ c a e, op = .updateAttribute c.id c.name a e ∧
      c ∈ u.store.collections ∧ c.attribute? a.key = some e ∧ stored (a.mergeInto e now) = e) :
    (operations.foldl (step total) u).store.collections = u.store.collections ∧
      (operations.foldl (step total) u).store.nextId = u.store.nextId ∧
      (operations.foldl (step total) u).store.failing = u.store.failing := by
  induction operations generalizing u with
  | nil => exact ⟨rfl, rfl, rfl⟩
  | cons op rest ih =>
      obtain ⟨c, a, e, rfl, hc, he, hfixed⟩ := h op List.mem_cons_self
      obtain ⟨hkey, before, after, hsplit, hfirst⟩ := List.find?_eq_some_iff_append.mp he
      have hkey : e.key = a.key := by simpa using hkey
      have hfirst : ∀ y ∈ before, y.key ≠ a.key := by simpa using hfirst
      have hsent : a.key ∉ u.store.failing := by simp [hq.refusing]
      obtain ⟨hcollections, hnext, -⟩ := step_updateAttribute_done total hq.ids.distinct hsent
        hc c.name e hsplit hfirst hkey
      have hnow : u.clock.now = now := hq.clock _
      rw [hnow, hfixed, ← hsplit, setAttributes_attributes hq.ids.distinct hc] at hcollections
      have hstep : Quiet now (u.step total (.updateAttribute c.id c.name a e)) := by
        apply hq.step
        rw [hcollections, hnext]
        exact hq.ids
      have hrest := ih hstep (by
        rw [hcollections]
        exact fun op hop => h op (List.mem_cons_of_mem _ hop))
      rw [List.foldl_cons, hrest.1, hrest.2.1, hrest.2.2, hcollections, hnext, step_failing]
      exact ⟨rfl, rfl, rfl⟩

theorem Run.quiet_start (classes : List Collection) (now : Instant) (mode : PlanMode)
    {s : MemoryStore} (h : IdsFresh s.collections s.nextId) :
    MemoryRun.Quiet now ((undisturbed classes now mode).start s) :=
  ⟨h, rfl, fun _ => rfl⟩

/-- An undisturbed run settles every class that is the first of its name. -/
theorem Run.settled_result (classes : List Collection) (now : Instant) (mode : PlanMode)
    {s : MemoryStore} (h : IdsFresh s.collections s.nextId)
    (back : ∀ c ∈ s.collections, ∀ e ∈ c.attributes, e.WritesBack) :
    ((undisturbed classes now mode).result s).failing = [] ∧
      ∀ d, classes.find? (·.name == d.name) = some d →
        d.SettledIn now mode ((undisturbed classes now mode).result s).collections := by
  have hstill : ∀ n, (undisturbed classes now mode).clock.reading n = now := fun _ => rfl
  obtain ⟨hleaves, -⟩ := leaves_result h hstill
  refine ⟨failing_result h hstill, fun d first => (hleaves d first).settled ?_⟩
  exact fun c hc => back c (mem_named.mp hc).1

/-- After an update at one instant and without refused calls, a second one creates nothing and
leaves the store as it is, its log apart; after a run in create-only mode a second one has nothing
to do. This holds for every list of classes and whatever snapshot the store started from; the
numbers of a document that is read from a text always fit. -/
theorem repeated_runs_converge (classes : List Collection) (now : Instant) {j : Json}
    (numbers : j.NumbersFit) {s : Snapshot} (parsed : Snapshot.ofJson j = .ok s)
    (distinct : s.ids.Nodup) (unused : ∀ n, generatedId n ∉ s.ids) :
    let run := Run.undisturbed classes now
    let updated := (run .update).result (ofSnapshot s)
    let created := (run .createOnly).result (ofSnapshot s)
    ((run .update).plan updated).collectionsToCreate = 0 ∧
      ((run .update).plan updated).attributesToCreate = 0 ∧
      (run .update).result updated =
        { updated with log := ((run .update).result updated).log } ∧
      ((run .createOnly).plan created).operations = [] := by
  intro run updated created
  have hfresh : IdsFresh (ofSnapshot s).collections (ofSnapshot s).nextId :=
    ⟨distinct, fun n _ => unused n⟩
  have back := Snapshot.writesBack_of_ofJson numbers parsed
  obtain ⟨hpassing, hupdated⟩ := Run.settled_result classes now .update hfresh back
  obtain ⟨-, hcreated⟩ := Run.settled_result classes now .createOnly hfresh back
  have hupdates : ∀ op ∈ ((run .update).plan updated).operations, ∃ c a e,
      op = .updateAttribute c.id c.name a e ∧ c ∈ updated.collections ∧
        c.attribute? a.key = some e ∧ stored (a.mergeInto e now) = e :=
    fun op hop => ((Plan.planned_of_mem hop).update_of_settled hupdated).2
  have hcount (kind : Operation → Bool)
      (hkind : ∀ id name a e, kind (.updateAttribute id name a e) = false) :
      ((run .update).plan updated).operations.countP kind = 0 := by
    rw [List.countP_eq_zero]
    intro op hop
    obtain ⟨c, a, e, rfl, -⟩ := hupdates op hop
    simp [hkind]
  refine ⟨hcount _ fun _ _ _ _ => rfl, hcount _ fun _ _ _ _ => rfl, ?_, ?_⟩
  · have hstart : MemoryRun.Quiet now ((run .update).start updated) :=
      Run.quiet_start classes now .update (Run.idsFresh_result hfresh)
    obtain ⟨hcollections, hnext, hfailing⟩ :=
      MemoryRun.run_updates ((run .update).plan updated).operations.length hstart hupdates
    have hfields (t : MemoryStore) (h1 : t.collections = updated.collections)
        (h2 : t.nextId = updated.nextId) (h3 : t.failing = updated.failing) :
        t = { updated with log := t.log } := by
      rw [← h1, ← h2, ← h3]
    exact hfields _ hcollections hnext (hfailing.trans hpassing.symm)
  · rw [List.eq_nil_iff_forall_not_mem]
    intro op hop
    have hmode := ((Plan.planned_of_mem hop).update_of_settled hcreated).1
    cases hmode

/-- A title whose default is left to the store, and an instant that is new. -/
theorem repeated_runs_converge_posts :
    let classes : List Collection := [⟨"Post", "post.py",
      [⟨"title", .string, true, true, false, none, { size := some (.int 80) }⟩,
        ⟨"sent", .datetime, false, false, false, some .now, {}⟩]⟩]
    let j : Json := .arr [.obj [("$id", .str "posts"), ("name", .str "Post"), ("attributes",
      .arr [.obj [("key", .str "title"), ("type", .str "string"), ("default", .str "none")]])]]
    let s : Snapshot := [⟨"posts", "Post",
      [⟨"title", some .string, "string", false, some (.str "none"), {}⟩]⟩]
    let run := Run.undisturbed classes ⟨0, 0⟩
    (j.NumbersFit ∧ Snapshot.ofJson j = .ok s ∧ s.ids.Nodup ∧ ∀ n, generatedId n ∉ s.ids) ∧
      ((run .update).plan ((run .update).result (ofSnapshot s))).attributesToCreate = 0 ∧
      ((run .createOnly).plan ((run .createOnly).result (ofSnapshot s))).operations = [] := by
  intro classes j s run
  have numbers : j.NumbersFit := by
    simp [j, Json.NumbersFit, Json.AllNumbersFit, Json.FieldNumbersFit]
  have parsed : Snapshot.ofJson j = .ok s := rfl
  have distinct : s.ids.Nodup := List.nodup_singleton _
  have unused : ∀ n, generatedId n ∉ s.ids := by
    intro n hm
    have hid : generatedId n = "posts" := List.mem_singleton.mp hm
    simp [generatedId, ← String.toList_inj] at hid
  obtain ⟨-, hattributes, -, hoperations⟩ :=
    repeated_runs_converge classes ⟨0, 0⟩ numbers parsed distinct unused
  exact ⟨⟨numbers, parsed, distinct, unused⟩, hattributes, hoperations⟩

end DeclaredSchema
