import DeclaredSchema.Proofs.Plan.Order
import DeclaredSchema.Proofs.Store.History

/-! # A plan on a copy in memory

On the store in memory that a plan was made for no operation of it fails or is left out. `Rehearsed`
is the invariant of such a run: the collections that were to be created are there and their ids
remembered, and every key in the store was there before or has been sent by an operation that is
done. A key that an operation adds is neither, since a plan sends no attribute twice.
-/

namespace DeclaredSchema

open MemoryStore Snapshot Apply

/-! ## Reports of operations that are done -/

/-- The report of operations that have all been carried out. -/
def ApplyReport.ofDone {ε : Type} (operations : List Operation) : ApplyReport ε where
  collectionsCreated := operations.countP (·.createsCollection)
  attributesCreated := operations.countP (·.createsAttribute)
  attributesUpdated := operations.countP (·.updatesAttribute)

theorem ApplyReport.ofDone_concat {ε : Type} (operations : List Operation) (op : Operation) :
    (ofDone (operations ++ [op]) : ApplyReport ε) = note op .done (ofDone operations) := by
  cases op <;>
    simp [ofDone, note, Operation.createsCollection, Operation.createsAttribute,
      Operation.updatesAttribute]

/-! ## Calls that go through -/

namespace MemoryStore

variable {s : MemoryStore} {c : RemoteCollection}

theorem createAttribute_ok (hs : s.collections.ids.Nodup) (hf : s.failing = [])
    (hc : c ∈ s.collections) {a : ConcreteAttribute} (absent : ∀ e ∈ c.attributes, e.key ≠ a.key) :
    (createAttribute c.id a s).1 = .ok () := by
  have hadd :
      changeCollection c.id (addAttribute a) (s.record (.createAttribute c.id a)).collections =
        .ok (s.collections.setAttributes c.id (c.attributes ++ [stored a])) := by
    rw [record, changeCollection_of_mem hs hc, addAttribute_of_absent absent]
    rfl
  rw [createAttribute, attempt_of_ok (by simp [record, hf]) hadd]

theorem updateAttribute_ok (hs : s.collections.ids.Nodup) (hf : s.failing = [])
    (hc : c ∈ s.collections) {a : ConcreteAttribute} {x : RemoteAttribute}
    {before after : List RemoteAttribute} (split : c.attributes = before ++ x :: after)
    (first : ∀ y ∈ before, y.key ≠ a.key) (key : x.key = a.key) :
    (updateAttribute c.id a s).1 = .ok () := by
  have hreplace : changeCollection c.id (replaceAttribute a)
      (s.record (.updateAttribute c.id a)).collections =
        .ok (s.collections.setAttributes c.id (before ++ stored a :: after)) := by
    rw [record, changeCollection_of_mem hs hc, split, replaceAttribute_append first key]
    rfl
  rw [updateAttribute, attempt_of_ok (by simp [record, hf]) hreplace]

end MemoryStore

theorem Snapshot.mem_setAttributes {s : Snapshot} {id : String} {attributes : List RemoteAttribute}
    {d : RemoteCollection} : d ∈ s.setAttributes id attributes ↔
      ∃ c ∈ s, d = if c.id = id then { c with attributes } else c := by
  simp [setAttributes, eq_comm]

/-! ## The invariant of a rehearsal -/

/-- The run has done everything it was asked for on a store that held `s`. -/
structure Rehearsed (s : Snapshot) (done : List Operation) (u : MemoryRun) : Prop where
  passing : u.store.failing = []
  report : u.report = .ofDone done
  created : ∀ name ∈ Plan.creations done, ∃ c ∈ u.store.collections, c.name = name ∧
    u.created.lookup name = some (some c.id)
  /-- Keys that are new have been sent. -/
  keys : ∀ c ∈ u.store.collections, ∀ e ∈ c.attributes,
    (∃ d ∈ s, d.id = c.id ∧ ∃ f ∈ d.attributes, f.key = e.key) ∨
      (c.name, e.key) ∈ Plan.touched done

namespace Rehearsed

variable {r : Run} {s : Snapshot} {done : List Operation} {u : MemoryRun} (total : Nat)

theorem mem_touched_concat {p : String × String} {op : Operation} (h : p ∈ Plan.touched done) :
    p ∈ Plan.touched (done ++ [op]) := by
  rw [Plan.touched_append]
  exact List.mem_append_left _ h

theorem createCollection (h : Rehearsed s done u) (d : Collection) :
    Rehearsed s (done ++ [.createCollection d]) (u.step total (.createCollection d)) := by
  have hpass : d.name ∉ u.store.failing := by simp [h.passing]
  obtain ⟨hcollections, -, hcreated⟩ := MemoryRun.step_createCollection_done total hpass
  constructor
  · rw [MemoryRun.step_failing, h.passing]
  · rw [ApplyReport.ofDone_concat, ← h.report]
    simp [MemoryRun.step, Apply.step, perform, announce, store, MemoryStore.createCollection,
      record, hpass]
  · intro name hname
    rw [hcollections, hcreated]
    by_cases hn : name = d.name
    · exact ⟨⟨generatedId u.store.nextId, d.name, []⟩, by simp, hn.symm, by simp [hn]⟩
    · rw [Plan.creations_append, List.mem_append] at hname
      have hold : name ∈ Plan.creations done :=
        hname.resolve_right fun hd => hn (List.mem_singleton.mp hd)
      obtain ⟨c, hc, hcn, hl⟩ := h.created name hold
      exact ⟨c, List.mem_append_left _ hc, hcn, by rw [List.lookup_cons, beq_false_of_ne hn, hl]⟩
  · intro c hc e he
    rw [hcollections] at hc
    rcases List.mem_append.mp hc with hc | hc
    · exact (h.keys c hc e he).imp id mem_touched_concat
    · rw [List.mem_singleton.mp hc] at he
      cases he

/-- An operation that gives one collection attributes whose keys were there before or are sent by
it. -/
theorem setAttributes (h : Rehearsed s done u) {op : Operation} {c : RemoteCollection}
    (hc : c ∈ u.store.collections) (hs : u.store.collections.ids.Nodup)
    (changes : op.createsCollection = false) {attributes : List RemoteAttribute}
    (hcollections : (u.step total op).store.collections =
      u.store.collections.setAttributes c.id attributes)
    (hcreated : (u.step total op).created = u.created)
    (hreport : (u.step total op).report = note op .done u.report)
    (hkeys : ∀ e ∈ attributes, (∃ f ∈ c.attributes, f.key = e.key) ∨
      (c.name, e.key) ∈ Plan.touched [op]) :
    Rehearsed s (done ++ [op]) (u.step total op) := by
  constructor
  · rw [MemoryRun.step_failing, h.passing]
  · rw [ApplyReport.ofDone_concat, hreport, h.report]
  · intro name hname
    have hold : name ∈ Plan.creations done := by
      rw [Plan.creations_append, List.mem_append] at hname
      refine hname.resolve_right ?_
      cases op with
      | createCollection d => cases changes
      | _ => simp [Plan.creations, Plan.creation?]
    obtain ⟨d, hd, hdn, hl⟩ := h.created name hold
    rw [hcollections, hcreated]
    refine ⟨_, mem_setAttributes.mpr ⟨d, hd, rfl⟩, ?_, ?_⟩
    · split <;> exact hdn
    · split <;> exact hl
  · intro d hd e he
    rw [hcollections] at hd
    obtain ⟨b, hb, rfl⟩ := mem_setAttributes.mp hd
    by_cases hid : b.id = c.id
    · obtain rfl := eq_of_id_eq hs hb hc hid
      rw [if_pos rfl] at he ⊢
      rcases hkeys e he with ⟨f, hf, hk⟩ | hnew
      · rw [← hk]
        exact (h.keys b hb f hf).imp id mem_touched_concat
      · rw [Plan.touched_append]
        exact Or.inr (List.mem_append_right _ hnew)
    · rw [if_neg hid] at he ⊢
      exact (h.keys b hb e he).imp id mem_touched_concat

/-- A key that is new to the collection it goes into. -/
theorem createAttribute (h : Rehearsed s done u) (hs : u.store.collections.ids.Nodup)
    {ref : CollectionRef} {a : Attribute} {c : RemoteCollection} (hc : c ∈ u.store.collections)
    (target : target? u.created ref = .ok c.id) (name : c.name = ref.name)
    (fresh : ∀ d ∈ s, d.id = c.id → ∀ f ∈ d.attributes, f.key ≠ a.key)
    (unsent : (ref.name, a.key) ∉ Plan.touched done) :
    Rehearsed s (done ++ [.createAttribute ref a]) (u.step total (.createAttribute ref a)) := by
  have habsent : ∀ e ∈ c.attributes, e.key ≠ a.key := by
    intro e he hk
    rcases h.keys c hc e he with ⟨d, hd, hid, f, hf, hfk⟩ | hsent
    · exact fresh d hd hid f hf (hfk.trans hk)
    · exact unsent (by rwa [name, hk] at hsent)
  have hnone : c.attribute? a.key = none := List.find?_eq_none.mpr (by simpa using habsent)
  obtain ⟨hcollections, -, hcreated⟩ :=
    MemoryRun.step_createAttribute_done total hs (by simp [h.passing]) hc target hnone
  have hcall := createAttribute_ok (a := a.concrete u.clock.now) hs h.passing hc habsent
  refine h.setAttributes total hc hs rfl hcollections hcreated ?_ ?_
  · simp [MemoryRun.step, Apply.step, perform, announce, store, target, hcall, outcome]
  · intro e he
    rcases List.mem_append.mp he with he | he
    · exact Or.inl ⟨e, he, rfl⟩
    · rw [List.mem_singleton.mp he, name]
      exact Or.inr (List.mem_singleton_self _)

/-- A key that the collection holds. -/
theorem updateAttribute (h : Rehearsed s done u) (hs : u.store.collections.ids.Nodup)
    {a : Attribute} {c : RemoteCollection} (hc : c ∈ u.store.collections) {name : String}
    {e x : RemoteAttribute} (found : c.attribute? a.key = some x) :
    Rehearsed s (done ++ [.updateAttribute c.id name a e])
      (u.step total (.updateAttribute c.id name a e)) := by
  obtain ⟨hkey, before, after, hsplit, hfirst⟩ := List.find?_eq_some_iff_append.mp found
  have hkey : x.key = a.key := by simpa using hkey
  have hfirst : ∀ y ∈ before, y.key ≠ a.key := by simpa using hfirst
  obtain ⟨hcollections, -, hcreated⟩ :=
    MemoryRun.step_updateAttribute_done total hs (by simp [h.passing]) hc name e hsplit hfirst hkey
  have hcall :=
    updateAttribute_ok (a := a.mergeInto e u.clock.now) hs h.passing hc hsplit hfirst hkey
  refine h.setAttributes total hc hs rfl hcollections hcreated ?_ ?_
  · simp [MemoryRun.step, Apply.step, perform, announce, store, hcall, outcome]
  · intro y hy
    refine Or.inl ?_
    rw [hsplit]
    rcases List.mem_append.mp hy with hy | hy
    · exact ⟨y, by simp [hy], rfl⟩
    · rcases List.mem_cons.mp hy with rfl | hy
      · exact ⟨x, by simp, hkey⟩
      · exact ⟨y, by simp [hy], rfl⟩

/-- A planned operation that sends what has not been sent, after the creation of its collection. -/
theorem step (h : Rehearsed s done u) (distinct : s.ids.Nodup)
    (hw : Within r s done u.store.collections u.store.nextId u.created) {op : Operation}
    (planned : Plan.Planned r.classes s r.mode op)
    (unsent : (Plan.touched (done ++ [op])).Nodup)
    (prepared : ∀ name a, op = .createAttribute (.pending name) a → name ∈ Plan.creations done) :
    Rehearsed s (done ++ [op]) (u.step total op) := by
  have hs := hw.ids.distinct
  rw [Plan.touched_append, List.nodup_append] at unsent
  have hunsent {p : String × String} (hp : p ∈ Plan.touched [op]) : p ∉ Plan.touched done :=
    fun hd => unsent.2.2 p hd p hp rfl
  -- A collection of the start is still there under its id and name, with its keys.
  have hheld {remote : RemoteCollection} (hm : remote ∈ s) : ∃ c ∈ u.store.collections,
      c.id = remote.id ∧ c.name = remote.name ∧ ∀ key e, remote.attribute? key = some e →
        ∃ x, c.attribute? key = some x := by
    obtain ⟨i, hi⟩ := List.getElem?_of_mem hm
    obtain ⟨c, hc, hid, hname, hattributes⟩ := hw.evolves i remote hi
    refine ⟨c, List.mem_of_getElem? hc, hid, hname, ?_⟩
    intro key e he
    obtain ⟨x, hx, -⟩ := hattributes.find?_key he
    exact ⟨x, hx⟩
  cases planned with
  | createCollection first absent => exact h.createCollection total _
  | @createPending c a first mem absent =>
      obtain ⟨d, hd, hname, hl⟩ := h.created c.name (prepared _ _ rfl)
      have htarget : target? u.created (.pending c.name) = .ok d.id := by rw [target?, hl]
      refine h.createAttribute total hs hd htarget hname ?_ (hunsent (List.mem_singleton_self _))
      intro b hb hid
      exact absurd (hid ▸ List.mem_map_of_mem hb) (hw.remembered c.name d.id hl)
  | @createExisting c a remote first mem update single absent =>
      obtain ⟨hm, hn⟩ := mem_named.mp (single ▸ List.mem_singleton_self remote)
      obtain ⟨d, hd, hid, hname, -⟩ := hheld hm
      have htarget : target? u.created (.existing remote.id remote.name) = .ok d.id := by
        rw [hid]
        rfl
      refine h.createAttribute total hs hd htarget hname ?_ (hunsent (List.mem_singleton_self _))
      intro b hb hbd f hf
      obtain rfl := eq_of_id_eq distinct hb hm (hbd.trans hid)
      simpa using List.find?_eq_none.mp absent f hf
  | @updateAttribute c a remote e first mem update single held kind =>
      obtain ⟨hm, hn⟩ := mem_named.mp (single ▸ List.mem_singleton_self remote)
      obtain ⟨d, hd, hid, hname, hkeys⟩ := hheld hm
      obtain ⟨x, hx⟩ := hkeys a.key e held
      exact hid ▸ h.updateAttribute total hs hd hx

end Rehearsed

namespace Run

variable {r : Run} {s : MemoryStore}

/-- The invariant holds at every moment of a run in which no name is set to fail. -/
theorem rehearsed_after (h : IdsFresh s.collections s.nextId) (hf : r.failing = []) (n : Nat) :
    Rehearsed s.collections ((r.plan s).operations.take n) (r.after s n) := by
  induction n with
  | zero =>
      refine ⟨hf, rfl, by simp [Plan.creations], ?_⟩
      exact fun c hc e he => Or.inl ⟨c, hc, rfl, e, he, rfl⟩
  | succ n ih =>
      cases hop : (r.plan s).operations[n]? with
      | none =>
          have hle : (r.plan s).operations.length ≤ n := List.getElem?_eq_none_iff.mp hop
          rw [List.take_of_length_le hle, after_of_length_le hle] at ih
          rw [List.take_of_length_le (by omega), after_of_length_le (by omega)]
          exact ih
      | some op =>
          have htake : (r.plan s).operations.take (n + 1) =
              (r.plan s).operations.take n ++ [op] := by rw [List.take_add_one, hop]; rfl
          have hnodup : (Plan.touched ((r.plan s).operations.take (n + 1))).Nodup :=
            ((List.take_sublist _ _).filterMap _).nodup (Plan.nodup_touched_plan _ _ _)
          rw [htake] at hnodup ⊢
          rw [after_succ hop]
          refine ih.step _ h.distinct (within_after h n)
            (Plan.planned_of_mem (List.mem_of_getElem? hop)) hnodup ?_
          rintro name a rfl
          exact Plan.ordered_plan _ _ _ n name a hop

end Run

/-- A plan that is carried out on a copy of what it was made for is done as a whole, whatever the
clock says. -/
theorem report_apply_ofSnapshot (classes : List Collection) {snapshot : Snapshot} (mode : PlanMode)
    (clock : Clock) (distinct : snapshot.ids.Nodup) (unused : ∀ n, generatedId n ∉ snapshot.ids) :
    (apply MemoryStore.store (plan classes snapshot mode).operations clock
      (ofSnapshot snapshot)).report = .ofDone (plan classes snapshot mode).operations := by
  have hfresh : IdsFresh (ofSnapshot snapshot).collections (ofSnapshot snapshot).nextId :=
    ⟨distinct, fun n _ => unused n⟩
  have hdone := Run.rehearsed_after (r := ⟨classes, mode, clock, []⟩) hfresh rfl
    (plan classes snapshot mode).operations.length
  have hreport := hdone.report
  rw [Run.after] at hreport
  simp only [Run.plan, Run.start, ofSnapshot, List.take_length] at hreport
  exact hreport

end DeclaredSchema
