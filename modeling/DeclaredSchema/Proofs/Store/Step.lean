import DeclaredSchema.Apply
import DeclaredSchema.Proofs.Store.Memory

/-! # What one operation does to the store in memory

`Effect` lists everything that carrying out one operation can come to: what the collections are
afterwards, which id comes next and which ids the run remembers. The clock's readings and the names
that are set to fail never change.
-/

namespace DeclaredSchema

/-- A run on the store in memory. -/
abbrev MemoryRun := Apply.State MemoryStore MemoryStore.Fault

namespace MemoryRun

open MemoryStore Snapshot Apply

/-- Carries out one operation of a plan of `total` operations. -/
abbrev step (total : Nat) (s : MemoryRun) (op : Operation) : MemoryRun :=
  Apply.step MemoryStore.store total s op

/-- What an operation can come to, as collections, number of the next id and remembered ids. -/
inductive Effect (s : MemoryRun) :
    Operation → Snapshot → Nat → List (String × Option String) → Prop where
  /-- The call was refused, or the attribute's collection was not created in this run. -/
  | nothing {op : Operation} (creates : op.createsCollection = false) :
      Effect s op s.store.collections s.store.nextId s.created
  | collectionRefused (c : Collection) (failing : c.name ∈ s.store.failing) :
      Effect s (.createCollection c) s.store.collections s.store.nextId
        ((c.name, none) :: s.created)
  | collectionCreated (c : Collection) (passing : c.name ∉ s.store.failing) :
      Effect s (.createCollection c)
        (s.store.collections ++ [⟨generatedId s.store.nextId, c.name, []⟩]) (s.store.nextId + 1)
        ((c.name, some (generatedId s.store.nextId)) :: s.created)
  | attributeCreated {ref : CollectionRef} {a : Attribute} {c : RemoteCollection}
      (mem : c ∈ s.store.collections) (target : target? s.created ref = .ok c.id)
      (absent : ∀ e ∈ c.attributes, e.key ≠ a.key) :
      Effect s (.createAttribute ref a)
        (s.store.collections.setAttributes c.id
          (c.attributes ++ [stored (a.concrete s.clock.now)])) s.store.nextId s.created
  | attributeUpdated {name : String} {a : Attribute} {e x : RemoteAttribute}
      {c : RemoteCollection} {before after : List RemoteAttribute}
      (mem : c ∈ s.store.collections) (split : c.attributes = before ++ x :: after)
      (first : ∀ y ∈ before, y.key ≠ a.key) (key : x.key = a.key) :
      Effect s (.updateAttribute c.id name a e)
        (s.store.collections.setAttributes c.id
          (before ++ stored (a.mergeInto e s.clock.now) :: after)) s.store.nextId s.created

variable {s : MemoryRun} (total : Nat)

/-! ## Equations of a step -/

theorem step_createCollection_refused {c : Collection} (h : c.name ∈ s.store.failing) :
    (s.step total (.createCollection c)).store.collections = s.store.collections ∧
      (s.step total (.createCollection c)).store.nextId = s.store.nextId ∧
      (s.step total (.createCollection c)).created = (c.name, none) :: s.created := by
  simp [step, Apply.step, perform, announce, store, createCollection, record, h]

theorem step_createCollection_done {c : Collection} (h : c.name ∉ s.store.failing) :
    (s.step total (.createCollection c)).store.collections =
        s.store.collections ++ [⟨generatedId s.store.nextId, c.name, []⟩] ∧
      (s.step total (.createCollection c)).store.nextId = s.store.nextId + 1 ∧
      (s.step total (.createCollection c)).created =
        (c.name, some (generatedId s.store.nextId)) :: s.created := by
  simp [step, Apply.step, perform, announce, store, createCollection, record, h]

/-- An attribute that is to be created is a change of one collection, if that was created. -/
theorem step_createAttribute (ref : CollectionRef) (a : Attribute) :
    (∃ reason, target? s.created ref = .error reason ∧
      (s.step total (.createAttribute ref a)).store = s.store ∧
      (s.step total (.createAttribute ref a)).created = s.created) ∨
    ∃ id, target? s.created ref = .ok id ∧
      (s.step total (.createAttribute ref a)).store =
        (MemoryStore.createAttribute id (a.concrete s.clock.now) s.store).2 ∧
      (s.step total (.createAttribute ref a)).created = s.created := by
  cases ht : target? s.created ref with
  | error reason => exact Or.inl ⟨reason, rfl, by simp [Apply.step, perform, announce, ht]⟩
  | ok id => exact Or.inr ⟨id, rfl, by simp [Apply.step, perform, announce, ht, store]⟩

theorem step_updateAttribute (id name : String) (a : Attribute) (e : RemoteAttribute) :
    (s.step total (.updateAttribute id name a e)).store =
        (MemoryStore.updateAttribute id (a.mergeInto e s.clock.now) s.store).2 ∧
      (s.step total (.updateAttribute id name a e)).created = s.created := by
  simp [Apply.step, perform, announce, store]

/-- Everything that an operation can come to. -/
theorem step_effect (hs : s.store.collections.ids.Nodup) (op : Operation) :
    Effect s op (s.step total op).store.collections (s.step total op).store.nextId
      (s.step total op).created := by
  cases op with
  | createCollection c =>
      by_cases h : c.name ∈ s.store.failing
      · obtain ⟨hc, hn, hr⟩ := step_createCollection_refused total h
        rw [hc, hn, hr]
        exact .collectionRefused c h
      · obtain ⟨hc, hn, hr⟩ := step_createCollection_done total h
        rw [hc, hn, hr]
        exact .collectionCreated c h
  | createAttribute ref a =>
      rcases step_createAttribute (s := s) total ref a with
        ⟨reason, -, hst, hr⟩ | ⟨id, ht, hst, hr⟩
      · rw [hst, hr]
        exact .nothing rfl
      · rw [hst, hr, MemoryStore.createAttribute]
        rcases attempt_cases (s.store.record (.createAttribute id (a.concrete s.clock.now)))
          (a.concrete s.clock.now).key (changeCollection id (addAttribute (a.concrete s.clock.now)))
          with ⟨f, hf⟩ | ⟨collections, -, hc, hf⟩
        · rw [hf]
          exact .nothing rfl
        · obtain ⟨c, mem, rfl, absent, rfl⟩ := changeCollection_add hs hc
          rw [hf]
          exact .attributeCreated mem ht absent
  | updateAttribute id name a e =>
      obtain ⟨hst, hr⟩ := step_updateAttribute (s := s) total id name a e
      rw [hst, hr, MemoryStore.updateAttribute]
      rcases attempt_cases (s.store.record (.updateAttribute id (a.mergeInto e s.clock.now)))
        (a.mergeInto e s.clock.now).key
        (changeCollection id (replaceAttribute (a.mergeInto e s.clock.now)))
        with ⟨f, hf⟩ | ⟨collections, -, hc, hf⟩
      · rw [hf]
        exact .nothing rfl
      · obtain ⟨c, mem, rfl, before, x, after, split, first, key, rfl⟩ :=
          changeCollection_replace hs hc
        rw [hf]
        exact .attributeUpdated mem split first key

/-! ## Steps with a known outcome -/

theorem step_reading (op : Operation) :
    (s.step total op).clock.reading = s.clock.reading := by
  cases op with
  | createCollection c =>
      by_cases h : c.name ∈ s.store.failing <;>
        simp [Apply.step, perform, announce, store, createCollection, record, h]
  | createAttribute ref a =>
      cases ht : target? s.created ref <;>
        simp [Apply.step, perform, announce, ht, Clock.advance]
  | updateAttribute id name a e => simp [Apply.step, perform, announce, Clock.advance]

theorem failing_attempt (t : MemoryStore) (name : String)
    (change : Snapshot → Except Fault Snapshot) : (t.attempt name change).2.failing = t.failing := by
  rcases attempt_cases t name change with ⟨f, hf⟩ | ⟨collections, -, -, hf⟩ <;> rw [hf]

theorem step_failing (op : Operation) :
    (s.step total op).store.failing = s.store.failing := by
  cases op with
  | createCollection c =>
      by_cases h : c.name ∈ s.store.failing <;>
        simp [Apply.step, perform, announce, store, createCollection, record, h]
  | createAttribute ref a =>
      rcases step_createAttribute (s := s) total ref a with ⟨-, -, hst, -⟩ | ⟨id, -, hst, -⟩
      · rw [hst]
      · rw [hst, MemoryStore.createAttribute, failing_attempt]
        rfl
  | updateAttribute id name a e =>
      rw [(step_updateAttribute (s := s) total id name a e).1, MemoryStore.updateAttribute,
        failing_attempt]
      rfl

theorem step_createAttribute_refused (ref : CollectionRef) {a : Attribute}
    (failing : a.key ∈ s.store.failing) :
    (s.step total (.createAttribute ref a)).store.collections = s.store.collections ∧
      (s.step total (.createAttribute ref a)).store.nextId = s.store.nextId ∧
      (s.step total (.createAttribute ref a)).created = s.created := by
  rcases step_createAttribute (s := s) total ref a with ⟨-, -, hst, hcreated⟩ | ⟨id, -, hst, hcreated⟩
  · rw [hst]
    exact ⟨rfl, rfl, hcreated⟩
  · have hrefused : (a.concrete s.clock.now).key ∈
        (s.store.record (.createAttribute id (a.concrete s.clock.now))).failing := failing
    rw [hst, MemoryStore.createAttribute, attempt_of_mem hrefused]
    exact ⟨rfl, rfl, hcreated⟩

theorem step_updateAttribute_refused (id name : String) {a : Attribute} (e : RemoteAttribute)
    (failing : a.key ∈ s.store.failing) :
    (s.step total (.updateAttribute id name a e)).store.collections = s.store.collections ∧
      (s.step total (.updateAttribute id name a e)).store.nextId = s.store.nextId ∧
      (s.step total (.updateAttribute id name a e)).created = s.created := by
  obtain ⟨hst, hcreated⟩ := step_updateAttribute (s := s) total id name a e
  have hrefused : (a.mergeInto e s.clock.now).key ∈
      (s.store.record (.updateAttribute id (a.mergeInto e s.clock.now))).failing := failing
  rw [hst, MemoryStore.updateAttribute, attempt_of_mem hrefused]
  exact ⟨rfl, rfl, hcreated⟩

/-- An attribute whose key is free is added. -/
theorem step_createAttribute_done (hs : s.store.collections.ids.Nodup) {ref : CollectionRef}
    {a : Attribute} (pass : a.key ∉ s.store.failing) {c : RemoteCollection}
    (hc : c ∈ s.store.collections) (ht : target? s.created ref = .ok c.id)
    (absent : c.attribute? a.key = none) :
    (s.step total (.createAttribute ref a)).store.collections =
        s.store.collections.setAttributes c.id
          (c.attributes ++ [stored (a.concrete s.clock.now)]) ∧
      (s.step total (.createAttribute ref a)).store.nextId = s.store.nextId ∧
      (s.step total (.createAttribute ref a)).created = s.created := by
  have habsent : ∀ e ∈ c.attributes, e.key ≠ a.key := by
    simpa using List.find?_eq_none.mp absent
  rcases step_createAttribute (s := s) total ref a with ⟨reason, hr, -⟩ | ⟨id, hid, hst, hcreated⟩
  · rw [ht] at hr
    cases hr
  · obtain rfl : c.id = id := Except.ok.inj (ht.symm.trans hid)
    have hadd : changeCollection c.id (addAttribute (a.concrete s.clock.now)) s.store.collections =
        .ok (s.store.collections.setAttributes c.id
          (c.attributes ++ [stored (a.concrete s.clock.now)])) := by
      rw [changeCollection_of_mem hs hc, addAttribute_of_absent (a := a.concrete _) habsent]
      rfl
    have hpass : (a.concrete s.clock.now).key ∉
        (s.store.record (.createAttribute c.id (a.concrete s.clock.now))).failing := pass
    rw [hst, MemoryStore.createAttribute, attempt_of_ok hpass hadd]
    exact ⟨rfl, rfl, hcreated⟩

/-- The first attribute of a key is replaced. -/
theorem step_updateAttribute_done (hs : s.store.collections.ids.Nodup) {a : Attribute}
    (pass : a.key ∉ s.store.failing) {c : RemoteCollection} (hc : c ∈ s.store.collections)
    (name : String) (e : RemoteAttribute) {x : RemoteAttribute}
    {before after : List RemoteAttribute}
    (split : c.attributes = before ++ x :: after) (first : ∀ y ∈ before, y.key ≠ a.key)
    (key : x.key = a.key) :
    (s.step total (.updateAttribute c.id name a e)).store.collections =
        s.store.collections.setAttributes c.id
          (before ++ stored (a.mergeInto e s.clock.now) :: after) ∧
      (s.step total (.updateAttribute c.id name a e)).store.nextId = s.store.nextId ∧
      (s.step total (.updateAttribute c.id name a e)).created = s.created := by
  obtain ⟨hst, hcreated⟩ := step_updateAttribute (s := s) total c.id name a e
  have hreplace : changeCollection c.id (replaceAttribute (a.mergeInto e s.clock.now))
      s.store.collections = .ok (s.store.collections.setAttributes c.id
        (before ++ stored (a.mergeInto e s.clock.now) :: after)) := by
    rw [changeCollection_of_mem hs hc, split, replaceAttribute_append first key]
    rfl
  have hpass : (a.mergeInto e s.clock.now).key ∉
      (s.store.record (.updateAttribute c.id (a.mergeInto e s.clock.now))).failing := pass
  rw [hst, MemoryStore.updateAttribute, attempt_of_ok hpass hreplace]
  exact ⟨rfl, rfl, hcreated⟩

end MemoryRun

end DeclaredSchema
