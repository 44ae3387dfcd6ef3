import DeclaredSchema.Proofs.Plan.Revision
import DeclaredSchema.Proofs.Store.History

/-! # What a run leaves under each name

A run at one instant is followed class by class. The part of a plan that belongs to one class
changes the only collection of that name or creates it, and leaves the collections of all other
names alone. `Leaves` gives what the collections of the name are afterwards, also when calls are
refused: a refused creation leaves nothing, and a refused key leaves its attribute as it was.
-/

namespace DeclaredSchema

open MemoryStore Snapshot

/-- The declarations whose keys are not set to fail. -/
def passing (failing : List String) (declared : List Attribute) : List Attribute :=
  declared.filter fun a => !failing.contains a.key

theorem passing_nil (declared : List Attribute) : passing [] declared = declared := by
  simp [passing]

/-- What a run leaves of the collections of a name, for the class that counts. -/
inductive Leaves (now : Instant) (failing : List String) (mode : PlanMode) (d : Collection) :
    List RemoteCollection → List RemoteCollection → Prop where
  | refused (h : d.name ∈ failing) : Leaves now failing mode d [] []
  | created (h : d.name ∉ failing) (n : Nat) : Leaves now failing mode d []
      [⟨generatedId n, d.name, revised now (passing failing (Plan.collapse d.attributes)) []⟩]
  | updated (update : mode = .update) (c : RemoteCollection) : Leaves now failing mode d [c]
      [{ c with attributes :=
          revised now (passing failing (Plan.collapse d.attributes)) c.attributes }]
  | leftAlone {cs : List RemoteCollection} (nonempty : cs ≠ [])
      (several : mode = .update → cs.length ≠ 1) : Leaves now failing mode d cs cs

namespace MemoryRun

/-- The calls that name one of `failing` are refused and every reading of the clock is `now`. -/
structure Steady (now : Instant) (failing : List String) (u : MemoryRun) : Prop where
  ids : IdsFresh u.store.collections u.store.nextId
  refusing : u.store.failing = failing
  clock : ∀ n, u.clock.reading n = now

/-- From `u` to `v` only the collection `c` of its name has changed, to `d`. -/
structure Changes (now : Instant) (failing : List String) (name : String) (c d : RemoteCollection)
    (u v : MemoryRun) : Prop where
  steady : Steady now failing v
  created : v.created = u.created
  named : v.store.collections.named name = [d]
  others : ∀ m, m ≠ name → v.store.collections.named m = u.store.collections.named m

variable {now : Instant} {failing : List String} {name : String} {c : RemoteCollection}
  {u : MemoryRun} (total : Nat)

theorem Changes.trans {d e : RemoteCollection} {v w : MemoryRun}
    (h : Changes now failing name c d u v) (g : Changes now failing name d e v w) :
    Changes now failing name c e u w where
  steady := g.steady
  created := g.created.trans h.created
  named := g.named
  others m hm := (g.others m hm).trans (h.others m hm)

theorem Changes.refl (hq : Steady now failing u) (hc : u.store.collections.named name = [c]) :
    Changes now failing name c c u u :=
  ⟨hq, rfl, hc, fun _ _ => rfl⟩

/-- A step keeps the names that are set to fail and the clock's readings. -/
theorem Steady.step (hq : Steady now failing u) {op : Operation}
    (hids : IdsFresh (u.step total op).store.collections (u.step total op).store.nextId) :
    Steady now failing (u.step total op) where
  ids := hids
  refusing := by rw [step_failing, hq.refusing]
  clock n := by rw [step_reading, hq.clock]

/-- A step that gives the only collection of a name other attributes. -/
theorem Changes.of_setAttributes (hq : Steady now failing u)
    (hc : u.store.collections.named name = [c]) {op : Operation}
    {attributes : List RemoteAttribute}
    (hstep : (u.step total op).store.collections =
        u.store.collections.setAttributes c.id attributes ∧
      (u.step total op).store.nextId = u.store.nextId ∧ (u.step total op).created = u.created) :
    Changes now failing name c { c with attributes } u (u.step total op) := by
  obtain ⟨hcollections, hnext, hcreated⟩ := hstep
  obtain ⟨hmem, hname⟩ := mem_named.mp (hc ▸ List.mem_singleton_self c)
  constructor
  · apply hq.step
    rw [hcollections, hnext]
    exact hq.ids.setAttributes c.id attributes
  · exact hcreated
  · rw [hcollections]
    exact named_setAttributes_self hc attributes
  · intro m hm
    rw [hcollections]
    exact named_setAttributes_of_ne hq.ids.distinct hmem (hname ▸ Ne.symm hm) attributes

/-- A step that was refused. -/
theorem Changes.of_refused (hq : Steady now failing u)
    (hc : u.store.collections.named name = [c]) {op : Operation}
    (hstep : (u.step total op).store.collections = u.store.collections ∧
      (u.step total op).store.nextId = u.store.nextId ∧ (u.step total op).created = u.created) :
    Changes now failing name c c u (u.step total op) := by
  obtain ⟨hcollections, hnext, hcreated⟩ := hstep
  constructor
  · apply hq.step
    rw [hcollections, hnext]
    exact hq.ids
  · exact hcreated
  · rw [hcollections, hc]
  · intro m _
    rw [hcollections]

/-! ## The attributes of one class -/

/-- The operations for a declared attribute of a collection that is known as `remote`. -/
def operationsFor (ref : CollectionRef) (remote : RemoteCollection) (a : Attribute) :
    List Operation :=
  match remote.attribute? a.key with
  | none => [.createAttribute ref a]
  | some e => if e.kind = some a.kind then [.updateAttribute remote.id remote.name a e] else []

theorem operations_forAttribute (remote : RemoteCollection) (a : Attribute) :
    (Plan.forAttribute remote a).operations =
      operationsFor (.existing remote.id remote.name) remote a := by
  unfold Plan.forAttribute operationsFor
  cases remote.attribute? a.key with
  | none => rfl
  | some e => by_cases hk : e.kind = some a.kind <;> simp [hk]

/-- The operations for a key that is set to fail change nothing. -/
theorem run_failingAttribute (hq : Steady now failing u)
    (hc : u.store.collections.named name = [c]) (ref : CollectionRef) (remote : RemoteCollection)
    {a : Attribute} (hfail : a.key ∈ failing) :
    Changes now failing name c c u ((operationsFor ref remote a).foldl (step total) u) := by
  have hrefused : a.key ∈ u.store.failing := hq.refusing ▸ hfail
  unfold operationsFor
  cases remote.attribute? a.key with
  | none => exact .of_refused total hq hc (step_createAttribute_refused total ref hrefused)
  | some e =>
      dsimp only
      split
      · exact .of_refused total hq hc
          (step_updateAttribute_refused total remote.id remote.name e hrefused)
      · exact .refl hq hc

/-- The operations for a key that passes revise the attributes by its declaration. -/
theorem run_passingAttribute (hq : Steady now failing u)
    (hc : u.store.collections.named name = [c]) {ref : CollectionRef}
    (ht : Apply.target? u.created ref = .ok c.id) {remote : RemoteCollection}
    (hid : remote.id = c.id) {a : Attribute} (hpass : a.key ∉ failing)
    (same : c.attribute? a.key = remote.attribute? a.key) :
    Changes now failing name c { c with attributes := revised now [a] c.attributes } u
      ((operationsFor ref remote a).foldl (step total) u) := by
  obtain ⟨hmem, -⟩ := mem_named.mp (hc ▸ List.mem_singleton_self c)
  have hnow : u.clock.now = now := hq.clock _
  have hsent : a.key ∉ u.store.failing := hq.refusing ▸ hpass
  unfold operationsFor
  cases he : remote.attribute? a.key with
  | none =>
      have habsent : ∀ e ∈ c.attributes, e.key ≠ a.key := by
        simpa using List.find?_eq_none.mp (same.trans he)
      have hstep := step_createAttribute_done total hq.ids.distinct hsent hmem ht (same.trans he)
      rw [hnow, ← revised_singleton_of_absent habsent] at hstep
      exact .of_setAttributes total hq hc hstep
  | some e =>
      obtain ⟨hkey, before, after, hsplit, hfirst⟩ :=
        List.find?_eq_some_iff_append.mp (same.trans he)
      have hkey : e.key = a.key := by simpa using hkey
      have hfirst : ∀ y ∈ before, y.key ≠ a.key := by simpa using hfirst
      have hrevised : revised now [a] c.attributes = before ++ a.revise now e :: after := by
        rw [hsplit, revised_singleton_of_split hfirst hkey]
      rw [hrevised]
      dsimp only
      by_cases hk : e.kind = some a.kind
      · have hstep := step_updateAttribute_done total hq.ids.distinct hsent hmem remote.name e
          hsplit hfirst hkey
        rw [hnow] at hstep
        rw [if_pos hk, hid, Attribute.revise, if_pos hk]
        exact .of_setAttributes total hq hc hstep
      · rw [if_neg hk, Attribute.revise, if_neg hk, ← hsplit]
        exact .refl hq hc

/-- The operations for attributes of different keys revise those whose keys pass. -/
theorem run_attributes (hq : Steady now failing u) (hc : u.store.collections.named name = [c])
    {ref : CollectionRef} (ht : Apply.target? u.created ref = .ok c.id)
    (remote : RemoteCollection) (hid : remote.id = c.id) {attributes : List Attribute}
    (distinct : (attributes.map (·.key)).Nodup)
    (same : ∀ a ∈ attributes, c.attribute? a.key = remote.attribute? a.key) :
    Changes now failing name c
      { c with attributes := revised now (passing failing attributes) c.attributes } u
      ((attributes.flatMap (operationsFor ref remote)).foldl (step total) u) := by
  induction attributes generalizing u c with
  | nil =>
      have hkeep : passing failing [] = [] := rfl
      rw [hkeep, revised_nil_declared]
      exact .refl hq hc
  | cons a rest ih =>
      rw [List.map_cons, List.nodup_cons] at distinct
      obtain ⟨hsame, hrest⟩ := List.forall_mem_cons.mp same
      rw [List.flatMap_cons, List.foldl_append]
      by_cases hfail : a.key ∈ failing
      · have hdrop : passing failing (a :: rest) = passing failing rest :=
          List.filter_cons_of_neg (by simpa using hfail)
        have hfirst := run_failingAttribute total hq hc ref remote hfail
        rw [hdrop]
        exact hfirst.trans
          (ih hfirst.steady hfirst.named (hfirst.created ▸ ht) hid distinct.2 hrest)
      · have hkeep : passing failing (a :: rest) = a :: passing failing rest :=
          List.filter_cons_of_pos (by simpa using hfail)
        have hout : a.key ∉ (passing failing rest).map (·.key) :=
          fun hm => distinct.1 ((List.filter_sublist.map _).subset hm)
        have hfirst := run_passingAttribute total hq hc ht hid hfail hsame
        have hothers : ∀ b ∈ rest, ({ c with attributes := revised now [a] c.attributes } :
            RemoteCollection).attribute? b.key = remote.attribute? b.key := by
          intro b hb
          have hne : a.key ≠ b.key := fun hk => distinct.1 (hk ▸ List.mem_map_of_mem hb)
          rw [← hrest b hb]
          exact find?_revised_of_ne hne
        rw [hkeep, ← revised_revised_singleton hout]
        exact hfirst.trans
          (ih hfirst.steady hfirst.named (hfirst.created ▸ ht) hid distinct.2 hothers)

/-! ## Classes -/

theorem run_refusedCollection (hq : Steady now failing u) {d : Collection}
    (hfail : d.name ∈ failing) :
    let v := u.step total (.createCollection d)
    Steady now failing v ∧ v.created.lookup d.name = some none ∧
      v.store.collections = u.store.collections := by
  intro v
  have hrefused : d.name ∈ u.store.failing := hq.refusing ▸ hfail
  obtain ⟨hcollections, hnext, hcreated⟩ := step_createCollection_refused total hrefused
  refine ⟨hq.step total ?_, ?_, hcollections⟩
  · rw [hcollections, hnext]
    exact hq.ids
  · rw [hcreated]
    simp

theorem run_createdCollection (hq : Steady now failing u) {d : Collection}
    (hpass : d.name ∉ failing) (absent : u.store.collections.named d.name = []) :
    let v := u.step total (.createCollection d)
    let id := generatedId u.store.nextId
    Steady now failing v ∧ v.created.lookup d.name = some (some id) ∧
      v.store.collections.named d.name = [⟨id, d.name, []⟩] ∧
      ∀ m, m ≠ d.name → v.store.collections.named m = u.store.collections.named m := by
  intro v id
  have hsent : d.name ∉ u.store.failing := hq.refusing ▸ hpass
  obtain ⟨hcollections, hnext, hcreated⟩ := step_createCollection_done total hsent
  refine ⟨hq.step total ?_, ?_, ?_, ?_⟩
  · rw [hcollections, hnext]
    exact hq.ids.append d.name
  · rw [hcreated]
    simp [id]
  · rw [hcollections, named_append, absent]
    simp [named, id]
  · intro m hm
    rw [hcollections, named_append]
    simp [named, Ne.symm hm]

/-- Attributes of a collection whose creation was refused are left out. -/
theorem run_leftOut (hq : Steady now failing u) {name : String}
    (hlookup : u.created.lookup name = some none) (attributes : List Attribute) :
    let v := (attributes.map (.createAttribute (.pending name))).foldl (step total) u
    Steady now failing v ∧ v.store.collections = u.store.collections := by
  induction attributes generalizing u with
  | nil => exact ⟨hq, rfl⟩
  | cons a rest ih =>
      have htarget : Apply.target? u.created (.pending name) = .error .collectionNotCreated := by
        rw [Apply.target?, hlookup]
      rcases step_createAttribute (s := u) total (.pending name) a with
        ⟨reason, -, hst, hcreated⟩ | ⟨id, hid, -⟩
      · have hstep : Steady now failing (u.step total (.createAttribute (.pending name) a)) := by
          apply hq.step
          rw [hst]
          exact hq.ids
        obtain ⟨hv, hcollections⟩ := ih hstep (hcreated ▸ hlookup)
        exact ⟨hv, hcollections.trans (by rw [hst])⟩
      · rw [htarget] at hid
        cases hid

/-- The part of a plan for the first class of a name, if the store lacks the collection. -/
theorem run_forNew (hq : Steady now failing u) (mode : PlanMode) {d : Collection}
    (absent : u.store.collections.named d.name = []) :
    let v := (Plan.forNew d).operations.foldl (step total) u
    Steady now failing v ∧ Leaves now failing mode d [] (v.store.collections.named d.name) ∧
      ∀ m, m ≠ d.name → v.store.collections.named m = u.store.collections.named m := by
  intro v
  by_cases hfail : d.name ∈ failing
  · obtain ⟨hw, hlookup, hsame⟩ := run_refusedCollection
      (d := { d with attributes := Plan.collapse d.attributes }) total hq hfail
    obtain ⟨hv, hcollections⟩ := run_leftOut total hw hlookup (Plan.collapse d.attributes)
    have hkeep : v.store.collections = u.store.collections := hcollections.trans hsame
    refine ⟨hv, ?_, fun m _ => by rw [hkeep]⟩
    rw [hkeep, absent]
    exact .refused hfail
  · obtain ⟨hw, hlookup, hnamed, hothers⟩ := run_createdCollection
      (d := { d with attributes := Plan.collapse d.attributes }) total hq hfail absent
    have htarget : Apply.target? (u.step total (.createCollection
        { d with attributes := Plan.collapse d.attributes })).created (.pending d.name) =
          .ok (generatedId u.store.nextId) := by rw [Apply.target?, hlookup]
    have hc := run_attributes total hw hnamed htarget
      ⟨generatedId u.store.nextId, d.name, []⟩ rfl (Plan.nodup_keys_collapse d.attributes)
      (fun _ _ => rfl)
    have hops : (Plan.collapse d.attributes).map (.createAttribute (.pending d.name)) =
        (Plan.collapse d.attributes).flatMap
          (operationsFor (.pending d.name) ⟨generatedId u.store.nextId, d.name, []⟩) := by
      rw [List.map_eq_flatMap]
      rfl
    have hv : v = ((Plan.collapse d.attributes).flatMap (operationsFor (.pending d.name)
        ⟨generatedId u.store.nextId, d.name, []⟩)).foldl (step total) (u.step total
          (.createCollection { d with attributes := Plan.collapse d.attributes })) := by
      rw [← hops]
      rfl
    rw [hv]
    refine ⟨hc.steady, ?_, fun m hm => (hc.others m hm).trans (hothers m hm)⟩
    rw [hc.named]
    exact .created hfail _

/-- The part of a plan for the first class of a name leaves what `Leaves` says, and the collections
of all other names as they were. -/
theorem run_forRemotes {s : Snapshot} (hq : Steady now failing u) (mode : PlanMode) {d : Collection}
    (same : u.store.collections.named d.name = s.named d.name) :
    let v := (Plan.forRemotes d mode (s.named d.name)).operations.foldl (step total) u
    Steady now failing v ∧
      Leaves now failing mode d (s.named d.name) (v.store.collections.named d.name) ∧
      ∀ m, m ≠ d.name → v.store.collections.named m = u.store.collections.named m := by
  cases hr : s.named d.name with
  | nil => exact run_forNew total hq mode (same.trans hr)
  | cons remote others =>
      have hskip (hops : (Plan.forRemotes d mode (remote :: others)).operations = [])
          (hmany : mode = .update → others ≠ []) :
          let v := (Plan.forRemotes d mode (remote :: others)).operations.foldl (step total) u
          Steady now failing v ∧
            Leaves now failing mode d (remote :: others) (v.store.collections.named d.name) ∧
            ∀ m, m ≠ d.name → v.store.collections.named m = u.store.collections.named m := by
        rw [hops]
        refine ⟨hq, ?_, fun _ _ => rfl⟩
        rw [List.foldl_nil, same, hr]
        refine .leftAlone (List.cons_ne_nil _ _) fun hmode hlength => hmany hmode ?_
        simpa using hlength
      cases mode with
      | createOnly => exact hskip rfl (by simp)
      | update =>
          cases others with
          | cons other others => exact hskip rfl (by simp)
          | nil =>
              have htarget : Apply.target? u.created (.existing remote.id remote.name) =
                .ok remote.id := rfl
              have hc := run_attributes total hq (same.trans hr) htarget remote rfl
                (Plan.nodup_keys_collapse d.attributes) (fun _ _ => rfl)
              have hops : (Plan.forRemotes d .update [remote]).operations =
                  (Plan.collapse d.attributes).flatMap
                    (operationsFor (.existing remote.id remote.name) remote) := by
                rw [Plan.forRemotes, List.isEmpty_nil, if_pos rfl, Plan.operations_forExisting]
                exact List.flatMap_congr fun a _ => operations_forAttribute remote a
              rw [hops]
              refine ⟨hc.steady, ?_, hc.others⟩
              rw [hc.named]
              exact .updated rfl remote

/-- The part of a plan for one class. A class whose name is taken does nothing. -/
theorem run_forClass {s : Snapshot} (hq : Steady now failing u) (mode : PlanMode)
    {before : List Collection} {d : Collection}
    (same : (∀ b ∈ before, b.name ≠ d.name) →
      u.store.collections.named d.name = s.named d.name) :
    let v := (Plan.forClass s mode before d).operations.foldl (step total) u
    Steady now failing v ∧
      ((∀ b ∈ before, b.name ≠ d.name) →
        Leaves now failing mode d (s.named d.name) (v.store.collections.named d.name)) ∧
      ∀ m, m ∈ before.map (·.name) ∨ m ≠ d.name →
        v.store.collections.named m = u.store.collections.named m := by
  by_cases hfree : ∀ b ∈ before, b.name ≠ d.name
  · rw [Plan.operations_forClass_of_free hfree]
    obtain ⟨hv, hleaves, hothers⟩ := run_forRemotes total hq mode (same hfree)
    refine ⟨hv, fun _ => hleaves, ?_⟩
    intro m hm
    rcases hm with hm | hm
    · obtain ⟨b, hb, rfl⟩ := List.mem_map.mp hm
      exact hothers b.name (hfree b hb)
    · exact hothers m hm
  · have htaken : ∃ b ∈ before, b.name = d.name := by simpa using hfree
    rw [Plan.operations_forClass_of_taken htaken]
    exact ⟨hq, fun h => absurd h hfree, fun _ _ => rfl⟩

/-- A plan leaves what `Leaves` says under the name of every class that is the first of its name.
Names that an earlier class has, or none, are left alone. -/
theorem run_after {s : Snapshot} (hq : Steady now failing u) (mode : PlanMode)
    (before classes : List Collection)
    (same : ∀ d ∈ classes, (∀ b ∈ before, b.name ≠ d.name) →
      u.store.collections.named d.name = s.named d.name) :
    let v := (Plan.after s mode before classes).operations.foldl (step total) u
    Steady now failing v ∧
      (∀ d, (∀ b ∈ before, b.name ≠ d.name) → classes.find? (·.name == d.name) = some d →
        Leaves now failing mode d (s.named d.name) (v.store.collections.named d.name)) ∧
      ∀ m, m ∈ before.map (·.name) ∨ m ∉ classes.map (·.name) →
        v.store.collections.named m = u.store.collections.named m := by
  induction classes generalizing before u with
  | nil => exact ⟨hq, by simp, fun _ _ => rfl⟩
  | cons c rest ih =>
      rw [Plan.after, Plan.append_operations, List.foldl_append]
      obtain ⟨hw, hleaves, hclass⟩ := run_forClass total hq mode (same c List.mem_cons_self)
      have hsame : ∀ d ∈ rest, (∀ b ∈ before ++ [c], b.name ≠ d.name) →
          ((Plan.forClass s mode before c).operations.foldl (step total) u).store.collections.named
            d.name = s.named d.name := by
        intro d hd hfree
        have hdc : d.name ≠ c.name := fun e => hfree c (by simp) e.symm
        rw [hclass d.name (Or.inr hdc)]
        exact same d (List.mem_cons_of_mem _ hd) fun b hb => hfree b (List.mem_append_left _ hb)
      obtain ⟨hv, hrest, hothers⟩ := ih hw (before ++ [c]) hsame
      refine ⟨hv, ?_, ?_⟩
      · intro d hfree hfind
        by_cases hdc : c.name = d.name
        · obtain rfl : c = d := by simpa [hdc] using hfind
          rw [hothers c.name (Or.inl (by simp))]
          exact hleaves hfree
        · have hfind : rest.find? (·.name == d.name) = some d := by simpa [hdc] using hfind
          refine hrest d ?_ hfind
          intro b hb
          rcases List.mem_append.mp hb with hb | hb
          · exact hfree b hb
          · rwa [List.mem_singleton.mp hb]
      · intro m hm
        rw [List.map_cons, List.mem_cons, not_or] at hm
        rw [hothers m, hclass m]
        · exact hm.imp id And.left
        · rw [List.map_append, List.mem_append]
          exact hm.imp Or.inl And.right

end MemoryRun

/-! ## Runs -/

/-- A run in which no call is refused and in which time stands still. -/
def Run.undisturbed (classes : List Collection) (now : Instant) (mode : PlanMode) : Run :=
  ⟨classes, mode, ⟨fun _ => now, 0⟩, []⟩

namespace Run

variable {r : Run} {s : MemoryStore} {now : Instant}

theorem steady_start (h : IdsFresh s.collections s.nextId)
    (still : ∀ n, r.clock.reading n = now) : MemoryRun.Steady now r.failing (r.start s) :=
  ⟨h, rfl, still⟩

/-- What a run at one instant leaves under each name. -/
theorem leaves_result (h : IdsFresh s.collections s.nextId)
    (still : ∀ n, r.clock.reading n = now) :
    (∀ d, r.classes.find? (·.name == d.name) = some d →
      Leaves now r.failing r.mode d (s.collections.named d.name)
        ((r.result s).collections.named d.name)) ∧
    ∀ m, m ∉ r.classes.map (·.name) →
      (r.result s).collections.named m = s.collections.named m := by
  obtain ⟨-, hleaves, hothers⟩ := MemoryRun.run_after (r.plan s).operations.length
    (steady_start h still) r.mode [] r.classes (fun _ _ _ => rfl)
  exact ⟨fun d first => hleaves d (by simp) first, fun m hm => hothers m (Or.inr hm)⟩

theorem failing_result (h : IdsFresh s.collections s.nextId)
    (still : ∀ n, r.clock.reading n = now) : (r.result s).failing = r.failing :=
  (MemoryRun.run_after (r.plan s).operations.length (steady_start h still) r.mode [] r.classes
    (fun _ _ _ => rfl)).1.refusing

end Run

end DeclaredSchema
