import DeclaredSchema.Proofs.Plan.Planned
import DeclaredSchema.Proofs.Store.Evolution
import DeclaredSchema.Proofs.Store.Step

/-! # Histories of a store in memory

A history is any sequence of runs, each of which plans against what the store then holds and carries
the plan out, while calls may be refused. `Within` is the invariant of one run from its start:
whatever has been carried out of the plan, everything the store held is in place, what differs was
declared, and the collections that are new bear names of planned creations.
-/

namespace DeclaredSchema

open MemoryStore Snapshot

/-- What a run is given besides the store. -/
structure Run where
  classes : List Collection
  mode : PlanMode
  clock : Clock
  failing : List String

namespace Run

def plan (r : Run) (s : MemoryStore) : Plan := DeclaredSchema.plan r.classes s.collections r.mode

/-- The run before its first operation. -/
def start (r : Run) (s : MemoryStore) : MemoryRun :=
  { store := { s with failing := r.failing }, clock := r.clock }

/-- The run after its first `n` operations. -/
def after (r : Run) (s : MemoryStore) (n : Nat) : MemoryRun :=
  ((r.plan s).operations.take n).foldl (MemoryRun.step (r.plan s).operations.length) (r.start s)

/-- The store when the run is over. -/
def result (r : Run) (s : MemoryStore) : MemoryStore :=
  (apply MemoryStore.store (r.plan s).operations r.clock { s with failing := r.failing }).store

/-- The stores that a run passes through. -/
def moments (r : Run) (s : MemoryStore) : List MemoryStore :=
  (List.range ((r.plan s).operations.length + 1)).map fun n => (r.after s n).store

/-- An update whose first class of a name declares a key last with the given kind. -/
def Declares (r : Run) (name key : String) (kind : Option Kind) : Prop :=
  r.mode = .update ∧ ∃ c a, r.classes.find? (·.name == name) = some c ∧
    Plan.lastOf? c.attributes key = some a ∧ kind = some a.kind

theorem result_eq_after (r : Run) (s : MemoryStore) :
    r.result s = (r.after s (r.plan s).operations.length).store := by
  rw [after, List.take_length]
  rfl

end Run

/-- The store after a sequence of runs. -/
def history (s : MemoryStore) (runs : List Run) : MemoryStore :=
  runs.foldl (fun s r => r.result s) s

/-- The stores that a sequence of runs passes through, also within a run. -/
def moments (s : MemoryStore) : List Run → List MemoryStore
  | [] => [s]
  | r :: rest => r.moments s ++ moments (r.result s) rest

/-- No id is used twice, and none that the store will generate is used. -/
structure IdsFresh (collections : Snapshot) (nextId : Nat) : Prop where
  distinct : collections.ids.Nodup
  unused : ∀ n, nextId ≤ n → generatedId n ∉ collections.ids

theorem IdsFresh.append {collections : Snapshot} {nextId : Nat} (h : IdsFresh collections nextId)
    (name : String) :
    IdsFresh (collections ++ [⟨generatedId nextId, name, []⟩]) (nextId + 1) := by
  have hids : ids (collections ++ [⟨generatedId nextId, name, []⟩]) =
      collections.ids ++ [generatedId nextId] := List.map_append
  constructor
  · rw [hids, List.nodup_append]
    refine ⟨h.distinct, by simp, ?_⟩
    rintro x hx y hy rfl
    exact h.unused nextId (Nat.le_refl _) (by rw [← List.mem_singleton.mp hy]; exact hx)
  · intro n hle hm
    rw [hids, List.mem_append, List.mem_singleton] at hm
    rcases hm with hm | hm
    · exact h.unused n (by omega) hm
    · have hn := generatedId_injective hm
      omega

theorem IdsFresh.setAttributes {collections : Snapshot} {nextId : Nat}
    (h : IdsFresh collections nextId) (id : String) (attributes : List RemoteAttribute) :
    IdsFresh (collections.setAttributes id attributes) nextId := by
  constructor
  · rw [ids_setAttributes]
    exact h.distinct
  · rw [ids_setAttributes]
    exact h.unused

/-- The invariant of a run from `s` that has carried out `done` of its plan: the store holds `t`,
and the run remembers the ids `created`. -/
structure Within (r : Run) (s : Snapshot) (done : List Operation) (t : Snapshot) (nextId : Nat)
    (created : List (String × Option String)) : Prop where
  ids : IdsFresh t nextId
  evolves : s.Evolves r.Declares t
  untouched : r.mode = .createOnly → s <+: t
  added : ∃ names, t.names = s.names ++ names ∧ names.Sublist (Plan.creations done)
  /-- Remembered ids belong to collections that this run has created. -/
  remembered : ∀ name id, created.lookup name = some (some id) → id ∉ s.ids
  keys : s.KeysDistinct → t.KeysDistinct

namespace Within

variable {r : Run} {s : Snapshot} {done : List Operation}

theorem start (r : Run) {nextId : Nat} (h : IdsFresh s nextId) : Within r s [] s nextId [] where
  ids := h
  evolves := .refl _ _
  untouched _ := List.prefix_refl _
  added := ⟨[], by simp, List.nil_sublist _⟩
  remembered := by simp
  keys h := h

/-- Ids of the start are still in use. -/
theorem mem_ids {t : Snapshot} {nextId : Nat} {created : List (String × Option String)}
    (h : Within r s done t nextId created) {id : String} (hid : id ∈ s.ids) : id ∈ t.ids := by
  obtain ⟨c, hc, rfl⟩ := List.mem_map.mp hid
  obtain ⟨i, hi⟩ := List.getElem?_of_mem hc
  obtain ⟨d, hd, hdc, -⟩ := h.evolves i c hi
  exact hdc ▸ List.mem_map_of_mem (List.mem_of_getElem? hd)

theorem sublist_done {names : List String} (h : names.Sublist (Plan.creations done))
    (op : Operation) : names.Sublist (Plan.creations (done ++ [op])) := by
  rw [Plan.creations_append]
  exact h.trans (List.sublist_append_left _ _)

/-- Changing the attributes of one collection, other than one of the start in create-only mode,
keeps the invariant. -/
theorem setAttributes {t : Snapshot} {nextId : Nat} {created : List (String × Option String)}
    (h : Within r s done t nextId created) (op : Operation) {c : RemoteCollection} (hc : c ∈ t)
    {attributes : List RemoteAttribute}
    (hevolve : AttributesEvolve (r.Declares c.name) c.attributes attributes)
    (hkeys : (c.attributes.map (·.key)).Nodup → (attributes.map (·.key)).Nodup)
    (hnew : r.mode = .createOnly → c.id ∉ s.ids) :
    Within r s (done ++ [op]) (t.setAttributes c.id attributes) nextId created ∧
      t.Evolves r.Declares (t.setAttributes c.id attributes) := by
  have hstep : t.Evolves r.Declares (t.setAttributes c.id attributes) :=
    .setAttributes h.ids.distinct hc hevolve
  refine ⟨?_, hstep⟩
  obtain ⟨names, hnames, hsub⟩ := h.added
  constructor
  · exact h.ids.setAttributes c.id attributes
  · exact h.evolves.trans hstep
  · intro hmode
    obtain ⟨new, rfl⟩ := h.untouched hmode
    refine ⟨Snapshot.setAttributes c.id attributes new, ?_⟩
    rw [setAttributes_append, setAttributes_of_not_mem (hnew hmode)]
  · exact ⟨names, by rw [names_setAttributes, hnames], sublist_done hsub op⟩
  · exact h.remembered
  · exact fun hs => (h.keys hs).setAttributes (hkeys (h.keys hs c hc))

section Effects

variable {t : Snapshot} {nextId : Nat} {created : List (String × Option String)}

/-- An operation that changes nothing but what is remembered. -/
theorem unchanged (h : Within r s done t nextId created) (op : Operation)
    {remembered : List (String × Option String)}
    (hids : ∀ name id, remembered.lookup name = some (some id) → id ∉ s.ids) :
    Within r s (done ++ [op]) t nextId remembered := by
  obtain ⟨names, hnames, hsub⟩ := h.added
  exact ⟨h.ids, h.evolves, h.untouched, ⟨names, hnames, sublist_done hsub op⟩, hids, h.keys⟩

theorem createCollection (h : Within r s done t nextId created) (c : Collection) :
    Within r s (done ++ [.createCollection c]) (t ++ [⟨generatedId nextId, c.name, []⟩])
      (nextId + 1) ((c.name, some (generatedId nextId)) :: created) := by
  obtain ⟨names, hnames, hsub⟩ := h.added
  constructor
  · exact h.ids.append c.name
  · exact h.evolves.trans (Evolves.append r.Declares t _)
  · exact fun hmode => (h.untouched hmode).trans (List.prefix_append _ _)
  · refine ⟨names ++ [c.name], ?_, ?_⟩
    · rw [← List.append_assoc, ← hnames]
      exact List.map_append
    · rw [Plan.creations_append]
      exact hsub.append (List.Sublist.refl _)
  · intro name id hl hid
    by_cases hn : name = c.name
    · obtain rfl : generatedId nextId = id := by simpa [List.lookup_cons, hn] using hl
      exact h.ids.unused nextId (Nat.le_refl _) (h.mem_ids hid)
    · rw [List.lookup_cons, beq_false_of_ne hn] at hl
      exact h.remembered name id hl hid
  · intro hs d hd
    rcases List.mem_append.mp hd with hd | hd
    · exact h.keys hs d hd
    · rw [List.mem_singleton.mp hd]
      exact List.nodup_nil

/-- A planned attribute goes to a collection of this run, if the run may only create. -/
theorem target_not_mem (h : Within r s done t nextId created) {ref : CollectionRef} {a : Attribute}
    (hop : Plan.Planned r.classes s r.mode (.createAttribute ref a)) {id : String}
    (target : Apply.target? created ref = .ok id) (hmode : r.mode = .createOnly) : id ∉ s.ids := by
  cases hop with
  | createPending =>
      simp only [Apply.target?] at target
      split at target
      · next hl => exact h.remembered _ _ (by rw [hl, Except.ok.inj target])
      · cases target
      · cases target
  | createExisting _ _ update =>
      rw [hmode] at update
      cases update

/-- A planned update changes the attribute that it was planned from. -/
theorem attributesEvolve_update (h : Within r s done t nextId created) {c : RemoteCollection}
    (mem : c ∈ t) {name : String} {a : Attribute} {e x : RemoteAttribute}
    (hop : Plan.Planned r.classes s r.mode (.updateAttribute c.id name a e))
    {front rest : List RemoteAttribute} (split : c.attributes = front ++ x :: rest)
    (first : ∀ y ∈ front, y.key ≠ a.key) (key : x.key = a.key) (now : Instant) :
    r.mode = .update ∧ AttributesEvolve (r.Declares c.name) c.attributes
      (front ++ stored (a.mergeInto e now) :: rest) := by
  obtain ⟨update, cls, remote, firstClass, declared, single, hid, held, kind⟩ :=
    hop.of_updateAttribute
  obtain ⟨hremote, hname⟩ := mem_named.mp (single ▸ List.mem_singleton_self remote)
  obtain ⟨hcn, hattributes⟩ := h.evolves.of_mem h.ids.distinct hremote mem hid.symm
  have hx : c.attributes.find? (·.key == a.key) = some x := by
    have hfront : front.find? (·.key == a.key) = none := by simpa using first
    rw [split, List.find?_append, hfront]
    simp [key]
  obtain ⟨f, hf, hfk⟩ := hattributes.find?_key held
  obtain rfl : x = f := Option.some.inj (hx.symm.trans hf)
  have hkind : x.kind = some a.kind := hfk.trans kind
  refine ⟨update, ?_⟩
  rw [split]
  refine .replace front rest ?_ hkind.symm ⟨update, cls, a, ?_, ?_, hkind⟩
  · exact key.symm
  · rw [hcn, hname]
    exact firstClass
  · rw [key]
    exact Plan.lastOf?_of_mem_collapse declared

end Effects

/-- Everything that a planned operation can come to keeps the invariant. -/
theorem effect {u : MemoryRun} (h : Within r s done u.store.collections u.store.nextId u.created)
    {op : Operation} (hop : Plan.Planned r.classes s r.mode op) {t : Snapshot} {nextId : Nat}
    {created : List (String × Option String)} (he : MemoryRun.Effect u op t nextId created) :
    Within r s (done ++ [op]) t nextId created ∧ u.store.collections.Evolves r.Declares t := by
  cases he with
  | nothing => exact ⟨h.unchanged op h.remembered, .refl _ _⟩
  | collectionRefused c =>
      refine ⟨h.unchanged _ fun name id hl => ?_, .refl _ _⟩
      by_cases hn : name = c.name
      · simp [hn] at hl
      · rw [List.lookup_cons, beq_false_of_ne hn] at hl
        exact h.remembered name id hl
  | collectionCreated c => exact ⟨h.createCollection c, .append _ _ _⟩
  | attributeCreated mem target absent =>
      refine h.setAttributes _ mem (.append _ _ _) (fun hk => ?_) (h.target_not_mem hop target)
      rw [List.map_append, List.nodup_append]
      refine ⟨hk, by simp, ?_⟩
      rintro x hx y hy rfl
      obtain ⟨e, he, rfl⟩ := List.mem_map.mp hx
      exact absent e he (by simpa [stored, Attribute.concrete] using hy)
  | attributeUpdated mem split first key =>
      obtain ⟨update, hevolve⟩ :=
        h.attributesEvolve_update mem hop split first key u.clock.now
      refine h.setAttributes _ mem hevolve (fun hk => ?_) fun hmode => ?_
      · rw [split] at hk
        simpa [stored, Attribute.mergeInto, key] using hk
      · rw [hmode] at update
        cases update

end Within

/-! ## Runs and sequences of runs -/

namespace Run

variable {r : Run} {s : MemoryStore}

theorem after_succ {n : Nat} {op : Operation} (h : (r.plan s).operations[n]? = some op) :
    r.after s (n + 1) = (r.after s n).step (r.plan s).operations.length op := by
  rw [after, List.take_add_one, h, Option.toList_some, List.foldl_append]
  rfl

theorem after_of_length_le {n : Nat} (h : (r.plan s).operations.length ≤ n) :
    r.after s n = r.after s (r.plan s).operations.length := by
  rw [after, after, List.take_of_length_le h, List.take_length]

/-- The invariant holds at every moment of a run. -/
theorem within_after (h : IdsFresh s.collections s.nextId) (n : Nat) :
    Within r s.collections ((r.plan s).operations.take n) (r.after s n).store.collections
      (r.after s n).store.nextId (r.after s n).created := by
  induction n with
  | zero => exact .start r h
  | succ n ih =>
      cases hop : (r.plan s).operations[n]? with
      | none =>
          have hle : (r.plan s).operations.length ≤ n := List.getElem?_eq_none_iff.mp hop
          rw [List.take_of_length_le hle, after_of_length_le hle] at ih
          rw [List.take_of_length_le (by omega), after_of_length_le (by omega)]
          exact ih
      | some op =>
          rw [after_succ hop, List.take_add_one, hop]
          exact (ih.effect (Plan.planned_of_mem (List.mem_of_getElem? hop))
            (MemoryRun.step_effect _ ih.ids.distinct op)).1

/-- From one moment of a run to a later one only declared attributes change. -/
theorem evolves_after (h : IdsFresh s.collections s.nextId) {m n : Nat} (hmn : m ≤ n) :
    (r.after s m).store.collections.Evolves r.Declares (r.after s n).store.collections := by
  induction hmn with
  | refl => exact .refl _ _
  | @step n _ ih =>
      refine ih.trans ?_
      cases hop : (r.plan s).operations[n]? with
      | none =>
          have hle : (r.plan s).operations.length ≤ n := List.getElem?_eq_none_iff.mp hop
          rw [after_of_length_le (r := r) (s := s) hle,
            after_of_length_le (r := r) (s := s) (n := n + 1) (by omega)]
          exact .refl _ _
      | some op =>
          rw [after_succ hop]
          have hin := within_after (r := r) h n
          exact (hin.effect (Plan.planned_of_mem (List.mem_of_getElem? hop))
            (MemoryRun.step_effect _ hin.ids.distinct op)).2

theorem idsFresh_result (h : IdsFresh s.collections s.nextId) :
    IdsFresh (r.result s).collections (r.result s).nextId := by
  rw [result_eq_after]
  exact (within_after h _).ids

end Run

/-- An attribute may change if its type has a kind. -/
def HasKind (_name _key : String) (kind : Option Kind) : Prop := kind ≠ none

theorem Run.hasKind_of_declares {r : Run} {name key : String} {kind : Option Kind}
    (h : r.Declares name key kind) : HasKind name key kind := by
  obtain ⟨-, c, a, -, -, rfl⟩ := h
  exact Option.some_ne_none a.kind

theorem idsFresh_history {s : MemoryStore} (h : IdsFresh s.collections s.nextId)
    (runs : List Run) :
    IdsFresh (history s runs).collections (history s runs).nextId := by
  induction runs generalizing s with
  | nil => exact h
  | cons r rest ih => exact ih (Run.idsFresh_result h)

theorem Run.evolves_moments {r : Run} {s : MemoryStore} (h : IdsFresh s.collections s.nextId) :
    (r.moments s).Pairwise fun t u => t.collections.Evolves HasKind u.collections := by
  rw [moments, List.pairwise_map]
  refine List.pairwise_lt_range.imp fun hmn => ?_
  exact (evolves_after h (Nat.le_of_lt hmn)).mono fun _ _ _ => hasKind_of_declares

theorem Run.evolves_of_mem_moments {r : Run} {s t : MemoryStore}
    (h : IdsFresh s.collections s.nextId) (ht : t ∈ r.moments s) :
    s.collections.Evolves HasKind t.collections ∧
      t.collections.Evolves HasKind (r.result s).collections := by
  obtain ⟨n, hn, rfl⟩ := List.mem_map.mp ht
  have hn : n ≤ (r.plan s).operations.length := by
    have := List.mem_range.mp hn
    omega
  rw [result_eq_after]
  exact ⟨(evolves_after h (Nat.zero_le n)).mono fun _ _ _ => hasKind_of_declares,
    (evolves_after h hn).mono fun _ _ _ => hasKind_of_declares⟩

theorem evolves_of_mem_moments {s t : MemoryStore} (h : IdsFresh s.collections s.nextId)
    {runs : List Run} (ht : t ∈ moments s runs) :
    s.collections.Evolves HasKind t.collections := by
  induction runs generalizing s with
  | nil =>
      rw [List.mem_singleton.mp ht]
      exact .refl _ _
  | cons r rest ih =>
      rcases List.mem_append.mp ht with ht | ht
      · exact (Run.evolves_of_mem_moments h ht).1
      · have hrun : s.collections.Evolves HasKind (r.result s).collections := by
          rw [Run.result_eq_after]
          exact (Run.evolves_after h (Nat.zero_le _)).mono fun _ _ _ => Run.hasKind_of_declares
        exact hrun.trans (ih (Run.idsFresh_result h) ht)

theorem evolves_moments {s : MemoryStore} (h : IdsFresh s.collections s.nextId)
    (runs : List Run) :
    (moments s runs).Pairwise fun t u => t.collections.Evolves HasKind u.collections := by
  induction runs generalizing s with
  | nil => exact List.pairwise_singleton _ _
  | cons r rest ih =>
      refine List.pairwise_append.mpr ⟨Run.evolves_moments h, ih (Run.idsFresh_result h), ?_⟩
      intro t ht u hu
      exact (Run.evolves_of_mem_moments h ht).2.trans
        (evolves_of_mem_moments (Run.idsFresh_result h) hu)

/-- Whatever runs are made, and whichever calls are refused: at every moment all that was there at
an earlier moment is in its place, with its kind, and as it was if its type has none. Between two
moments of a run that follows, its start among them, only what the run declares with the same kind
changes. Nothing that was there before such a run changes in create-only mode, its new collections
have names that were free and names of their own, and ids and keys that were distinct stay so. -/
theorem histories_are_safe (s : MemoryStore) (distinct : s.collections.ids.Nodup)
    (unused : ∀ n, s.nextId ≤ n → generatedId n ∉ s.collections.ids) (runs : List Run) :
    ((moments s runs).Pairwise fun t u =>
      t.collections.Evolves (fun _ _ kind => kind ≠ none) u.collections) ∧
    ∀ (r : Run) (n : Nat),
      let t := history s runs
      let u := (r.after t n).store
      (∀ m ≤ n, (r.after t m).store.collections.Evolves r.Declares u.collections) ∧
      (r.mode = .createOnly → t.collections <+: u.collections) ∧
      (∃ names, u.collections.names = t.collections.names ++ names ∧ names.Nodup ∧
        ∀ name ∈ names, name ∉ t.collections.names) ∧
      (t.collections.KeysDistinct → u.collections.KeysDistinct) ∧
      u.collections.ids.Nodup ∧ ∀ m, u.nextId ≤ m → generatedId m ∉ u.collections.ids := by
  have hs : IdsFresh s.collections s.nextId := ⟨distinct, unused⟩
  refine ⟨evolves_moments hs runs, ?_⟩
  intro r n t u
  have ht := idsFresh_history hs runs
  have hin := Run.within_after (r := r) ht n
  obtain ⟨names, hnames, hsub⟩ := hin.added
  have hplan : names.Sublist (Plan.creations (r.plan t).operations) :=
    hsub.trans ((List.take_sublist _ _).filterMap _)
  refine ⟨fun m hmn => Run.evolves_after ht hmn, hin.untouched, ⟨names, hnames, ?_, ?_⟩, hin.keys,
    hin.ids.distinct, hin.ids.unused⟩
  · exact hplan.nodup (Plan.nodup_creations_plan r.classes t.collections r.mode)
  · exact fun name hn => Plan.named_of_mem_creations (hplan.subset hn)

/-- A point has no kind and stays, a title may be updated, and a refused name is made up for later. -/
theorem histories_are_safe_posts :
    let s : MemoryStore := ofSnapshot [⟨"posts", "Post",
      [⟨"place", none, "point", false, none, {}⟩,
        ⟨"title", some .string, "string", false, none, {}⟩]⟩]
    let runs : List Run := [⟨[⟨"Tag", "tags.py", [⟨"label", .string, true, true, false, none, {}⟩]⟩],
      .update, ⟨fun _ => ⟨0, 0⟩, 0⟩, ["Tag"]⟩]
    (s.collections.ids.Nodup ∧ ∀ n, s.nextId ≤ n → generatedId n ∉ s.collections.ids) ∧
      ((moments s runs).Pairwise fun t u =>
        t.collections.Evolves (fun _ _ kind => kind ≠ none) u.collections) ∧
      (history s runs).collections.ids.Nodup := by
  intro s runs
  have distinct : s.collections.ids.Nodup := List.nodup_singleton _
  have unused : ∀ n, s.nextId ≤ n → generatedId n ∉ s.collections.ids := by
    intro n _ hm
    have hid : generatedId n = "posts" := List.mem_singleton.mp hm
    simp [generatedId, ← String.toList_inj] at hid
  obtain ⟨hmoments, hruns⟩ := histories_are_safe s distinct unused runs
  exact ⟨⟨distinct, unused⟩, hmoments, (hruns ⟨[], .update, ⟨fun _ => ⟨0, 0⟩, 0⟩, []⟩ 0).2.2.2.2.1⟩

end DeclaredSchema
