import DeclaredSchema.Proofs.Store.History

/-! # When generated ids are ids

The store in memory counts its ids from one and does not look at those it was given. As long as no
collection of the start bears an id that will be generated, ids stay distinct and an id that was
answered leads to the collection it was answered for, whatever is asked in between. One collection
that does bear such an id is enough for both to fail.
-/

namespace DeclaredSchema

open MemoryStore Snapshot

/-- What can be asked of a store in memory, apart from a list of its collections. -/
inductive Request where
  | failOn (name : String)
  | createCollection (name : String)
  | createAttribute (id : String) (sent : ConcreteAttribute)
  | updateAttribute (id : String) (sent : ConcreteAttribute)

namespace MemoryStore

/-- The store after one request, whether it was refused or not. -/
def answered (s : MemoryStore) : Request → MemoryStore
  | .failOn name => s.failOn name
  | .createCollection name => (createCollection name s).2
  | .createAttribute id a => (createAttribute id a s).2
  | .updateAttribute id a => (updateAttribute id a s).2

/-- The store after a sequence of requests. -/
def afterRequests (s : MemoryStore) (requests : List Request) : MemoryStore :=
  requests.foldl answered s

/-! ## What a request leaves -/

/-- Everything that one request can do to the collections and the number of the next id. -/
inductive Answer (s : MemoryStore) : Snapshot → Nat → Prop where
  | unchanged : Answer s s.collections s.nextId
  | created (name : String) :
      Answer s (s.collections ++ [⟨generatedId s.nextId, name, []⟩]) (s.nextId + 1)
  | changed {c : RemoteCollection} (mem : c ∈ s.collections) (attributes : List RemoteAttribute) :
      Answer s (s.collections.setAttributes c.id attributes) s.nextId

theorem createCollection_cases (name : String) (s : MemoryStore) :
    (∃ f, (createCollection name s).1 = .error f ∧
      (createCollection name s).2.collections = s.collections ∧
      (createCollection name s).2.nextId = s.nextId) ∨
    (createCollection name s).1 = .ok (generatedId s.nextId) ∧
      (createCollection name s).2.collections =
        s.collections ++ [⟨generatedId s.nextId, name, []⟩] ∧
      (createCollection name s).2.nextId = s.nextId + 1 := by
  by_cases h : name ∈ s.failing
  · exact Or.inl ⟨.refused name, by simp [createCollection, record, h]⟩
  · exact Or.inr (by simp [createCollection, record, h])

/-- A change of one collection leaves all others, and the ids, as they are. -/
theorem answer_attempt {s t : MemoryStore} (hs : s.collections.ids.Nodup)
    (hcollections : t.collections = s.collections) (hnext : t.nextId = s.nextId) (name id : String)
    (change : List RemoteAttribute → Except Fault (List RemoteAttribute)) :
    Answer s (t.attempt name (changeCollection id change)).2.collections
      (t.attempt name (changeCollection id change)).2.nextId := by
  rcases attempt_cases t name (changeCollection id change) with ⟨f, hf⟩ | ⟨new, -, hnew, hf⟩
  · rw [hf, hcollections, hnext]
    exact .unchanged
  · rw [hf, hnext]
    rw [hcollections] at hnew
    by_cases hid : id ∈ s.collections.ids
    · obtain ⟨c, hc, rfl⟩ := List.mem_map.mp hid
      rw [changeCollection_of_mem hs hc] at hnew
      cases ha : change c.attributes with
      | error f => simp [ha, Except.map] at hnew
      | ok attributes =>
          rw [ha] at hnew
          obtain rfl := Except.ok.inj hnew
          exact .changed hc attributes
    · rw [changeCollection_of_not_mem hid] at hnew
      cases hnew

theorem answer_answered {s : MemoryStore} (hs : s.collections.ids.Nodup) (request : Request) :
    Answer s (s.answered request).collections (s.answered request).nextId := by
  cases request with
  | failOn name => exact .unchanged
  | createCollection name =>
      change Answer s (createCollection name s).2.collections (createCollection name s).2.nextId
      rcases createCollection_cases name s with ⟨f, -, hcollections, hnext⟩ |
        ⟨-, hcollections, hnext⟩
      · rw [hcollections, hnext]
        exact .unchanged
      · rw [hcollections, hnext]
        exact .created name
  | createAttribute id a =>
      exact answer_attempt (t := s.record (.createAttribute id a)) hs rfl rfl a.key id
        (addAttribute a)
  | updateAttribute id a =>
      exact answer_attempt (t := s.record (.updateAttribute id a)) hs rfl rfl a.key id
        (replaceAttribute a)

/-! ## Histories of requests -/

variable {s t : MemoryStore}

theorem idsFresh_answer (h : IdsFresh s.collections s.nextId) {collections : Snapshot}
    {nextId : Nat} (ha : Answer s collections nextId) : IdsFresh collections nextId := by
  cases ha with
  | unchanged => exact h
  | created name => exact h.append name
  | changed mem attributes => exact h.setAttributes _ attributes

/-- Ids that are fresh stay fresh. -/
theorem idsFresh_afterRequests (h : IdsFresh s.collections s.nextId) (requests : List Request) :
    IdsFresh (s.afterRequests requests).collections (s.afterRequests requests).nextId := by
  induction requests generalizing s with
  | nil => exact h
  | cons request rest ih => exact ih (idsFresh_answer h (answer_answered h.distinct request))

/-- A collection stays in its place under its id and name. -/
theorem place_answer {collections : Snapshot} {nextId : Nat} (ha : Answer s collections nextId)
    {k : Nat} {c : RemoteCollection} (hc : s.collections[k]? = some c) :
    ∃ d, collections[k]? = some d ∧ d.id = c.id ∧ d.name = c.name := by
  cases ha with
  | unchanged => exact ⟨c, hc, rfl, rfl⟩
  | created name =>
      have hk : k < s.collections.length := (List.getElem?_eq_some_iff.mp hc).choose
      exact ⟨c, by rw [List.getElem?_append_left hk, hc], rfl, rfl⟩
  | @changed b mem attributes =>
      refine ⟨if c.id = b.id then { c with attributes } else c, ?_, ?_⟩
      · rw [Snapshot.setAttributes, List.getElem?_map, hc]
        rfl
      · split <;> exact ⟨rfl, rfl⟩

theorem place_afterRequests (h : IdsFresh s.collections s.nextId) (requests : List Request)
    {k : Nat} {c : RemoteCollection} (hc : s.collections[k]? = some c) :
    ∃ d, (s.afterRequests requests).collections[k]? = some d ∧ d.id = c.id ∧ d.name = c.name := by
  induction requests generalizing s c with
  | nil => exact ⟨c, hc, rfl, rfl⟩
  | cons request rest ih =>
      have ha := answer_answered h.distinct request
      obtain ⟨b, hb, hid, hname⟩ := place_answer ha hc
      obtain ⟨d, hd, hdid, hdname⟩ := ih (idsFresh_answer h ha) hb
      exact ⟨d, hd, hdid.trans hid, hdname.trans hname⟩

/-! ## Where an id leads -/

/-- Calls on an id act on the collection at a place, which has that id and the given name. -/
def LeadsTo (s : MemoryStore) (id name : String) (k : Nat) : Prop :=
  ∃ c, s.collections[k]? = some c ∧ c.id = id ∧ c.name = name ∧ ∀ a : ConcreteAttribute,
    createAttribute id a s = (s.record (.createAttribute id a)).attempt a.key (fun collections =>
      (addAttribute a c.attributes).map fun attributes =>
        collections.set k { c with attributes }) ∧
    updateAttribute id a s = (s.record (.updateAttribute id a)).attempt a.key (fun collections =>
      (replaceAttribute a c.attributes).map fun attributes =>
        collections.set k { c with attributes })

/-- Among distinct ids, giving the collection of an id other attributes is a change at its place. -/
theorem setAttributes_eq_set {collections : Snapshot} (h : collections.ids.Nodup) {k : Nat}
    {c : RemoteCollection} (hc : collections[k]? = some c) (attributes : List RemoteAttribute) :
    collections.setAttributes c.id attributes = collections.set k { c with attributes } := by
  apply List.ext_getElem?
  intro i
  rw [Snapshot.setAttributes, List.getElem?_map, List.getElem?_set]
  by_cases hik : k = i
  · subst hik
    have hk : k < collections.length := (List.getElem?_eq_some_iff.mp hc).choose
    rw [hc, if_pos rfl, if_pos hk]
    simp
  · rw [if_neg hik]
    cases hd : collections[i]? with
    | none => rfl
    | some d =>
        have hids (n : Nat) : collections.ids[n]? = collections[n]?.map (·.id) := List.getElem?_map
        have hne : d.id ≠ c.id := by
          intro hid
          have hk : k < collections.ids.length := by
            rw [ids, List.length_map]
            exact (List.getElem?_eq_some_iff.mp hc).choose
          have hsame : collections.ids[k]? = collections.ids[i]? := by
            rw [hids, hids, hc, hd, Option.map_some, Option.map_some, hid]
          exact hik ((List.getElem?_inj hk h).mp hsame)
        simp [hne]

theorem attempt_congr (s : MemoryStore) (name : String)
    {change change' : Snapshot → Except Fault Snapshot}
    (h : change s.collections = change' s.collections) :
    s.attempt name change = s.attempt name change' := by
  rw [attempt, attempt, h]

theorem leadsTo_of_place (h : s.collections.ids.Nodup) {k : Nat} {c : RemoteCollection}
    (hc : s.collections[k]? = some c) : s.LeadsTo c.id c.name k := by
  have hchange (change : List RemoteAttribute → Except Fault (List RemoteAttribute)) :
      changeCollection c.id change s.collections = (change c.attributes).map fun attributes =>
        s.collections.set k { c with attributes } := by
    rw [changeCollection_of_mem h (List.mem_of_getElem? hc)]
    cases change c.attributes with
    | error f => rfl
    | ok attributes => simp only [Except.map, setAttributes_eq_set h hc]
  refine ⟨c, hc, rfl, rfl, fun a => ⟨?_, ?_⟩⟩
  · exact attempt_congr _ _ (hchange (addAttribute a))
  · exact attempt_congr _ _ (hchange (replaceAttribute a))

/-- The id that a creation answers with leads to what it created from then on. -/
theorem leadsTo_created (h : IdsFresh s.collections s.nextId) {name id : String}
    (hcreate : createCollection name s = (.ok id, t)) (later : List Request) :
    (t.afterRequests later).LeadsTo id name s.collections.length := by
  rcases createCollection_cases name s with ⟨f, hf, -⟩ | ⟨hid, hcollections, hnext⟩
  · rw [hcreate] at hf
    cases hf
  · rw [hcreate] at hid hcollections hnext
    obtain rfl := Except.ok.inj hid
    have ht : IdsFresh t.collections t.nextId := by
      rw [hcollections, hnext]
      exact h.append name
    have hplace : t.collections[s.collections.length]? = some ⟨generatedId s.nextId, name, []⟩ := by
      rw [hcollections]
      simp
    obtain ⟨d, hd, hdid, hdname⟩ := place_afterRequests ht later hplace
    have hleads := leadsTo_of_place (idsFresh_afterRequests ht later).distinct hd
    rwa [hdid, hdname] at hleads

/-! ## The ids that must not be in use -/

/-- Creations that are not refused use up the ids in turn. -/
theorem ids_createCollections (name : String) (hpass : name ∉ s.failing) (n : Nat) :
    (s.afterRequests (List.replicate n (.createCollection name))).collections.ids =
      s.collections.ids ++ (List.range n).map fun i => generatedId (s.nextId + i) := by
  induction n generalizing s with
  | zero => simp [afterRequests]
  | succ n ih =>
      have hstep : (s.answered (.createCollection name)).collections =
            s.collections ++ [⟨generatedId s.nextId, name, []⟩] ∧
          (s.answered (.createCollection name)).nextId = s.nextId + 1 ∧
          name ∉ (s.answered (.createCollection name)).failing := by
        simp [answered, createCollection, record, hpass]
      obtain ⟨hcollections, hnext, hfailing⟩ := hstep
      have hshift : ((fun i => generatedId (s.nextId + i)) ∘ Nat.succ) =
          fun i => generatedId (s.nextId + 1 + i) := by
        funext i
        simp only [Function.comp_apply]
        congr 1
        omega
      calc (s.afterRequests (List.replicate (n + 1) (.createCollection name))).collections.ids
          = ((s.answered (.createCollection name)).afterRequests
              (List.replicate n (.createCollection name))).collections.ids := rfl
        _ = s.collections.ids ++ [generatedId s.nextId] ++
              (List.range n).map fun i => generatedId (s.nextId + 1 + i) := by
            rw [ih hfailing, hcollections, hnext]
            simp [ids]
        _ = s.collections.ids ++
              (List.range (n + 1)).map fun i => generatedId (s.nextId + i) := by
            rw [List.range_succ_eq_map, List.map_cons, List.map_map, hshift]
            simp

/-- An id that is in use is generated again. -/
theorem exists_repeated_id {n : Nat} (hn : s.nextId ≤ n) (used : generatedId n ∈ s.collections.ids)
    {name : String} (hpass : name ∉ s.failing) :
    ¬ (s.afterRequests
      (List.replicate (n - s.nextId + 1) (.createCollection name))).collections.ids.Nodup := by
  rw [ids_createCollections name hpass, List.nodup_append]
  rintro ⟨-, -, hdisjoint⟩
  refine hdisjoint _ used (generatedId n) ?_ rfl
  refine List.mem_map.mpr ⟨n - s.nextId, List.mem_range.mpr (by omega), ?_⟩
  congr 1
  omega

end MemoryStore

/-- Exactly if no collection that a store starts with bears an id that is generated, ids stay
distinct through every sequence of requests, and the id of a new collection leads to this
collection, at its own place, through everything that is asked later. -/
theorem generated_ids_lead_home_iff {snapshot : Snapshot} (distinct : snapshot.ids.Nodup) :
    (∀ earlier : List Request, let s := (ofSnapshot snapshot).afterRequests earlier
      s.collections.ids.Nodup ∧ ∀ name id t, createCollection name s = (.ok id, t) →
        ∀ later : List Request, (t.afterRequests later).LeadsTo id name s.collections.length) ↔
    ∀ n, 1 ≤ n → generatedId n ∉ snapshot.ids := by
  constructor
  · intro h n hn used
    have hpass : "" ∉ (ofSnapshot snapshot).failing := List.not_mem_nil
    exact exists_repeated_id (s := ofSnapshot snapshot) hn used hpass (h _).1
  · intro unused earlier s
    have hs : IdsFresh s.collections s.nextId :=
      idsFresh_afterRequests (s := ofSnapshot snapshot) ⟨distinct, unused⟩ earlier
    exact ⟨hs.distinct, fun name id t hcreate later => leadsTo_created hs hcreate later⟩

/-- Notes that bear the id `notes` are told apart from what is created later. -/
theorem generated_ids_lead_home_notes :
    let snapshot : Snapshot := [⟨"notes", "Note", []⟩]
    let t := (createCollection "Post" (ofSnapshot snapshot)).2
    snapshot.ids.Nodup ∧ t.LeadsTo "col1" "Post" 1 := by
  intro snapshot t
  have distinct : snapshot.ids.Nodup := List.nodup_singleton _
  have unused : ∀ n, 1 ≤ n → generatedId n ∉ snapshot.ids := by
    intro n _ hm
    have hid : generatedId n = "notes" := List.mem_singleton.mp hm
    simp [generatedId, ← String.toList_inj] at hid
  have hall := (generated_ids_lead_home_iff distinct).mpr unused []
  have hid : generatedId 1 = "col1" := by decide +kernel
  have hcreate : createCollection "Post" (ofSnapshot snapshot) = (.ok "col1", t) :=
    Prod.ext (congrArg Except.ok hid) rfl
  exact ⟨distinct, hall.2 "Post" "col1" t hcreate []⟩

/-- Notes that bear the id `col1` get the title that a plan wants to give to the posts. -/
theorem generated_id_in_use :
    let snapshot : Snapshot := [⟨"col1", "Note", []⟩]
    let classes : List Collection := [⟨"Post", "post.py", [{ key := "title", kind := .string }]⟩]
    let s := (apply store (plan classes snapshot .createOnly).operations ⟨fun _ => ⟨0, 0⟩, 0⟩
      (ofSnapshot snapshot)).store
    snapshot.ids.Nodup ∧ ¬ s.collections.ids.Nodup ∧
      s.collections.map (fun c => (c.name, c.attributes.map (·.key))) =
        [("Note", ["title"]), ("Post", [])] := by
  dsimp only
  decide +kernel

end DeclaredSchema
