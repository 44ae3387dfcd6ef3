import DeclaredSchema.Proofs.Store.Memory

/-! # A refused call leaves no trace but its record

Every call is written down first and may then fail at several points: its name is set to fail, no
collection has the id, or the attribute is there already or not at all. Whichever it is, collections
and the number of the next id are what they were. A call that goes through changes one place.
-/

namespace DeclaredSchema

open MemoryStore

/-- The first entry of a list that bears a name, between the entries before and after it. -/
structure FirstBearing {α : Type} (nameOf : α → String) (name : String) (entries before : List α)
    (entry : α) (after : List α) : Prop where
  split : entries = before ++ entry :: after
  bears : nameOf entry = name
  absent : ∀ x ∈ before, nameOf x ≠ name

namespace FirstBearing

variable {α : Type} {nameOf : α → String} {name : String} {entries before after : List α}
  {entry : α}

theorem exists_of_mem {x : α} (hx : x ∈ entries) (hname : nameOf x = name) :
    ∃ before entry after, FirstBearing nameOf name entries before entry after := by
  cases hf : entries.find? (nameOf · == name) with
  | none => exact absurd hname (by simpa using List.find?_eq_none.mp hf x hx)
  | some entry =>
      obtain ⟨hentry, before, after, hsplit, habsent⟩ := List.find?_eq_some_iff_append.mp hf
      exact ⟨before, entry, after, hsplit, by simpa using hentry, by simpa using habsent⟩

theorem find?_eq (h : FirstBearing nameOf name entries before entry after) :
    entries.find? (nameOf · == name) = some entry := by
  refine List.find?_eq_some_iff_append.mpr ⟨?_, before, after, h.split, ?_⟩
  · simpa using h.bears
  · simpa using h.absent

/-- No other entry is the first of its name. -/
theorem entry_unique (h : FirstBearing nameOf name entries before entry after)
    {before' after' : List α} {entry' : α}
    (h' : FirstBearing nameOf name entries before' entry' after') : entry = entry' :=
  Option.some.inj (h.find?_eq.symm.trans h'.find?_eq)

end FirstBearing

namespace MemoryStore

open Snapshot

theorem calls_record (s : MemoryStore) (call : StoreCall) :
    (s.record call).calls = s.calls ++ [call] := List.reverse_cons

/-- The change of a collection is one of the first of its id, wherever that stands. -/
theorem changeCollection_first {id : String} {s before after : Snapshot} {c : RemoteCollection}
    (h : FirstBearing (·.id) id s before c after)
    (change : List RemoteAttribute → Except Fault (List RemoteAttribute)) :
    changeCollection id change s = (change c.attributes).map fun attributes =>
      before ++ { c with attributes } :: after := by
  obtain ⟨rfl, hid, habsent⟩ := h
  induction before with
  | nil =>
      rw [List.nil_append, changeCollection, if_pos hid]
      cases change c.attributes <;> rfl
  | cons d rest ih =>
      have hd : d.id ≠ id := habsent d List.mem_cons_self
      rw [List.cons_append, changeCollection, if_neg hd,
        ih fun x hx => habsent x (List.mem_cons_of_mem _ hx)]
      cases change c.attributes <;> rfl

/-! ## All or nothing -/

/-- How a call ends: it fails exactly if it is `barred`. It is written down in any case and no name
is set to fail or to pass; the collections and the number of the next id stay if it fails, and
otherwise change as `change` says. -/
structure AllOrNothing {α : Type} (s : MemoryStore) (call : StoreCall) (barred : Prop)
    (change : α → Snapshot → Nat → Prop) (result : Except Fault α × MemoryStore) : Prop where
  fails_iff : (∃ f, result.1 = .error f) ↔ barred
  recorded : result.2.calls = s.calls ++ [call]
  failing : result.2.failing = s.failing
  refused : ∀ f, result.1 = .error f →
    result.2.collections = s.collections ∧ result.2.nextId = s.nextId
  carried : ∀ a, result.1 = .ok a → change a result.2.collections result.2.nextId

theorem allOrNothing_of_error {α : Type} {s : MemoryStore} {call : StoreCall} {barred : Prop}
    (h : barred) (change : α → Snapshot → Nat → Prop) (f : Fault) :
    AllOrNothing s call barred change (.error f, s.record call) where
  fails_iff := ⟨fun _ => h, fun _ => ⟨f, rfl⟩⟩
  recorded := calls_record s call
  failing := rfl
  refused _ _ := ⟨rfl, rfl⟩
  carried _ hok := by cases hok

theorem allOrNothing_of_ok {α : Type} {s : MemoryStore} {call : StoreCall} {barred : Prop}
    (h : ¬ barred) {change : α → Snapshot → Nat → Prop} {a : α} {collections : Snapshot}
    {nextId : Nat} (hchange : change a collections nextId) :
    AllOrNothing s call barred change
      (.ok a, { s.record call with collections, nextId }) where
  fails_iff := by simp [h]
  recorded := calls_record s call
  failing := rfl
  refused _ hf := by cases hf
  carried b hb := by
    obtain rfl := Except.ok.inj hb
    exact hchange

/-- The first collection of an id gets other attributes; the number of the next id stays. -/
def FirstChanged (s : MemoryStore) (id : String)
    (change : List RemoteAttribute → List RemoteAttribute → Prop) (collections : Snapshot)
    (nextId : Nat) : Prop :=
  nextId = s.nextId ∧ ∃ before c after attributes,
    FirstBearing (·.id) id s.collections before c after ∧ change c.attributes attributes ∧
      collections = before ++ { c with attributes } :: after

/-- A call on an attribute is barred by its key, by an id that nothing has, or by what the first
collection of this id holds. -/
def Barred (s : MemoryStore) (id key : String) (obstacle : List RemoteAttribute → Prop) : Prop :=
  key ∈ s.failing ∨ id ∉ s.collections.ids ∨
    ∃ before c after, FirstBearing (·.id) id s.collections before c after ∧ obstacle c.attributes

/-- A call on an attribute is all or nothing as its change of the attributes is. -/
theorem allOrNothing_attempt (s : MemoryStore) (call : StoreCall) (id key : String)
    {change : List RemoteAttribute → Except Fault (List RemoteAttribute)}
    {obstacle : List RemoteAttribute → Prop}
    {changed : List RemoteAttribute → List RemoteAttribute → Prop}
    (hfails : ∀ attributes, obstacle attributes → ∃ f, change attributes = .error f)
    (hpasses : ∀ attributes, ¬ obstacle attributes →
      ∃ new, change attributes = .ok new ∧ changed attributes new) :
    AllOrNothing s call (Barred s id key obstacle) (fun _ => FirstChanged s id changed)
      ((s.record call).attempt key (changeCollection id change)) := by
  by_cases hkey : key ∈ s.failing
  · rw [attempt_of_mem (s := s.record call) hkey]
    exact allOrNothing_of_error (.inl hkey) _ _
  by_cases hid : id ∈ s.collections.ids
  · obtain ⟨d, hd, hdid⟩ := List.mem_map.mp hid
    obtain ⟨before, c, after, hfirst⟩ := FirstBearing.exists_of_mem hd hdid
    by_cases hobstacle : obstacle c.attributes
    · obtain ⟨f, hf⟩ := hfails _ hobstacle
      have hchange : changeCollection id change s.collections = .error f := by
        rw [changeCollection_first hfirst, hf, Except.map]
      rw [attempt_of_error (s := s.record call) hkey hchange]
      exact allOrNothing_of_error (.inr (.inr ⟨before, c, after, hfirst, hobstacle⟩)) _ _
    · obtain ⟨new, hnew, hchanged⟩ := hpasses _ hobstacle
      have hchange : changeCollection id change s.collections =
          .ok (before ++ { c with attributes := new } :: after) := by
        rw [changeCollection_first hfirst, hnew, Except.map]
      rw [attempt_of_ok (s := s.record call) hkey hchange]
      refine allOrNothing_of_ok ?_ ⟨rfl, before, c, after, new, hfirst, hchanged, rfl⟩
      rintro (h | h | ⟨_, c', _, hfirst', hobstacle'⟩)
      · exact hkey h
      · exact h hid
      · exact hobstacle (hfirst.entry_unique hfirst' ▸ hobstacle')
  · rw [attempt_of_error (s := s.record call) hkey (changeCollection_of_not_mem hid change)]
    exact allOrNothing_of_error (.inr (.inl hid)) _ _

/-- The new attribute comes last. -/
def Appended (a : ConcreteAttribute) (attributes new : List RemoteAttribute) : Prop :=
  new = attributes ++ [stored a]

/-- The new attribute stands in the place of the first of its key. -/
def Replaced (a : ConcreteAttribute) (attributes new : List RemoteAttribute) : Prop :=
  ∃ before x after, FirstBearing (·.key) a.key attributes before x after ∧
    new = before ++ stored a :: after

theorem allOrNothing_createCollection (s : MemoryStore) (name : String) :
    AllOrNothing s (.createCollection name) (name ∈ s.failing)
      (fun id collections nextId => id = generatedId s.nextId ∧ nextId = s.nextId + 1 ∧
        collections = s.collections ++ [⟨id, name, []⟩])
      (createCollection name s) := by
  by_cases hname : name ∈ s.failing
  · have hrefused : createCollection name s =
        (.error (.refused name), s.record (.createCollection name)) := by
      simp [createCollection, record, hname]
    rw [hrefused]
    exact allOrNothing_of_error hname _ _
  · have hcreated : createCollection name s =
        (.ok (generatedId s.nextId), { s.record (.createCollection name) with
          collections := s.collections ++ [⟨generatedId s.nextId, name, []⟩]
          nextId := s.nextId + 1 }) := by
      simp [createCollection, record, hname]
    rw [hcreated]
    exact allOrNothing_of_ok hname ⟨rfl, rfl, rfl⟩

theorem allOrNothing_createAttribute (s : MemoryStore) (id : String) (a : ConcreteAttribute) :
    AllOrNothing s (.createAttribute id a)
      (Barred s id a.key fun attributes => ∃ e ∈ attributes, e.key = a.key)
      (fun _ => FirstChanged s id (Appended a)) (createAttribute id a s) := by
  refine allOrNothing_attempt s _ id a.key ?_ ?_
  · rintro attributes ⟨e, he, hkey⟩
    exact ⟨_, addAttribute_of_mem he hkey⟩
  · intro attributes habsent
    exact ⟨_, addAttribute_of_absent (by simpa using habsent), rfl⟩

theorem allOrNothing_updateAttribute (s : MemoryStore) (id : String) (a : ConcreteAttribute) :
    AllOrNothing s (.updateAttribute id a)
      (Barred s id a.key fun attributes => ∀ e ∈ attributes, e.key ≠ a.key)
      (fun _ => FirstChanged s id (Replaced a)) (updateAttribute id a s) := by
  refine allOrNothing_attempt s _ id a.key ?_ ?_
  · intro attributes habsent
    exact ⟨_, replaceAttribute_of_absent habsent⟩
  · intro attributes hpresent
    push Not at hpresent
    obtain ⟨e, he, hkey⟩ := hpresent
    obtain ⟨before, x, after, hfirst⟩ := FirstBearing.exists_of_mem he hkey
    refine ⟨before ++ stored a :: after, ?_, before, x, after, hfirst, rfl⟩
    rw [hfirst.split, replaceAttribute_append hfirst.absent hfirst.bears]

end MemoryStore

/-- Calls of a store in memory, whatever state it is in. A collection is refused if its name is set
to fail, an attribute if its key is, if no collection has the id, or if the first collection of the
id has the key already (to create it) or does not have it (to update it). A refused call leaves a
record of itself and nothing else. Any other creates one empty collection behind the others, puts
one attribute behind those of the first collection of the id, or puts it there in the place of the
first one of its key. -/
theorem store_calls_all_or_nothing (s : MemoryStore) :
    (∀ name, AllOrNothing s (.createCollection name) (name ∈ s.failing)
      (fun id collections nextId => id = generatedId s.nextId ∧ nextId = s.nextId + 1 ∧
        collections = s.collections ++ [⟨id, name, []⟩])
      (createCollection name s)) ∧
    (∀ id a, AllOrNothing s (.createAttribute id a)
      (Barred s id a.key fun attributes => ∃ e ∈ attributes, e.key = a.key)
      (fun _ => FirstChanged s id (Appended a)) (createAttribute id a s)) ∧
    ∀ id a, AllOrNothing s (.updateAttribute id a)
      (Barred s id a.key fun attributes => ∀ e ∈ attributes, e.key ≠ a.key)
      (fun _ => FirstChanged s id (Replaced a)) (updateAttribute id a s) :=
  ⟨allOrNothing_createCollection s, allOrNothing_createAttribute s, allOrNothing_updateAttribute s⟩

end DeclaredSchema
