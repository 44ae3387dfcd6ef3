import DeclaredSchema.Store.Memory
import Mathlib.Data.List.Nodup

/-! # What the calls of the store in memory do

A store whose ids are distinct is a map from ids to collections, and each call changes one entry of
it or none. Every call is given by one equation on the collections; what the collections of one
name are afterwards follows from it.
-/

namespace DeclaredSchema

namespace Snapshot

def ids (s : Snapshot) : List String := s.map (·.id)

def names (s : Snapshot) : List String := s.map (·.name)

/-- Gives the collection of an id other attributes. -/
def setAttributes (id : String) (attributes : List RemoteAttribute) (s : Snapshot) : Snapshot :=
  s.map fun c => if c.id = id then { c with attributes } else c

theorem setAttributes_cons (id : String) (attributes : List RemoteAttribute)
    (c : RemoteCollection) (s : Snapshot) : setAttributes id attributes (c :: s) =
      (if c.id = id then { c with attributes } else c) :: s.setAttributes id attributes := rfl

theorem setAttributes_append (id : String) (attributes : List RemoteAttribute)
    (s t : Snapshot) : setAttributes id attributes (s ++ t) =
      setAttributes id attributes s ++ setAttributes id attributes t := List.map_append

theorem setAttributes_of_not_mem {id : String} {s : Snapshot} (h : id ∉ s.ids)
    (attributes : List RemoteAttribute) : s.setAttributes id attributes = s := by
  induction s with
  | nil => rfl
  | cons c rest ih =>
      have hc : ¬ c.id = id := fun e => h (by simp [ids, e])
      rw [setAttributes_cons, if_neg hc, ih fun hm => h (List.mem_cons_of_mem _ hm)]

@[simp] theorem ids_setAttributes (id : String) (attributes : List RemoteAttribute)
    (s : Snapshot) : (s.setAttributes id attributes).ids = s.ids := by
  simp only [ids, setAttributes, List.map_map]
  apply List.map_congr_left
  intro c _
  by_cases h : c.id = id <;> simp [h]

@[simp] theorem names_setAttributes (id : String) (attributes : List RemoteAttribute)
    (s : Snapshot) : (s.setAttributes id attributes).names = s.names := by
  simp only [names, setAttributes, List.map_map]
  apply List.map_congr_left
  intro c _
  by_cases h : c.id = id <;> simp [h]

theorem eq_of_id_eq {s : Snapshot} (hs : s.ids.Nodup) {c d : RemoteCollection} (hc : c ∈ s)
    (hd : d ∈ s) (h : c.id = d.id) : c = d := List.inj_on_of_nodup_map hs hc hd h

theorem mem_named {s : Snapshot} {name : String} {c : RemoteCollection} :
    c ∈ s.named name ↔ c ∈ s ∧ c.name = name := by
  simp [named]

theorem named_append (s t : Snapshot) (name : String) :
    named (s ++ t) name = named s name ++ named t name := List.filter_append s t

theorem named_eq_nil {s : Snapshot} {name : String} : s.named name = [] ↔ name ∉ s.names := by
  rw [named, List.filter_eq_nil_iff, names, List.mem_map]
  simp

theorem named_setAttributes (id : String) (attributes : List RemoteAttribute) (s : Snapshot)
    (name : String) : (s.setAttributes id attributes).named name =
      setAttributes id attributes (s.named name) := by
  have hname : ((fun c : RemoteCollection => c.name == name) ∘ fun c =>
      if c.id = id then { c with attributes } else c) = fun c => c.name == name := by
    funext c
    by_cases h : c.id = id <;> simp [h]
  rw [named, setAttributes, List.filter_map, hname]
  rfl

/-- The collections of other names do not notice. -/
theorem named_setAttributes_of_ne {s : Snapshot} (hs : s.ids.Nodup) {c : RemoteCollection}
    (hc : c ∈ s) {name : String} (hn : c.name ≠ name) (attributes : List RemoteAttribute) :
    (s.setAttributes c.id attributes).named name = s.named name := by
  rw [named_setAttributes]
  apply setAttributes_of_not_mem
  intro hm
  obtain ⟨d, hd, hid⟩ := List.mem_map.mp hm
  obtain ⟨hds, hdn⟩ := mem_named.mp hd
  exact hn (by rw [← hdn, eq_of_id_eq hs hds hc hid])

/-- The only collection of a name is the one that changes. -/
theorem named_setAttributes_self {s : Snapshot} {c : RemoteCollection} {name : String}
    (hc : s.named name = [c]) (attributes : List RemoteAttribute) :
    (s.setAttributes c.id attributes).named name = [{ c with attributes }] := by
  rw [named_setAttributes, hc, setAttributes_cons, if_pos rfl]
  rfl

/-- Giving a collection the attributes it has changes nothing. -/
theorem setAttributes_attributes {s : Snapshot} (hs : s.ids.Nodup) {c : RemoteCollection}
    (hc : c ∈ s) : s.setAttributes c.id c.attributes = s := by
  have hsame : ∀ d ∈ s, (if d.id = c.id then { d with attributes := c.attributes } else d) = d := by
    intro d hd
    split
    · next hid => rw [eq_of_id_eq hs hd hc hid]
    · rfl
  rw [setAttributes, List.map_congr_left hsame, List.map_id']

end Snapshot

namespace MemoryStore

open Snapshot

/-! ## Changing one collection -/

theorem changeCollection_of_mem {s : Snapshot} (hs : s.ids.Nodup) {c : RemoteCollection}
    (hc : c ∈ s) (change : List RemoteAttribute → Except Fault (List RemoteAttribute)) :
    changeCollection c.id change s =
      (change c.attributes).map fun attributes => s.setAttributes c.id attributes := by
  induction s with
  | nil => simp at hc
  | cons d rest ih =>
      have hnodup : d.id ∉ ids rest ∧ (ids rest).Nodup := List.nodup_cons.mp hs
      by_cases hd : d.id = c.id
      · have hdc : d = c := eq_of_id_eq hs List.mem_cons_self hc hd
        subst hdc
        rw [changeCollection, if_pos rfl]
        cases change d.attributes with
        | error e => rfl
        | ok attributes =>
            simp only [Except.map, setAttributes_cons, if_pos, setAttributes_of_not_mem hnodup.1]
      · have hcr : c ∈ rest := by
          rcases List.mem_cons.mp hc with rfl | h
          · exact absurd rfl hd
          · exact h
        rw [changeCollection, if_neg hd, ih hnodup.2 hcr]
        cases change c.attributes with
        | error e => rfl
        | ok attributes =>
            simp only [Except.map, setAttributes_cons, if_neg hd]

theorem changeCollection_of_not_mem {s : Snapshot} {id : String} (h : id ∉ s.ids)
    (change : List RemoteAttribute → Except Fault (List RemoteAttribute)) :
    changeCollection id change s = .error (.unknownCollection id) := by
  induction s with
  | nil => rfl
  | cons d rest ih =>
      have hd : ¬ d.id = id := fun e => h (by simp [ids, e])
      have hr : id ∉ ids rest := fun hm => h (List.mem_cons_of_mem _ hm)
      rw [changeCollection, if_neg hd, ih hr]

theorem addAttribute_of_absent {a : ConcreteAttribute} {attributes : List RemoteAttribute}
    (h : ∀ e ∈ attributes, e.key ≠ a.key) :
    addAttribute a attributes = .ok (attributes ++ [stored a]) := by
  rw [addAttribute, if_neg]
  simpa using h

theorem addAttribute_of_mem {a : ConcreteAttribute} {attributes : List RemoteAttribute}
    {e : RemoteAttribute} (he : e ∈ attributes) (hk : e.key = a.key) :
    addAttribute a attributes = .error (.attributeExists a.key) := by
  rw [addAttribute, if_pos]
  simpa using ⟨e, he, hk⟩

theorem replaceAttribute_append {a : ConcreteAttribute} {before after : List RemoteAttribute}
    {e : RemoteAttribute} (hb : ∀ x ∈ before, x.key ≠ a.key) (he : e.key = a.key) :
    replaceAttribute a (before ++ e :: after) = .ok (before ++ stored a :: after) := by
  induction before with
  | nil => rw [List.nil_append, replaceAttribute, if_pos he, List.nil_append]
  | cons x rest ih =>
      rw [List.cons_append, replaceAttribute, if_neg (hb x List.mem_cons_self),
        ih fun y hy => hb y (List.mem_cons_of_mem _ hy), List.cons_append]

theorem replaceAttribute_of_absent {a : ConcreteAttribute} {attributes : List RemoteAttribute}
    (h : ∀ e ∈ attributes, e.key ≠ a.key) :
    replaceAttribute a attributes = .error (.unknownAttribute a.key) := by
  induction attributes with
  | nil => rfl
  | cons x rest ih =>
      rw [replaceAttribute, if_neg (h x List.mem_cons_self),
        ih fun y hy => h y (List.mem_cons_of_mem _ hy)]

/-! ## Calls on one attribute -/

/-- A call either fails and changes nothing, or it is not refused and its change goes through. -/
theorem attempt_cases (s : MemoryStore) (name : String)
    (change : Snapshot → Except Fault Snapshot) :
    (∃ f, s.attempt name change = (.error f, s)) ∨
      ∃ collections, name ∉ s.failing ∧ change s.collections = .ok collections ∧
        s.attempt name change = (.ok (), { s with collections }) := by
  unfold attempt
  by_cases hn : name ∈ s.failing
  · exact Or.inl ⟨.refused name, by simp [hn]⟩
  · cases hc : change s.collections with
    | error f => exact Or.inl ⟨f, by simp [hn]⟩
    | ok collections => exact Or.inr ⟨collections, hn, rfl, by simp [hn]⟩

theorem attempt_of_ok {s : MemoryStore} {name : String} (h : name ∉ s.failing)
    {change : Snapshot → Except Fault Snapshot} {collections : Snapshot}
    (hc : change s.collections = .ok collections) :
    s.attempt name change = (.ok (), { s with collections }) := by
  rw [attempt, if_neg (by simpa using h), hc]

theorem attempt_of_error {s : MemoryStore} {name : String} (h : name ∉ s.failing)
    {change : Snapshot → Except Fault Snapshot} {f : Fault}
    (hf : change s.collections = .error f) : s.attempt name change = (.error f, s) := by
  rw [attempt, if_neg (by simpa using h), hf]

theorem attempt_of_mem {s : MemoryStore} {name : String} (h : name ∈ s.failing)
    (change : Snapshot → Except Fault Snapshot) :
    s.attempt name change = (.error (.refused name), s) := by
  rw [attempt, if_pos (by simpa using h)]

/-- An attribute that is added comes last in the collection of its id. -/
theorem changeCollection_add {s t : Snapshot} (hs : s.ids.Nodup) {id : String}
    {a : ConcreteAttribute} (h : changeCollection id (addAttribute a) s = .ok t) :
    ∃ c ∈ s, c.id = id ∧ (∀ e ∈ c.attributes, e.key ≠ a.key) ∧
      t = s.setAttributes id (c.attributes ++ [stored a]) := by
  by_cases hid : id ∈ s.ids
  · obtain ⟨c, hc, rfl⟩ := List.mem_map.mp hid
    by_cases hk : ∀ e ∈ c.attributes, e.key ≠ a.key
    · rw [changeCollection_of_mem hs hc, addAttribute_of_absent hk] at h
      exact ⟨c, hc, rfl, hk, (Except.ok.inj h).symm⟩
    · push Not at hk
      obtain ⟨e, he, hk⟩ := hk
      rw [changeCollection_of_mem hs hc, addAttribute_of_mem he hk] at h
      cases h
  · rw [changeCollection_of_not_mem hid] at h
    cases h

/-- An attribute that is replaced is the first of its key in the collection of its id. -/
theorem changeCollection_replace {s t : Snapshot} (hs : s.ids.Nodup) {id : String}
    {a : ConcreteAttribute} (h : changeCollection id (replaceAttribute a) s = .ok t) :
    ∃ c ∈ s, c.id = id ∧ ∃ before x after, c.attributes = before ++ x :: after ∧
      (∀ y ∈ before, y.key ≠ a.key) ∧ x.key = a.key ∧
      t = s.setAttributes id (before ++ stored a :: after) := by
  by_cases hid : id ∈ s.ids
  · obtain ⟨c, hc, rfl⟩ := List.mem_map.mp hid
    cases hf : c.attributes.find? (·.key == a.key) with
    | none =>
        have hk : ∀ e ∈ c.attributes, e.key ≠ a.key := by simpa using hf
        rw [changeCollection_of_mem hs hc, replaceAttribute_of_absent hk] at h
        cases h
    | some x =>
        obtain ⟨hx, before, after, hsplit, hb⟩ := List.find?_eq_some_iff_append.mp hf
        have hx : x.key = a.key := by simpa using hx
        have hb : ∀ y ∈ before, y.key ≠ a.key := by simpa using hb
        rw [changeCollection_of_mem hs hc, hsplit, replaceAttribute_append hb hx] at h
        exact ⟨c, hc, rfl, before, x, after, hsplit, hb, hx, (Except.ok.inj h).symm⟩
  · rw [changeCollection_of_not_mem hid] at h
    cases h

/-! ## Generated ids -/

theorem generatedId_injective : Function.Injective generatedId := by
  intro m n h
  have hd : Nat.toDigits 10 m = Nat.toDigits 10 n := by
    simpa [generatedId, ← String.toList_inj] using h
  rw [← Nat.ofDigitChars_ten_toDigits (n := m), hd, Nat.ofDigitChars_ten_toDigits]

end MemoryStore

end DeclaredSchema
