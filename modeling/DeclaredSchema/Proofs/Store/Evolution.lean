import DeclaredSchema.Proofs.Store.Memory

/-! # What a store keeps

`Evolves` relates the collections of a store at two moments. Everything that was there is still
there, in its place, under its id, name and key and with its kind; only an attribute that a
condition on its collection's name, its key and its kind lets change may differ otherwise. The
relation composes, so what one change keeps a history keeps.
-/

namespace DeclaredSchema

/-- The attributes are still there, in their places and with their kinds. -/
def AttributesEvolve (may : String → Option Kind → Prop)
    (before after : List RemoteAttribute) : Prop :=
  ∀ (j : Nat) (e : RemoteAttribute), before[j]? = some e → ∃ f, after[j]? = some f ∧
    f.key = e.key ∧ f.kind = e.kind ∧ (f = e ∨ may e.key e.kind)

namespace AttributesEvolve

variable {may : String → Option Kind → Prop} {xs ys zs : List RemoteAttribute}

theorem refl (may : String → Option Kind → Prop) (xs : List RemoteAttribute) :
    AttributesEvolve may xs xs :=
  fun _ e he => ⟨e, he, rfl, rfl, Or.inl rfl⟩

theorem trans (h : AttributesEvolve may xs ys) (g : AttributesEvolve may ys zs) :
    AttributesEvolve may xs zs := by
  intro j e he
  obtain ⟨f, hf, hkey, hkind, hsame⟩ := h j e he
  obtain ⟨f', hf', hkey', hkind', hsame'⟩ := g j f hf
  refine ⟨f', hf', hkey'.trans hkey, hkind'.trans hkind, ?_⟩
  rcases hsame' with rfl | hmay
  · exact hsame
  · exact Or.inr (by rw [← hkey, ← hkind]; exact hmay)

theorem mono {may' : String → Option Kind → Prop} (h : AttributesEvolve may xs ys)
    (himp : ∀ key kind, may key kind → may' key kind) : AttributesEvolve may' xs ys := by
  intro j e he
  obtain ⟨f, hf, hkey, hkind, hsame⟩ := h j e he
  exact ⟨f, hf, hkey, hkind, hsame.imp id (himp _ _)⟩

theorem append (may : String → Option Kind → Prop) (xs ys : List RemoteAttribute) :
    AttributesEvolve may xs (xs ++ ys) := by
  intro j e he
  have hj : j < xs.length := (List.getElem?_eq_some_iff.mp he).choose
  exact ⟨e, by rw [List.getElem?_append_left hj, he], rfl, rfl, Or.inl rfl⟩

theorem replace {x y : RemoteAttribute} (xs zs : List RemoteAttribute) (hkey : y.key = x.key)
    (hkind : y.kind = x.kind) (hmay : may x.key x.kind) :
    AttributesEvolve may (xs ++ x :: zs) (xs ++ y :: zs) := by
  intro j e he
  rcases Nat.lt_trichotomy j xs.length with hj | rfl | hj
  · rw [List.getElem?_append_left hj] at he
    exact ⟨e, by rw [List.getElem?_append_left hj, he], rfl, rfl, Or.inl rfl⟩
  · obtain rfl : x = e := by simpa using he
    exact ⟨y, by simp, hkey, hkind, Or.inr hmay⟩
  · obtain ⟨k, rfl⟩ : ∃ k, j = xs.length + (k + 1) := ⟨j - xs.length - 1, by omega⟩
    rw [List.getElem?_append_right (Nat.le_add_right _ _), Nat.add_sub_cancel_left,
      List.getElem?_cons_succ] at he ⊢
    exact ⟨e, he, rfl, rfl, Or.inl rfl⟩

/-- The first attribute of a key stays the first and keeps its kind. -/
theorem find?_key {key : String} {e : RemoteAttribute} (h : AttributesEvolve may xs ys)
    (he : xs.find? (·.key == key) = some e) :
    ∃ f, ys.find? (·.key == key) = some f ∧ f.kind = e.kind := by
  induction xs generalizing ys with
  | nil => simp at he
  | cons x rest ih =>
      obtain ⟨y, hy, hkey, hkind, -⟩ := h 0 x rfl
      cases ys with
      | nil => simp at hy
      | cons y' others =>
          obtain rfl : y' = y := by simpa using hy
          by_cases hx : x.key = key
          · obtain rfl : x = e := by simpa [hx] using he
            exact ⟨y', by simp [hkey, hx], hkind⟩
          · rw [List.find?_cons_of_neg (by simpa using hx)] at he
            rw [List.find?_cons_of_neg (by simpa [hkey] using hx)]
            exact ih (fun j f hf => h (j + 1) f hf) he

end AttributesEvolve

namespace Snapshot

/-- The collections are still there, in their places, under their ids and names, and so are their
attributes. -/
def Evolves (may : String → String → Option Kind → Prop) (s t : Snapshot) : Prop :=
  ∀ (i : Nat) (c : RemoteCollection), s[i]? = some c → ∃ d, t[i]? = some d ∧
    d.id = c.id ∧ d.name = c.name ∧ AttributesEvolve (may c.name) c.attributes d.attributes

namespace Evolves

variable {may : String → String → Option Kind → Prop} {s t u : Snapshot}

theorem refl (may : String → String → Option Kind → Prop) (s : Snapshot) : Evolves may s s :=
  fun _ c hc => ⟨c, hc, rfl, rfl, .refl _ _⟩

theorem trans (h : Evolves may s t) (g : Evolves may t u) : Evolves may s u := by
  intro i c hc
  obtain ⟨d, hd, hid, hname, hattributes⟩ := h i c hc
  obtain ⟨d', hd', hid', hname', hattributes'⟩ := g i d hd
  rw [hname] at hattributes'
  exact ⟨d', hd', hid'.trans hid, hname'.trans hname, hattributes.trans hattributes'⟩

theorem mono {may' : String → String → Option Kind → Prop} (h : Evolves may s t)
    (himp : ∀ name key kind, may name key kind → may' name key kind) : Evolves may' s t := by
  intro i c hc
  obtain ⟨d, hd, hid, hname, hattributes⟩ := h i c hc
  exact ⟨d, hd, hid, hname, hattributes.mono (himp c.name)⟩

theorem append (may : String → String → Option Kind → Prop) (s t : Snapshot) :
    Evolves may s (s ++ t) := by
  intro i c hc
  have hi : i < s.length := (List.getElem?_eq_some_iff.mp hc).choose
  exact ⟨c, by rw [List.getElem?_append_left hi, hc], rfl, rfl, .refl _ _⟩

theorem setAttributes (hs : s.ids.Nodup) {c : RemoteCollection} (hc : c ∈ s)
    {attributes : List RemoteAttribute} (h : AttributesEvolve (may c.name) c.attributes attributes) :
    Evolves may s (s.setAttributes c.id attributes) := by
  intro i d hd
  have hget : (s.setAttributes c.id attributes)[i]? =
      some (if d.id = c.id then { d with attributes } else d) := by
    rw [Snapshot.setAttributes, List.getElem?_map, hd]
    rfl
  by_cases hid : d.id = c.id
  · obtain rfl : d = c := eq_of_id_eq hs (List.mem_of_getElem? hd) hc hid
    rw [if_pos rfl] at hget
    exact ⟨_, hget, rfl, rfl, h⟩
  · rw [if_neg hid] at hget
    exact ⟨_, hget, rfl, rfl, .refl _ _⟩

/-- A collection is found again by its id. -/
theorem of_mem (h : Evolves may s t) (ht : t.ids.Nodup) {c d : RemoteCollection} (hc : c ∈ s)
    (hd : d ∈ t) (hid : d.id = c.id) :
    d.name = c.name ∧ AttributesEvolve (may c.name) c.attributes d.attributes := by
  obtain ⟨i, hi⟩ := List.getElem?_of_mem hc
  obtain ⟨d', hd', hid', hname, hattributes⟩ := h i c hi
  obtain rfl : d = d' :=
    eq_of_id_eq ht hd (List.mem_of_getElem? hd') (by rw [hid, hid'])
  exact ⟨hname, hattributes⟩

end Evolves

/-- The attributes of a collection have keys of their own. -/
def KeysDistinct (s : Snapshot) : Prop := ∀ c ∈ s, (c.attributes.map (·.key)).Nodup

theorem KeysDistinct.setAttributes {s : Snapshot} (h : s.KeysDistinct) {id : String}
    {attributes : List RemoteAttribute} (ha : (attributes.map (·.key)).Nodup) :
    (s.setAttributes id attributes).KeysDistinct := by
  intro c hc
  obtain ⟨d, hd, rfl⟩ := List.mem_map.mp hc
  by_cases hid : d.id = id
  · rw [if_pos hid]
    exact ha
  · rw [if_neg hid]
    exact h d hd

end Snapshot

end DeclaredSchema
