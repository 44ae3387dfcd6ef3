import DeclaredSchema.Plan.Diff
import Mathlib.Data.List.Basic
import Mathlib.Data.List.Induction

/-! # Repeated keys in one class

What counts of the declarations of a class is said twice: by the planner, which writes a later
declaration over the earlier one while it walks the list, and here by the order of first
declarations and the last declaration of each key. The two are the same, and each declaration
that does not count is reported once, with its own position.
-/

namespace DeclaredSchema.Plan

/-- The declared keys, each once, in the order of their first declarations. -/
def firstKeys (attributes : List Attribute) : List String := (attributes.map (·.key)).eraseDups

/-- The last declaration of a key. -/
def lastOf? (attributes : List Attribute) (key : String) : Option Attribute :=
  attributes.reverse.find? (·.key == key)

/-- The declarations that count: the last one of each key, in the order of the first ones. -/
def counted (attributes : List Attribute) : List Attribute :=
  (firstKeys attributes).filterMap (lastOf? attributes)

/-- The declarations whose key stands before them, with their positions. -/
def repeats (attributes : List Attribute) : List (Attribute × Nat) :=
  attributes.zipIdx.filter fun (a, i) => (attributes.take i).any (·.key == a.key)

/-! ## Lists with distinct keys -/

theorem find?_key_of_mem {attributes : List Attribute} (hk : (attributes.map (·.key)).Nodup)
    {a : Attribute} (ha : a ∈ attributes) : attributes.find? (·.key == a.key) = some a := by
  induction attributes with
  | nil => simp at ha
  | cons b rest ih =>
      rw [List.map_cons, List.nodup_cons] at hk
      rcases List.mem_cons.mp ha with rfl | hr
      · simp
      · have hne : b.key ≠ a.key := by
          intro he
          exact hk.1 (he ▸ List.mem_map_of_mem hr)
        rw [List.find?_cons_of_neg (by simpa using hne)]
        exact ih hk.2 hr

/-- Distinct keys and the attribute of each key determine a list. -/
theorem filterMap_find?_keys {attributes : List Attribute}
    (hk : (attributes.map (·.key)).Nodup) :
    (attributes.map (·.key)).filterMap (fun key => attributes.find? (·.key == key)) =
      attributes := by
  rw [List.filterMap_map]
  calc attributes.filterMap ((fun key => attributes.find? (·.key == key)) ∘ (·.key))
      = attributes.filterMap some :=
        List.filterMap_congr fun a ha => find?_key_of_mem hk ha
    _ = attributes := List.filterMap_some

/-! ## Writing over earlier declarations -/

theorem keys_putAttribute (a : Attribute) (kept : List Attribute) :
    (putAttribute a kept).map (·.key) =
      if a.key ∈ kept.map (·.key) then kept.map (·.key) else kept.map (·.key) ++ [a.key] := by
  induction kept with
  | nil => simp [putAttribute]
  | cons b rest ih =>
      unfold putAttribute
      by_cases h : b.key = a.key
      · simp [h]
      · rw [if_neg h, List.map_cons, ih]
        by_cases hr : a.key ∈ rest.map (·.key)
        · simp [hr]
        · rw [if_neg hr, if_neg]
          · rfl
          · simpa [Ne.symm h] using hr

theorem find?_putAttribute (a : Attribute) (kept : List Attribute) (key : String) :
    (putAttribute a kept).find? (·.key == key) =
      if a.key = key then some a else kept.find? (·.key == key) := by
  induction kept with
  | nil => by_cases h : a.key = key <;> simp [putAttribute, h]
  | cons b rest ih =>
      unfold putAttribute
      by_cases hb : b.key = a.key
      · by_cases h : a.key = key <;> simp [hb, h]
      · rw [if_neg hb, List.find?_cons, ih, List.find?_cons]
        by_cases h : a.key = key
        · have hbk : (b.key == key) = false := by simpa [← h] using hb
          simp [h, hbk]
        · simp [h]

theorem collapse_append_singleton (attributes : List Attribute) (a : Attribute) :
    collapse (attributes ++ [a]) = putAttribute a (collapse attributes) := by
  simp [collapse]

theorem firstKeys_append_singleton (attributes : List Attribute) (a : Attribute) :
    firstKeys (attributes ++ [a]) =
      if a.key ∈ attributes.map (·.key) then firstKeys attributes
      else firstKeys attributes ++ [a.key] := by
  unfold firstKeys
  rw [List.map_append, List.eraseDups_append, List.map_singleton]
  by_cases h : a.key ∈ attributes.map (·.key)
  · rw [if_pos h, List.removeAll, List.filter_cons_of_neg (by simpa using h)]
    simp
  · rw [if_neg h, List.removeAll, List.filter_cons_of_pos (by simpa using h)]
    simp [List.eraseDups_cons]

theorem keys_collapse (attributes : List Attribute) :
    (collapse attributes).map (·.key) = firstKeys attributes := by
  induction attributes using List.reverseRecOn with
  | nil => rfl
  | append_singleton attributes a ih =>
      rw [collapse_append_singleton, keys_putAttribute, firstKeys_append_singleton, ih]
      simp only [firstKeys, List.mem_eraseDups]

theorem find?_collapse (attributes : List Attribute) (key : String) :
    (collapse attributes).find? (·.key == key) = lastOf? attributes key := by
  induction attributes using List.reverseRecOn with
  | nil => rfl
  | append_singleton attributes a ih =>
      rw [collapse_append_singleton, find?_putAttribute, ih, lastOf?, lastOf?,
        List.reverse_append]
      by_cases h : a.key = key <;> simp [h]

theorem nodup_firstKeys (attributes : List Attribute) : (firstKeys attributes).Nodup := by
  induction attributes using List.reverseRecOn with
  | nil => exact List.nodup_nil
  | append_singleton attributes a ih =>
      rw [firstKeys_append_singleton]
      by_cases h : a.key ∈ attributes.map (·.key)
      · rw [if_pos h]
        exact ih
      · rw [if_neg h]
        refine List.nodup_append.mpr ⟨ih, by simp, ?_⟩
        rintro x hx y hy rfl
        exact h (by simpa [firstKeys, List.mem_singleton.mp hy] using hx)

theorem nodup_keys_collapse (attributes : List Attribute) :
    ((collapse attributes).map (·.key)).Nodup := by
  rw [keys_collapse]
  exact nodup_firstKeys attributes

/-- Walking the list and writing over leaves the declarations that count. -/
theorem collapse_eq_counted (attributes : List Attribute) :
    collapse attributes = counted attributes := by
  rw [← filterMap_find?_keys (nodup_keys_collapse attributes), keys_collapse, counted]
  exact List.filterMap_congr fun key _ => find?_collapse attributes key

theorem lastOf?_of_mem_collapse {attributes : List Attribute} {a : Attribute}
    (ha : a ∈ collapse attributes) : lastOf? attributes a.key = some a := by
  rw [← find?_collapse]
  exact find?_key_of_mem (nodup_keys_collapse attributes) ha

theorem keys_counted (attributes : List Attribute) :
    (counted attributes).map (·.key) = firstKeys attributes := by
  rw [← collapse_eq_counted, keys_collapse]

/-! ## Declarations that do not count -/

/-- The walk remembers only which keys it has seen; the positions come from the list itself. -/
theorem supersededFrom_eq (collection : String) (before attributes : List Attribute)
    (seen : List String) (hseen : ∀ key, key ∈ seen ↔ key ∈ before.map (·.key)) :
    supersededFrom collection seen before.length attributes =
      ((attributes.zipIdx before.length).filter fun (a, i) =>
        ((before ++ attributes).take i).any (·.key == a.key)).map
        fun (a, i) => ⟨collection, some a.key, .superseded i⟩ := by
  induction attributes generalizing before seen with
  | nil => rfl
  | cons a rest ih =>
      have tail (seen' : List String)
          (h : ∀ key, key ∈ seen' ↔ key ∈ (before ++ [a]).map (·.key)) :
          supersededFrom collection seen' (before.length + 1) rest =
            ((rest.zipIdx (before.length + 1)).filter fun (b, i) =>
              ((before ++ a :: rest).take i).any (·.key == b.key)).map
              fun (b, i) => ⟨collection, some b.key, .superseded i⟩ := by
        simpa using ih (before ++ [a]) seen' h
      have hfront : ((before ++ a :: rest).take before.length).any (·.key == a.key) =
          seen.contains a.key := by
        rw [List.take_left, Bool.eq_iff_iff]
        simp [hseen]
      unfold supersededFrom
      rw [List.zipIdx_cons, List.filter_cons]
      simp only [hfront]
      split
      · next hs =>
        rw [List.map_cons, tail seen]
        intro key
        have ha : a.key ∈ before.map (·.key) := by simpa [← hseen] using hs
        rw [hseen, List.map_append, List.mem_append, List.map_singleton, List.mem_singleton]
        exact ⟨Or.inl, fun h => h.elim id (fun e => e ▸ ha)⟩
      · next hs =>
        apply tail
        intro key
        rw [List.mem_cons, hseen, List.map_append, List.mem_append, List.map_singleton,
          List.mem_singleton, or_comm]

theorem superseded_eq_repeats (c : Collection) :
    superseded c = (repeats c.attributes).map fun (a, i) =>
      ⟨c.name, some a.key, .superseded i⟩ :=
  supersededFrom_eq c.name [] c.attributes [] (by simp)

theorem repeats_append_singleton (attributes : List Attribute) (a : Attribute) :
    repeats (attributes ++ [a]) =
      if a.key ∈ attributes.map (·.key) then repeats attributes ++ [(a, attributes.length)]
      else repeats attributes := by
  have hfront : (attributes.zipIdx.filter fun (b, i) =>
      ((attributes ++ [a]).take i).any (·.key == b.key)) = repeats attributes := by
    apply List.filter_congr
    rintro ⟨b, i⟩ hb
    have hi : i < attributes.length := by simpa using List.snd_lt_of_mem_zipIdx hb
    simp only
    rw [List.take_append_of_le_length (by omega)]
  unfold repeats at hfront ⊢
  rw [List.zipIdx_append, List.filter_append, hfront]
  by_cases h : a.key ∈ attributes.map (·.key)
  · have hany : attributes.any (·.key == a.key) := by simpa using h
    simp [h, hany]
  · have hany : attributes.any (·.key == a.key) = false := by simpa using h
    simp [h, hany]

/-- Every declaration counts or repeats an earlier key, and none does both. -/
theorem length_repeats_add_length_counted (attributes : List Attribute) :
    (repeats attributes).length + (counted attributes).length = attributes.length := by
  have hlen (l : List Attribute) : (counted l).length = (firstKeys l).length := by
    rw [← keys_counted, List.length_map]
  rw [hlen]
  induction attributes using List.reverseRecOn with
  | nil => rfl
  | append_singleton attributes a ih =>
      rw [repeats_append_singleton, firstKeys_append_singleton, List.length_append]
      by_cases h : a.key ∈ attributes.map (·.key)
      · simp only [if_pos h, List.length_append, List.length_singleton]
        omega
      · simp only [if_neg h, List.length_append, List.length_singleton]
        omega

end DeclaredSchema.Plan
