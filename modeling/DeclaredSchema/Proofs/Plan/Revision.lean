import DeclaredSchema.Proofs.Plan.Collapse
import DeclaredSchema.Proofs.Plan.Merge
import Mathlib.Data.List.Nodup

/-! # What an update makes of a collection

The attributes that a collection holds after an update are given without any walk through
operations: what was held stays in its place and is revised where it is declared, and what is
declared but was not held comes behind it. Updating for some of the declarations first and for all
of them afterwards gives the same attributes as updating for all of them at once.
-/

namespace DeclaredSchema

open MemoryStore

/-- What a declaration makes of the attribute of its key. An attribute of another kind stays. -/
def Attribute.revise (a : Attribute) (now : Instant) (e : RemoteAttribute) : RemoteAttribute :=
  if e.kind = some a.kind then stored (a.mergeInto e now) else e

/-- What the declarations make of one attribute that is held. -/
def reviseBy (now : Instant) (declared : List Attribute) (e : RemoteAttribute) : RemoteAttribute :=
  match declared.find? (·.key == e.key) with
  | some a => a.revise now e
  | none => e

/-- The attributes after an update. A declaration counts for the first attribute of its key. -/
def revised (now : Instant) (declared : List Attribute) : List RemoteAttribute →
    List RemoteAttribute
  | [] => declared.map fun a => stored (a.concrete now)
  | e :: held => reviseBy now declared e :: revised now (declared.filter (·.key != e.key)) held

section Revision

variable {now : Instant} {a : Attribute} {e : RemoteAttribute} {declared : List Attribute}
  {held : List RemoteAttribute}

theorem mem_of_find?_key (h : declared.find? (·.key == e.key) = some a) :
    a ∈ declared ∧ a.key = e.key :=
  ⟨List.mem_of_find?_eq_some h, by simpa using List.find?_some h⟩

theorem Attribute.key_revise (h : a.key = e.key) : (a.revise now e).key = e.key := by
  unfold Attribute.revise
  split
  · exact h
  · rfl

theorem key_reviseBy : (reviseBy now declared e).key = e.key := by
  unfold reviseBy
  split
  · next ha => exact Attribute.key_revise (mem_of_find?_key ha).2
  · rfl

theorem reviseBy_nil : reviseBy now [] e = e := rfl

theorem reviseBy_cons_self (h : a.key = e.key) :
    reviseBy now (a :: declared) e = a.revise now e := by
  simp [reviseBy, h]

theorem reviseBy_cons_of_ne (h : a.key ≠ e.key) :
    reviseBy now (a :: declared) e = reviseBy now declared e := by
  rw [reviseBy, List.find?_cons_of_neg (by simpa using h), reviseBy]

theorem reviseBy_of_not_mem (h : e.key ∉ declared.map (·.key)) : reviseBy now declared e = e := by
  have hnone : declared.find? (·.key == e.key) = none := by
    rw [List.find?_eq_none]
    intro a ha hk
    exact h (by simpa using ⟨a, ha, by simpa using hk⟩)
  rw [reviseBy, hnone]

theorem filter_key_of_not_mem {key : String} (h : key ∉ declared.map (·.key)) :
    declared.filter (·.key != key) = declared := by
  rw [List.filter_eq_self]
  intro a ha
  have hne : a.key ≠ key := fun hk => h (hk ▸ List.mem_map_of_mem ha)
  simpa using hne

@[simp] theorem revised_nil_declared : revised now [] held = held := by
  induction held with
  | nil => rfl
  | cons e held ih => rw [revised, reviseBy_nil, List.filter_nil, ih]

/-! ## One declaration -/

/-- A declaration whose key is not held is added. -/
theorem revised_singleton_of_absent (h : ∀ e ∈ held, e.key ≠ a.key) :
    revised now [a] held = held ++ [stored (a.concrete now)] := by
  induction held with
  | nil => rfl
  | cons e held ih =>
      obtain ⟨he, hheld⟩ := List.forall_mem_cons.mp h
      have hkeep : [a].filter (·.key != e.key) = [a] := by simpa using Ne.symm he
      rw [revised, reviseBy_cons_of_ne (Ne.symm he), reviseBy_nil, hkeep, ih hheld]
      rfl

/-- A declaration whose key is held counts for the first attribute of the key. -/
theorem revised_singleton_of_split {before after : List RemoteAttribute}
    (first : ∀ y ∈ before, y.key ≠ a.key) (hkey : e.key = a.key) :
    revised now [a] (before ++ e :: after) = before ++ a.revise now e :: after := by
  induction before with
  | nil =>
      have hdrop : [a].filter (·.key != e.key) = [] := by simp [hkey]
      rw [List.nil_append, revised, reviseBy_cons_self hkey.symm, hdrop, revised_nil_declared]
      rfl
  | cons x before ih =>
      obtain ⟨hx, hbefore⟩ := List.forall_mem_cons.mp first
      have hkeep : [a].filter (·.key != x.key) = [a] := by simpa using Ne.symm hx
      rw [List.cons_append, revised, reviseBy_cons_of_ne (Ne.symm hx), reviseBy_nil, hkeep,
        ih hbefore]
      rfl

/-- Declarations of different keys may be carried out one after the other. -/
theorem revised_revised_singleton (h : a.key ∉ declared.map (·.key)) :
    revised now declared (revised now [a] held) = revised now (a :: declared) held := by
  induction held generalizing declared with
  | nil =>
      have hfilter : declared.filter (·.key != (stored (a.concrete now)).key) = declared :=
        filter_key_of_not_mem h
      have hpass : reviseBy now declared (stored (a.concrete now)) = stored (a.concrete now) :=
        reviseBy_of_not_mem h
      calc revised now declared (revised now [a] [])
          = reviseBy now declared (stored (a.concrete now)) ::
              revised now (declared.filter (·.key != (stored (a.concrete now)).key)) [] := rfl
        _ = revised now (a :: declared) [] := by
            rw [hfilter, hpass]
            rfl
  | cons e held ih =>
      have hout : a.key ∉ (declared.filter (·.key != e.key)).map (·.key) :=
        fun hm => h ((List.filter_sublist.map _).subset hm)
      rw [revised, revised, revised, key_reviseBy]
      by_cases hk : a.key = e.key
      · have hkeys : (reviseBy now [a] e).key = a.key := key_reviseBy.trans hk.symm
        have hdrop : [a].filter (·.key != e.key) = [] := by simp [hk]
        rw [hdrop, revised_nil_declared, List.filter_cons_of_neg (by simpa using hk),
          reviseBy_of_not_mem (hkeys ▸ h), reviseBy_cons_self hk, reviseBy_cons_self hk]
      · have hkeep : [a].filter (·.key != e.key) = [a] := by simpa using hk
        rw [hkeep, List.filter_cons_of_pos (by simpa using hk), ih hout, reviseBy_cons_of_ne hk,
          reviseBy_cons_of_ne hk, reviseBy_nil]

/-! ## Attributes by key -/

theorem find?_filter_key {key key' : String} (h : key ≠ key') :
    (declared.filter (·.key != key)).find? (·.key == key') = declared.find? (·.key == key') := by
  rw [List.find?_filter]
  congr 1
  funext a
  by_cases ha : a.key = key'
  · simp [ha, Ne.symm h]
  · simp [ha]

/-- The first attribute of a key after an update. -/
theorem find?_revised (key : String) : (revised now declared held).find? (·.key == key) =
    match held.find? (·.key == key) with
    | some e => some (reviseBy now declared e)
    | none => (declared.find? (·.key == key)).map fun a => stored (a.concrete now) := by
  induction held generalizing declared with
  | nil =>
      rw [revised, List.find?_map]
      rfl
  | cons e held ih =>
      rw [revised]
      by_cases hk : e.key = key
      · have hr : (reviseBy now declared e).key = key := key_reviseBy.trans hk
        rw [List.find?_cons_of_pos (by simpa using hr), List.find?_cons_of_pos (by simpa using hk)]
      · have hr : (reviseBy now declared e).key ≠ key := fun h => hk (key_reviseBy.symm.trans h)
        rw [List.find?_cons_of_neg (by simpa using hr), List.find?_cons_of_neg (by simpa using hk),
          ih, find?_filter_key hk]
        cases hheld : held.find? (·.key == key) with
        | none => rfl
        | some f =>
            have hf : f.key = key := by simpa using List.find?_some hheld
            simp only [reviseBy, find?_filter_key (hf ▸ hk)]

/-- Attributes of other keys are found as before. -/
theorem find?_revised_of_ne {key : String} (h : a.key ≠ key) :
    (revised now [a] held).find? (·.key == key) = held.find? (·.key == key) := by
  rw [find?_revised]
  cases hheld : held.find? (·.key == key) with
  | none => simp [h]
  | some e =>
      have he : e.key = key := by simpa using List.find?_some hheld
      have hkeep : reviseBy now [a] e = e := by rw [reviseBy_cons_of_ne (he ▸ h), reviseBy_nil]
      exact congrArg some hkeep

/-! ## Updating again -/

/-- A revised attribute is not changed by the same declaration. -/
theorem revise_revise (back : e.WritesBack) : a.revise now (a.revise now e) = a.revise now e := by
  unfold Attribute.revise
  by_cases hk : e.kind = some a.kind
  · have hkind : (stored (a.mergeInto e now)).kind = some a.kind := rfl
    rw [if_pos hk, if_pos hkind, a.mergeInto_stored_mergeInto back]
  · rw [if_neg hk, if_neg hk]

/-- An attribute that was created is not changed by its declaration. -/
theorem revise_created : a.revise now (stored (a.concrete now)) = stored (a.concrete now) := by
  have hkind : (stored (a.concrete now)).kind = some a.kind := rfl
  rw [Attribute.revise, if_pos hkind, a.mergeInto_stored_concrete]

/-- What some declarations have made of an attribute all of them make what they make of it at once,
if there is one declaration for each key. -/
theorem reviseBy_reviseBy (distinct : (declared.map (·.key)).Nodup) (back : e.WritesBack)
    (p : Attribute → Bool) :
    reviseBy now declared (reviseBy now (declared.filter p) e) = reviseBy now declared e := by
  cases ha : (declared.filter p).find? (·.key == e.key) with
  | none =>
      have hkeep : reviseBy now (declared.filter p) e = e := by rw [reviseBy, ha]
      rw [hkeep]
  | some a =>
      obtain ⟨hmem, hkey⟩ := mem_of_find?_key ha
      have hall (f : RemoteAttribute) (hf : f.key = e.key) : reviseBy now declared f =
          a.revise now f := by
        rw [reviseBy, hf, ← hkey, Plan.find?_key_of_mem distinct (List.mem_filter.mp hmem).1]
      rw [hall _ key_reviseBy, hall e rfl, reviseBy, ha]
      exact revise_revise back

/-- What was created for some declarations stays, and what the others add comes behind it. -/
theorem revised_created {created : List Attribute} (distinct : (created.map (·.key)).Nodup)
    (all : ∀ a ∈ created, declared.find? (·.key == a.key) = some a) :
    revised now declared (created.map fun a => stored (a.concrete now)) =
      (created ++ declared.filter fun a => !(created.map (·.key)).contains a.key).map
        fun a => stored (a.concrete now) := by
  induction created generalizing declared with
  | nil =>
      have hall : (declared.filter fun a => !(([] : List Attribute).map (·.key)).contains a.key) =
          declared := by simp
      rw [hall]
      rfl
  | cons a created ih =>
      rw [List.map_cons, List.nodup_cons] at distinct
      obtain ⟨ha, hcreated⟩ := List.forall_mem_cons.mp all
      have hkeep : reviseBy now declared (stored (a.concrete now)) = stored (a.concrete now) := by
        have hfind : declared.find? (·.key == (stored (a.concrete now)).key) = some a := ha
        rw [reviseBy, hfind]
        exact revise_created
      have hrest : ∀ b ∈ created,
          (declared.filter (·.key != a.key)).find? (·.key == b.key) = some b := by
        intro b hb
        have hne : a.key ≠ b.key := fun hk => distinct.1 (hk ▸ List.mem_map_of_mem hb)
        rw [find?_filter_key hne, hcreated b hb]
      have hfilter : ((declared.filter (·.key != a.key)).filter
            fun b => !(created.map (·.key)).contains b.key) =
          declared.filter fun b => !((a :: created).map (·.key)).contains b.key := by
        rw [List.filter_filter]
        congr 1
        funext b
        rw [List.map_cons, List.contains_cons, Bool.not_or, Bool.and_comm]
        rfl
      rw [List.map_cons, revised, hkeep, ← hfilter]
      exact congrArg _ (ih distinct.2 hrest)

/-- Updating for some of the declarations and then for all of them leaves what was held as one
update for all of them leaves it, and adds the same behind it. -/
theorem revised_revised_filter (distinct : (declared.map (·.key)).Nodup)
    (back : ∀ e ∈ held, e.WritesBack) (p : Attribute → Bool) :
    ∃ front added added', revised now declared (revised now (declared.filter p) held) =
        front ++ added ∧
      revised now declared held = front ++ added' ∧ front.length = held.length ∧
      added.Perm added' := by
  induction held generalizing declared with
  | nil =>
      have hsub : ((declared.filter p).map (·.key)).Nodup :=
        (List.filter_sublist.map _).nodup distinct
      have hall : ∀ a ∈ declared.filter p, declared.find? (·.key == a.key) = some a :=
        fun a ha => Plan.find?_key_of_mem distinct (List.mem_filter.mp ha).1
      have hothers : (declared.filter fun a =>
            !((declared.filter p).map (·.key)).contains a.key) = declared.filter (!p ·) := by
        apply List.filter_congr
        intro a ha
        have hiff : a.key ∈ (declared.filter p).map (·.key) ↔ p a = true := by
          constructor
          · intro hm
            obtain ⟨b, hb, hk⟩ := List.mem_map.mp hm
            obtain ⟨hb, hp⟩ := List.mem_filter.mp hb
            rwa [← List.inj_on_of_nodup_map distinct hb ha hk]
          · exact fun hp => List.mem_map_of_mem (List.mem_filter.mpr ⟨ha, hp⟩)
        rw [Bool.not_inj_iff, Bool.eq_iff_iff, List.contains_iff_mem]
        exact hiff
      refine ⟨[], _, _, revised_created hsub hall, rfl, rfl, ?_⟩
      rw [hothers]
      exact (List.filter_append_perm p declared).map _
  | cons e held ih =>
      obtain ⟨he, hheld⟩ := List.forall_mem_cons.mp back
      have hrest : ((declared.filter (·.key != e.key)).map (·.key)).Nodup :=
        (List.filter_sublist.map _).nodup distinct
      obtain ⟨front, added, added', h, h', hlength, hperm⟩ := ih hrest hheld
      refine ⟨reviseBy now declared e :: front, added, added', ?_, ?_, by simp [hlength], hperm⟩
      · have hcomm : (declared.filter p).filter (·.key != e.key) =
            (declared.filter (·.key != e.key)).filter p := by
          rw [List.filter_filter, List.filter_filter]
          congr 1
          funext a
          exact Bool.and_comm _ _
        rw [revised, revised, key_reviseBy, reviseBy_reviseBy distinct he, hcomm, h]
        rfl
      · rw [revised, h']
        rfl

end Revision

end DeclaredSchema
