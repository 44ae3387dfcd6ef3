import DeclaredSchema.Proofs.Store.Memory
import Mathlib.Logic.Function.Basic

/-! # Stores that differ in some defaults

The store in memory finds collections by id and attributes by key and never looks at a default. So
two stores that differ in some defaults answer the same call alike, also when the call itself sends
another default, and afterwards they differ in one default more or in one fewer.
-/

namespace DeclaredSchema

/-! ## The relations

Of several attributes of one key a store only ever writes the first one, and of several collections
of one id only the first. So the relations walk down the lists and drop a key, or an id, from those
that may differ once it has been met.
-/

/-- The same attribute to be sent, except for the default if that may differ. -/
structure ConcreteAttribute.SameBut (mayDiffer : Bool) (a b : ConcreteAttribute) : Prop where
  rest : { a with default := b.default } = b
  default : mayDiffer = false → a.default = b.default

theorem ConcreteAttribute.SameBut.key {mayDiffer : Bool} {a b : ConcreteAttribute}
    (h : a.SameBut mayDiffer b) : a.key = b.key := by rw [← h.rest]

/-- The same attribute as a store keeps it, except for the default if that may differ. -/
structure RemoteAttribute.SameBut (mayDiffer : Bool) (e f : RemoteAttribute) : Prop where
  rest : { e with default := f.default } = f
  default : mayDiffer = false → e.default = f.default

theorem RemoteAttribute.SameBut.key {mayDiffer : Bool} {e f : RemoteAttribute}
    (h : e.SameBut mayDiffer f) : e.key = f.key := by rw [← h.rest]

/-- The same attributes, except for the default of the first attribute of each of the keys. -/
inductive RemoteAttributes.SameBut :
    (String → Bool) → List RemoteAttribute → List RemoteAttribute → Prop
  | nil (keys : String → Bool) : SameBut keys [] []
  | cons {keys : String → Bool} {e f : RemoteAttribute} {rest rest' : List RemoteAttribute}
      (head : e.SameBut (keys e.key) f)
      (tail : SameBut (fun key => keys key && key != e.key) rest rest') :
      SameBut keys (e :: rest) (f :: rest')

/-- The same collections, except for the defaults of the keys given for the first collection of
each id. -/
inductive Snapshot.SameBut : (String → String → Bool) → Snapshot → Snapshot → Prop
  | nil (keys : String → String → Bool) : SameBut keys [] []
  | cons {keys : String → String → Bool} {c d : RemoteCollection} {rest rest' : Snapshot}
      (id : c.id = d.id) (name : c.name = d.name)
      (attributes : RemoteAttributes.SameBut (keys c.id) c.attributes d.attributes)
      (tail : SameBut (fun id key => keys id key && id != c.id) rest rest') :
      SameBut keys (c :: rest) (d :: rest')

namespace MemoryStore

/-- The same store but for its log, except for the defaults of the keys given for an id. -/
structure SameBut (keys : String → String → Bool) (s t : MemoryStore) : Prop where
  collections : Snapshot.SameBut keys s.collections t.collections
  failing : s.failing = t.failing
  nextId : s.nextId = t.nextId

/-- Both fail with the same fault, or both succeed with related results. -/
inductive SameAnswer {α : Type} (related : α → α → Prop) : Except Fault α → Except Fault α → Prop
  | error (f : Fault) : SameAnswer related (.error f) (.error f)
  | ok {x y : α} (h : related x y) : SameAnswer related (.ok x) (.ok y)

theorem SameAnswer.error_or_ok {α : Type} {related : α → α → Prop} {x y : Except Fault α}
    (h : SameAnswer related x y) :
    (∃ f, x = .error f ∧ y = .error f) ∨ ∃ a b, x = .ok a ∧ y = .ok b ∧ related a b := by
  cases h with
  | error f => exact .inl ⟨f, rfl, rfl⟩
  | ok h => exact .inr ⟨_, _, rfl, rfl, h⟩

end MemoryStore

/-- Says of one key of one id whether its default may differ. -/
def settle (keys : String → String → Bool) (id key : String) (mayDiffer : Bool) :
    String → String → Bool :=
  Function.update keys id (Function.update (keys id) key mayDiffer)

namespace RemoteAttributes.SameBut

open MemoryStore

variable {keys : String → Bool} {es fs : List RemoteAttribute} {mayDiffer : Bool}
  {a b : ConcreteAttribute}

theorem refl (keys : String → Bool) (es : List RemoteAttribute) : SameBut keys es es := by
  induction es generalizing keys with
  | nil => exact .nil keys
  | cons e rest ih => exact .cons ⟨rfl, fun _ => rfl⟩ (ih _)

theorem keys_eq (h : SameBut keys es fs) : es.map (·.key) = fs.map (·.key) := by
  induction h with
  | nil => rfl
  | cons head _ ih => rw [List.map_cons, List.map_cons, head.key, ih]

theorem sameBut_stored (h : a.SameBut mayDiffer b) : (stored a).SameBut mayDiffer (stored b) where
  rest := by rw [← h.rest]; rfl
  default hd := by rw [stored, stored, h.default hd]

/-- Behind an attribute of another key it does not matter when a key is settled. -/
theorem update_and_ne {key other : String} (hne : other ≠ key) (mayDiffer : Bool) :
    Function.update (fun k => keys k && k != other) key mayDiffer =
      fun k => Function.update keys key mayDiffer k && k != other := by
  funext k
  by_cases hk : k = key
  · subst hk
    simp [Ne.symm hne]
  · simp [hk]

/-- Behind an attribute of the key it does not matter whether the key is settled. -/
theorem update_and_self (key : String) (mayDiffer : Bool) :
    (fun k => Function.update keys key mayDiffer k && k != key) =
      fun k => keys k && k != key := by
  funext k
  by_cases hk : k = key <;> simp [hk]

/-- Replacing an attribute looks at keys alone and settles whether the default of its own may
differ. -/
theorem replaceAttribute (ha : a.SameBut mayDiffer b) (h : SameBut keys es fs) :
    SameAnswer (SameBut (Function.update keys a.key mayDiffer))
      (MemoryStore.replaceAttribute a es) (MemoryStore.replaceAttribute b fs) := by
  induction h with
  | nil =>
      rw [MemoryStore.replaceAttribute, MemoryStore.replaceAttribute, ha.key]
      exact .error _
  | @cons keys e f rest rest' head tail ih =>
      rw [MemoryStore.replaceAttribute, MemoryStore.replaceAttribute, ← head.key, ← ha.key]
      by_cases hk : e.key = a.key
      · rw [if_pos hk, if_pos hk]
        refine .ok (.cons ?_ ?_)
        · simpa [stored] using sameBut_stored ha
        · change SameBut (fun k => Function.update keys a.key mayDiffer k && k != a.key) rest rest'
          rw [update_and_self, ← hk]
          exact tail
      · rw [if_neg hk, if_neg hk]
        rcases ih.error_or_ok with ⟨g, hx, hy⟩ | ⟨_, _, hx, hy, more⟩
        · rw [hx, hy]
          exact .error g
        · rw [hx, hy]
          refine .ok (.cons ?_ ?_)
          · rwa [Function.update_of_ne hk]
          · rwa [← update_and_ne hk]

theorem append_stored (ha : a.SameBut mayDiffer b) (h : SameBut keys es fs)
    (absent : a.key ∉ es.map (·.key)) :
    SameBut (Function.update keys a.key mayDiffer) (es ++ [stored a]) (fs ++ [stored b]) := by
  induction h with
  | nil => exact .cons (by simpa [stored] using sameBut_stored ha) (.nil _)
  | @cons keys e f rest rest' head tail ih =>
      rw [List.map_cons, List.mem_cons, not_or] at absent
      have hk : e.key ≠ a.key := Ne.symm absent.1
      refine .cons ?_ ?_
      · rwa [Function.update_of_ne hk]
      · rw [← update_and_ne hk]
        exact ih absent.2

/-- So does adding one. -/
theorem addAttribute (ha : a.SameBut mayDiffer b) (h : SameBut keys es fs) :
    SameAnswer (SameBut (Function.update keys a.key mayDiffer))
      (MemoryStore.addAttribute a es) (MemoryStore.addAttribute b fs) := by
  have htaken (gs : List RemoteAttribute) :
      gs.any (·.key == a.key) = decide (a.key ∈ gs.map (·.key)) := by
    rw [Bool.eq_iff_iff]
    simp
  rw [MemoryStore.addAttribute, MemoryStore.addAttribute, ← ha.key, htaken, htaken, ← h.keys_eq]
  by_cases taken : a.key ∈ es.map (·.key)
  · rw [if_pos (by simpa using taken), if_pos (by simpa using taken)]
    exact .error _
  · rw [if_neg (by simpa using taken), if_neg (by simpa using taken)]
    exact .ok (h.append_stored ha taken)

end RemoteAttributes.SameBut

namespace Snapshot.SameBut

open MemoryStore

theorem refl (keys : String → String → Bool) (s : Snapshot) : SameBut keys s s := by
  induction s generalizing keys with
  | nil => exact .nil keys
  | cons c rest ih => exact .cons rfl rfl (.refl _ _) (ih _)

theorem concat {keys : String → String → Bool} {s t : Snapshot} (h : SameBut keys s t)
    (c : RemoteCollection) : SameBut keys (s ++ [c]) (t ++ [c]) := by
  induction h with
  | nil keys => exact refl keys [c]
  | cons id name attributes _ ih => exact .cons id name attributes ih

/-- Behind a collection of another id it does not matter when a key is settled. -/
theorem settle_and_ne {keys : String → String → Bool} {id other : String} (hne : other ≠ id)
    (key : String) (mayDiffer : Bool) :
    settle (fun i k => keys i k && i != other) id key mayDiffer =
      fun i k => settle keys id key mayDiffer i k && i != other := by
  funext i k
  by_cases hi : i = id
  · subst hi
    by_cases hk : k = key <;> simp [settle, hk, Ne.symm hne]
  · rw [settle, settle, Function.update_of_ne hi, Function.update_of_ne hi]

/-- Behind a collection of the id it does not matter whether the key is settled. -/
theorem settle_and_self {keys : String → String → Bool} (id key : String) (mayDiffer : Bool) :
    (fun i k => settle keys id key mayDiffer i k && i != id) =
      fun i k => keys i k && i != id := by
  funext i k
  by_cases hi : i = id
  · simp [hi]
  · rw [settle, Function.update_of_ne hi]

/-- Changing a collection looks at ids alone. -/
theorem changeCollection {keys : String → String → Bool} {s t : Snapshot} (id : String)
    {key : String} {mayDiffer : Bool}
    {change change' : List RemoteAttribute → Except Fault (List RemoteAttribute)}
    (hchange : ∀ {ks es fs}, RemoteAttributes.SameBut ks es fs →
      SameAnswer (RemoteAttributes.SameBut (Function.update ks key mayDiffer))
        (change es) (change' fs)) (h : SameBut keys s t) :
    SameAnswer (SameBut (settle keys id key mayDiffer))
      (MemoryStore.changeCollection id change s) (MemoryStore.changeCollection id change' t) := by
  induction h with
  | nil => exact .error _
  | @cons keys c d rest rest' hid hname attributes tail ih =>
      rw [MemoryStore.changeCollection, MemoryStore.changeCollection, ← hid]
      by_cases hc : c.id = id
      · rw [if_pos hc, if_pos hc]
        rcases (hchange attributes).error_or_ok with ⟨f, hx, hy⟩ | ⟨_, _, hx, hy, new⟩
        · rw [hx, hy]
          exact .error f
        · rw [hx, hy]
          refine .ok (.cons rfl hname ?_ ?_)
          · subst hc
            simpa [settle] using new
          · rwa [← hc, settle_and_self]
      · rw [if_neg hc, if_neg hc]
        rcases ih.error_or_ok with ⟨f, hx, hy⟩ | ⟨_, _, hx, hy, new⟩
        · rw [hx, hy]
          exact .error f
        · rw [hx, hy]
          refine .ok (.cons hid hname ?_ ?_)
          · rwa [settle, Function.update_of_ne hc]
          · rwa [← settle_and_ne hc]

end Snapshot.SameBut

/-! ## Calls on both stores -/

namespace MemoryStore

theorem createCollection_of_mem {s : MemoryStore} {name : String} (h : name ∈ s.failing) :
    s.createCollection name = (.error (.refused name), s.record (.createCollection name)) := by
  simp [createCollection, record, h]

theorem createCollection_of_not_mem {s : MemoryStore} {name : String} (h : name ∉ s.failing) :
    s.createCollection name = (.ok (generatedId s.nextId),
      { s.record (.createCollection name) with
        collections := s.collections ++ [⟨generatedId s.nextId, name, []⟩]
        nextId := s.nextId + 1 }) := by
  simp [createCollection, record, h]

end MemoryStore

namespace MemoryStore.SameBut

variable {keys : String → String → Bool} {s s' t t' : MemoryStore}

theorem refl (keys : String → String → Bool) (s : MemoryStore) : SameBut keys s s :=
  ⟨.refl keys s.collections, rfl, rfl⟩

/-- A change of one key that is answered alike is let through or refused alike. -/
theorem attempt (h : SameBut keys s s') (name id key : String) {mayDiffer : Bool}
    {change change' : Snapshot → Except Fault Snapshot}
    (hchange : SameAnswer (Snapshot.SameBut (settle keys id key mayDiffer))
      (change s.collections) (change' s'.collections)) :
    (s.attempt name change).1 = (s'.attempt name change').1 ∧
      SameBut (if (s.attempt name change).1 = .ok () then settle keys id key mayDiffer else keys)
        (s.attempt name change).2 (s'.attempt name change').2 := by
  rw [MemoryStore.attempt, MemoryStore.attempt, ← h.failing]
  by_cases hf : s.failing.contains name
  · rw [if_pos hf, if_pos hf]
    exact ⟨rfl, h⟩
  · rw [if_neg hf, if_neg hf]
    rcases hchange.error_or_ok with ⟨f, hx, hy⟩ | ⟨_, _, hx, hy, new⟩
    · rw [hx, hy]
      exact ⟨rfl, h⟩
    · rw [hx, hy]
      exact ⟨rfl, new, rfl, h.nextId⟩

theorem record (h : SameBut keys s s') (call call' : StoreCall) :
    SameBut keys (s.record call) (s'.record call') := ⟨h.collections, h.failing, h.nextId⟩

theorem createCollection (h : SameBut keys s s') (name : String) :
    (s.createCollection name).1 = (s'.createCollection name).1 ∧
      SameBut keys (s.createCollection name).2 (s'.createCollection name).2 := by
  by_cases hf : name ∈ s.failing
  · rw [createCollection_of_mem hf, createCollection_of_mem (h.failing ▸ hf)]
    exact ⟨rfl, h.record _ _⟩
  · rw [createCollection_of_not_mem hf, createCollection_of_not_mem (h.failing ▸ hf), ← h.nextId]
    exact ⟨rfl, h.collections.concat _, h.failing, rfl⟩

variable {mayDiffer : Bool} {a b : ConcreteAttribute}

theorem createAttribute (h : SameBut keys s s') (id : String) (sent : a.SameBut mayDiffer b) :
    (s.createAttribute id a).1 = (s'.createAttribute id b).1 ∧
      SameBut (if (s.createAttribute id a).1 = .ok () then settle keys id a.key mayDiffer else keys)
        (s.createAttribute id a).2 (s'.createAttribute id b).2 := by
  have hchange := h.collections.changeCollection id fun hes =>
    RemoteAttributes.SameBut.addAttribute sent hes
  rw [MemoryStore.createAttribute, MemoryStore.createAttribute, ← sent.key]
  exact (h.record _ _).attempt a.key id a.key hchange

theorem updateAttribute (h : SameBut keys s s') (id : String) (sent : a.SameBut mayDiffer b) :
    (s.updateAttribute id a).1 = (s'.updateAttribute id b).1 ∧
      SameBut (if (s.updateAttribute id a).1 = .ok () then settle keys id a.key mayDiffer else keys)
        (s.updateAttribute id a).2 (s'.updateAttribute id b).2 := by
  have hchange := h.collections.changeCollection id fun hes =>
    RemoteAttributes.SameBut.replaceAttribute sent hes
  rw [MemoryStore.updateAttribute, MemoryStore.updateAttribute, ← sent.key]
  exact (h.record _ _).attempt a.key id a.key hchange

end MemoryStore.SameBut

end DeclaredSchema
