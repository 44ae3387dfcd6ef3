import DeclaredSchema.Plan.Merge
import DeclaredSchema.Proofs.Schema.LiteralJson
import DeclaredSchema.Store.Memory

/-! # Merging twice

What a store keeps of an attribute that was created or merged is what the same declaration gives
when it is merged into that once more, at the same instant. For a default that the declaration
leaves to the store this needs that the default is read again from what it is written as, as it is
in every snapshot.
-/

namespace DeclaredSchema

open MemoryStore

/-- The default can be sent and stored without a change. -/
def RemoteAttribute.WritesBack (e : RemoteAttribute) : Prop :=
  ∀ l, e.default = some l → Literal.ofJson? l.toJson = some l

namespace Constraints

theorem orElse_filter_self (s : Constraints) (p : Constraint → Bool) :
    s.orElse (s.filter p) = s := by
  apply ext_get?
  intro c
  rw [get?_orElse, get?_filter]
  split
  · exact Option.or_self
  · exact Option.or_none

theorem orElse_filter_orElse_filter (s t : Constraints) (p : Constraint → Bool) :
    s.orElse ((s.orElse (t.filter p)).filter p) = s.orElse (t.filter p) := by
  apply ext_get?
  intro c
  simp only [get?_orElse, get?_filter]
  cases s.get? c with
  | some l => rfl
  | none =>
      split
      · exact Option.none_or
      · rfl

end Constraints

namespace Attribute

/-- Merging into what the store made of `sent` gives `sent` again if every part does. -/
theorem mergeInto_stored_of {a : Attribute} {now : Instant} {sent : ConcreteAttribute}
    (key : sent.key = a.key) (kind : sent.kind = a.kind)
    (required : a.requiredExplicit = true → sent.required = a.required)
    (stated : ∀ d, a.default = some d → sent.default = some (d.resolve now))
    (kept : a.default = none →
      (stored sent).keptDefault.bind Literal.ofJson? = sent.default.bind Literal.ofJson?)
    (constraints : a.constraints.orElse (sent.constraints.filter a.kind.allows) =
      sent.constraints) :
    stored (a.mergeInto (stored sent) now) = stored sent := by
  have hrequired : (if a.requiredExplicit then a.required else sent.required) = sent.required := by
    split
    · next h => exact (required h).symm
    · rfl
  have hdefault : (a.mergeInto (stored sent) now).default.bind Literal.ofJson? =
      sent.default.bind Literal.ofJson? := by
    cases hd : a.default with
    | none => rw [mergeInto, hd]; exact kept hd
    | some d => rw [mergeInto, hd, stated d hd]
  rw [stored, hdefault]
  simp only [mergeInto, stored, key, kind, hrequired, constraints]

/-- The default that is kept is the one that comes back. -/
theorem keptDefault_bind_ofJson? {e : RemoteAttribute} (he : e.WritesBack) :
    e.keptDefault.bind Literal.ofJson? = e.default.filter (!·.isNull) := by
  rw [RemoteAttribute.keptDefault]
  cases hd : e.default with
  | none => rfl
  | some l =>
      by_cases hl : l.isNull = true
      · rw [Option.filter_some_neg (by simpa using hl)]
        rfl
      · rw [Option.filter_some_pos (by simpa using hl)]
        exact he l hd

/-- An attribute that was created is not changed by an update. -/
theorem mergeInto_stored_concrete (a : Attribute) (now : Instant) :
    stored (a.mergeInto (stored (a.concrete now)) now) = stored (a.concrete now) := by
  apply mergeInto_stored_of
  · rfl
  · rfl
  · intro _
    rfl
  · intro d hd
    rw [concrete, hd]
    rfl
  · intro hd
    simp [concrete, stored, RemoteAttribute.keptDefault, hd]
  · exact Constraints.orElse_filter_self _ _

/-- An attribute that was updated is not changed by a second update. -/
theorem mergeInto_stored_mergeInto (a : Attribute) {e : RemoteAttribute} (he : e.WritesBack)
    (now : Instant) :
    stored (a.mergeInto (stored (a.mergeInto e now)) now) = stored (a.mergeInto e now) := by
  apply mergeInto_stored_of
  · rfl
  · rfl
  · intro hr
    rw [mergeInto, if_pos hr]
  · intro d hd
    rw [mergeInto, hd]
  · intro hd
    have hsent : (a.mergeInto e now).default = e.keptDefault := by rw [mergeInto, hd]
    have hback : (stored (a.mergeInto e now)).default = e.default.filter (!·.isNull) := by
      rw [stored, hsent]
      exact keptDefault_bind_ofJson? he
    rw [keptDefault_bind_ofJson?, hback, hsent, keptDefault_bind_ofJson? he]
    · simp
    · intro l hl
      rw [hback] at hl
      exact he l (Option.filter_eq_some_iff.mp hl).1
  · exact Constraints.orElse_filter_orElse_filter _ _ _

end Attribute

/-! ## Snapshots -/

namespace Snapshot

theorem literalField?_ofJson? {j : Json} {name : String} {l : Literal} (hj : j.NumbersFit)
    (h : literalField? j name = some l) : Literal.ofJson? l.toJson = some l := by
  obtain ⟨hl, -⟩ := Option.filter_eq_some_iff.mp h
  obtain ⟨v, hv, hl⟩ := Option.bind_eq_some_iff.mp hl
  exact Literal.ofJson?_toJson_of_ofJson? (hj.field? hv) hl

theorem attributeOfJson?_writesBack {j : Json} {e : RemoteAttribute} (hj : j.NumbersFit)
    (h : attributeOfJson? j = some e) : e.WritesBack := by
  simp only [attributeOfJson?, Option.bind_eq_bind, Option.bind_eq_some_iff] at h
  obtain ⟨_, _, key, _, h⟩ := h
  obtain rfl := Option.some.inj h
  exact fun l hl => literalField?_ofJson? hj hl

theorem items?_numbersFit {j : Json} {items : List Json} (hj : j.NumbersFit)
    (h : items? j = some items) : Json.AllNumbersFit items := by
  rcases Option.or_eq_some_iff.mp h with h | ⟨-, h⟩
  · obtain ⟨v, hv, h⟩ := Option.bind_eq_some_iff.mp h
    exact (hj.field? hv).arr? h
  · exact hj.arr? h

theorem collectionOfJson?_writesBack {j : Json} {c : RemoteCollection} (hj : j.NumbersFit)
    (h : collectionOfJson? j = some c) : ∀ e ∈ c.attributes, e.WritesBack := by
  simp only [collectionOfJson?, Option.bind_eq_bind, Option.bind_eq_some_iff] at h
  obtain ⟨_, _, id, _, _, _, name, _, h⟩ := h
  obtain rfl := Option.some.inj h
  intro e he
  obtain ⟨v, hv, he⟩ := List.mem_filterMap.mp he
  cases hitems : (j.field? "attributes").bind (·.arr?) with
  | none => simp [hitems] at hv
  | some items =>
      rw [hitems, Option.getD_some] at hv
      obtain ⟨w, hw, hitems⟩ := Option.bind_eq_some_iff.mp hitems
      exact attributeOfJson?_writesBack (Json.numbersFit_of_mem ((hj.field? hw).arr? hitems) hv) he

/-- The defaults that a snapshot holds can be sent and stored without a change. -/
theorem writesBack_of_ofJson {j : Json} {s : Snapshot} (hj : j.NumbersFit)
    (h : ofJson j = .ok s) : ∀ c ∈ s, ∀ e ∈ c.attributes, e.WritesBack := by
  rw [ofJson] at h
  cases hitems : items? j with
  | none => simp [hitems] at h
  | some items =>
      rw [hitems] at h
      obtain rfl := Except.ok.inj h
      intro c hc
      obtain ⟨v, hv, hc⟩ := List.mem_filterMap.mp hc
      exact collectionOfJson?_writesBack
        (Json.numbersFit_of_mem (items?_numbersFit hj hitems) hv) hc

end Snapshot

end DeclaredSchema
