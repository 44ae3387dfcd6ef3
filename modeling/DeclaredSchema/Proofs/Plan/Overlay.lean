import DeclaredSchema.Proofs.Plan.Merge

/-! # Updates in a row

A second update of an attribute finds what the store made of the first. Together they are one update
by the overlay of the two declarations (`mergeInto_stored_overlay`), and a setting that none of a row
of updates states stays as it was found (`updates_compose`). That holds of settings that the kind
takes: a constraint of another kind is not carried over by any update.
-/

namespace DeclaredSchema

open MemoryStore

attribute [ext] ConcreteAttribute

/-! ## Overlays -/

/-- A default whose instant has been fixed. -/
def DefaultValue.fixed (now : Instant) : DefaultValue → DefaultValue
  | .literal l => .literal l
  | .now => .literal (.str now.text)

@[simp] theorem DefaultValue.resolve_fixed (d : DefaultValue) (first later : Instant) :
    (d.fixed first).resolve later = d.resolve first := by
  cases d <;> rfl

/-- The later declaration where it states a setting, and the earlier one, made at an instant, where
it does not. -/
def Attribute.overlay (earlier later : Attribute) (now : Instant) : Attribute where
  key := later.key
  kind := later.kind
  required := if later.requiredExplicit then later.required else earlier.required
  requiredExplicit := later.requiredExplicit || earlier.requiredExplicit
  optional := later.optional
  default := later.default.or (earlier.default.map (·.fixed now))
  constraints := later.constraints.orElse earlier.constraints

/-! ## What a store keeps of a default -/

/-- A default that is stated has a value, which is stored as it is. -/
def Attribute.DefaultKept (a : Attribute) : Prop :=
  ∀ l, a.default = some (.literal l) → l ≠ .null ∧ l.Finite

/-- The default that a store reports has a value, which can be sent back as it is. -/
def RemoteAttribute.DefaultKept (e : RemoteAttribute) : Prop :=
  ∀ l, e.default = some l → l ≠ .null ∧ l.Finite

namespace Constraints

/-- Only settings that the kind takes. -/
def Legal (kind : Kind) (s : Constraints) : Prop :=
  ∀ c l, s.get? c = some l → kind.allows c = true

theorem Legal.filter_eq {kind : Kind} {s : Constraints} (h : s.Legal kind) :
    s.filter kind.allows = s := by
  apply ext_get?
  intro c
  rw [get?_filter]
  split
  · rfl
  · next hnot =>
      cases hc : s.get? c with
      | none => rfl
      | some l => exact absurd (h c l hc) hnot

theorem filter_orElse (s t : Constraints) (p : Constraint → Bool) :
    (s.orElse t).filter p = (s.filter p).orElse (t.filter p) := by
  apply ext_get?
  intro c
  simp only [get?_orElse, get?_filter]
  split <;> simp

theorem filter_filter (s : Constraints) (p : Constraint → Bool) :
    (s.filter p).filter p = s.filter p := by
  apply ext_get?
  intro c
  simp only [get?_filter]
  split <;> rfl

theorem orElse_assoc (s t u : Constraints) : (s.orElse t).orElse u = s.orElse (t.orElse u) := by
  apply ext_get?
  intro c
  simp only [get?_orElse, Option.or_assoc]

theorem orElse_self (s : Constraints) : s.orElse s = s := by
  apply ext_get?
  intro c
  rw [get?_orElse, Option.or_self]

end Constraints

/-- A declaration of an attribute of a kind that a store can keep. -/
structure Attribute.Fits (kind : Kind) (a : Attribute) : Prop where
  ofKind : a.kind = kind
  legal : a.constraints.Legal kind
  defaultKept : a.DefaultKept

namespace RemoteAttribute

/-- A default that is kept is sent as what it is read from. -/
theorem DefaultKept.keptDefault_eq {e : RemoteAttribute} (h : e.DefaultKept) :
    e.keptDefault = e.default.map (·.toJson) := by
  rw [keptDefault]
  cases hd : e.default with
  | none => rfl
  | some l =>
      have hnull := Literal.isNull_eq_false_iff.mpr (h l hd).1
      rw [Option.filter_some_pos (by rw [hnull, Bool.not_false])]

theorem DefaultKept.bind_ofJson? {e : RemoteAttribute} (h : e.DefaultKept) :
    e.keptDefault.bind Literal.ofJson? = e.default := by
  rw [h.keptDefault_eq]
  cases hd : e.default with
  | none => rfl
  | some l => exact (h l hd).2.writesBack

end RemoteAttribute

namespace Attribute

variable {kind : Kind} {a d d₁ d₂ : Attribute} {e : RemoteAttribute} {now t t₁ t₂ : Instant}

/-- The default that a store keeps of one that is stated is sent again as it was. -/
theorem DefaultKept.ofJson?_resolve (h : a.DefaultKept) {v : DefaultValue}
    (hv : a.default = some v) (now : Instant) :
    ∃ l, Literal.ofJson? (v.resolve now) = some l ∧ l.toJson = v.resolve now ∧
      l ≠ .null ∧ l.Finite := by
  cases v with
  | now => exact ⟨.str now.text, rfl, rfl, nofun, trivial⟩
  | literal l => exact ⟨l, (h l hv).2.writesBack, rfl, h l hv⟩

/-- The store keeps of the merged default what it was. -/
theorem default_stored_mergeInto (he : e.DefaultKept) (hd : d.DefaultKept) (now : Instant) :
    (stored (d.mergeInto e now)).DefaultKept ∧
      (stored (d.mergeInto e now)).default.map (·.toJson) = (d.mergeInto e now).default := by
  cases hv : d.default with
  | none =>
      have hsent : (d.mergeInto e now).default = e.keptDefault := by rw [mergeInto, hv]
      have hback : (stored (d.mergeInto e now)).default = e.default := by
        rw [stored, hsent, he.bind_ofJson?]
      refine ⟨fun l hl => he l (hback ▸ hl), ?_⟩
      rw [hback, hsent, he.keptDefault_eq]
  | some v =>
      obtain ⟨l, hread, hwritten, hkept⟩ := hd.ofJson?_resolve hv now
      have hsent : (d.mergeInto e now).default = some (v.resolve now) := by rw [mergeInto, hv]
      have hback : (stored (d.mergeInto e now)).default = some l := by
        rw [stored, hsent]
        exact hread
      refine ⟨fun m hm => ?_, ?_⟩
      · rw [hback] at hm
        cases hm
        exact hkept
      · rw [hback, hsent, Option.map_some, hwritten]

/-- Two updates in a row are one update by the overlay. -/
theorem mergeInto_stored_overlay (he : e.DefaultKept) (h₁ : d₁.Fits kind) (h₂ : d₂.Fits kind)
    (t₁ t₂ : Instant) :
    d₂.mergeInto (stored (d₁.mergeInto e t₁)) t₂ = (d₁.overlay d₂ t₁).mergeInto e t₂ := by
  obtain ⟨hkept, hstored⟩ := default_stored_mergeInto he h₁.defaultKept t₁
  have hdefault : (d₂.mergeInto (stored (d₁.mergeInto e t₁)) t₂).default =
      ((d₁.overlay d₂ t₁).mergeInto e t₂).default := by
    cases hv : d₂.default with
    | some v => simp [mergeInto, overlay, hv]
    | none =>
        rw [mergeInto, hv]
        refine (hkept.keptDefault_eq.trans hstored).trans ?_
        cases hw : d₁.default <;> simp [mergeInto, overlay, hv, hw]
  have hrequired : (d₂.mergeInto (stored (d₁.mergeInto e t₁)) t₂).required =
      ((d₁.overlay d₂ t₁).mergeInto e t₂).required := by
    simp only [mergeInto, overlay, stored]
    by_cases h : d₂.requiredExplicit = true <;> simp [h]
  have hconstraints : d₂.constraints.orElse
      ((d₁.constraints.orElse (e.constraints.filter kind.allows)).filter kind.allows) =
        (d₂.constraints.orElse d₁.constraints).orElse (e.constraints.filter kind.allows) := by
    rw [Constraints.filter_orElse, h₁.legal.filter_eq, Constraints.filter_filter,
      Constraints.orElse_assoc]
  refine ConcreteAttribute.ext rfl rfl hrequired hdefault ?_
  simpa only [mergeInto, overlay, stored, h₁.ofKind, h₂.ofKind] using hconstraints

/-- An update by an overlay of a declaration on itself is an update by it. -/
theorem mergeInto_overlay_self (a : Attribute) (e : RemoteAttribute) (now : Instant) :
    (a.overlay a now).mergeInto e now = a.mergeInto e now := by
  simp only [mergeInto, overlay, Constraints.orElse_self, Bool.or_self, ite_self]
  cases a.default <;> rfl

end Attribute

/-! ## Any number of updates -/

/-- What the store holds after updates in a row, each at its own instant. -/
def RemoteAttribute.afterUpdates (e : RemoteAttribute) (updates : List (Attribute × Instant)) :
    RemoteAttribute :=
  updates.foldl (fun e u => stored (u.1.mergeInto e u.2)) e

namespace RemoteAttribute

variable {kind : Kind} {e : RemoteAttribute} {updates : List (Attribute × Instant)}

/-- What is true of an attribute and not changed by any of the updates is true after them. -/
theorem afterUpdates_induct {P : RemoteAttribute → Prop} (he : P e)
    (step : ∀ u ∈ updates, ∀ e, P e → P (stored (u.1.mergeInto e u.2))) :
    P (e.afterUpdates updates) := by
  induction updates generalizing e with
  | nil => exact he
  | cons u updates ih =>
      exact ih (step u List.mem_cons_self e he)
        fun v hv => step v (List.mem_cons_of_mem u hv)

theorem required_afterUpdates (unstated : ∀ u ∈ updates, u.1.requiredExplicit = false) :
    (e.afterUpdates updates).required = e.required := by
  refine afterUpdates_induct (P := fun r => r.required = e.required) rfl fun u hu r hr => ?_
  simp [stored, Attribute.mergeInto, unstated u hu, hr]

theorem default_afterUpdates (he : e.DefaultKept) (unstated : ∀ u ∈ updates, u.1.default = none) :
    (e.afterUpdates updates).default = e.default := by
  refine afterUpdates_induct (P := fun r => r.default = e.default) rfl fun u hu r hr => ?_
  have hkept : r.DefaultKept := fun l hl => he l (hr ▸ hl)
  have hsent : (u.1.mergeInto r u.2).default = r.keptDefault := by
    rw [Attribute.mergeInto, unstated u hu]
  rw [stored, hsent, hkept.bind_ofJson?, hr]

theorem constraint_afterUpdates {c : Constraint}
    (hc : ∀ l, e.constraints.get? c = some l → kind.allows c = true)
    (ofKind : ∀ u ∈ updates, u.1.kind = kind)
    (unstated : ∀ u ∈ updates, u.1.constraints.get? c = none) :
    (e.afterUpdates updates).constraints.get? c = e.constraints.get? c := by
  refine afterUpdates_induct (P := fun r => r.constraints.get? c = e.constraints.get? c) rfl
    fun u hu r hr => ?_
  rw [stored, Attribute.mergeInto, Constraints.get?_orElse, unstated u hu, Option.none_or,
    Constraints.get?_filter, ofKind u hu, hr]
  split
  · rfl
  · next hnot => exact (Option.eq_none_iff_forall_ne_some.mpr fun l hl => hnot (hc l hl)).symm

end RemoteAttribute

/-- Updates of an attribute compose: the second of two finds what the store made of the first, and
together they are one update by the overlay. So an update made twice is made once, and what no
update of a row states is what it was, a constraint that the kind does not take apart. -/
theorem updates_compose (kind : Kind) {e : RemoteAttribute} (he : e.DefaultKept) :
    (∀ d₁ d₂ : Attribute, d₁.Fits kind → d₂.Fits kind → ∀ t₁ t₂,
      d₂.mergeInto (stored (d₁.mergeInto e t₁)) t₂ = (d₁.overlay d₂ t₁).mergeInto e t₂) ∧
    (∀ d : Attribute, d.Fits kind → ∀ t,
      d.mergeInto (stored (d.mergeInto e t)) t = d.mergeInto e t) ∧
    ∀ updates : List (Attribute × Instant), (∀ u ∈ updates, u.1.Fits kind) →
      ((∀ u ∈ updates, u.1.requiredExplicit = false) →
        (e.afterUpdates updates).required = e.required) ∧
      ((∀ u ∈ updates, u.1.default = none) → (e.afterUpdates updates).default = e.default) ∧
      ∀ c, (∀ l, e.constraints.get? c = some l → kind.allows c = true) →
        (∀ u ∈ updates, u.1.constraints.get? c = none) →
          (e.afterUpdates updates).constraints.get? c = e.constraints.get? c := by
  refine ⟨fun d₁ d₂ h₁ h₂ t₁ t₂ => Attribute.mergeInto_stored_overlay he h₁ h₂ t₁ t₂,
    fun d hd t => ?_, fun updates hfits => ⟨?_, ?_, fun c hc => ?_⟩⟩
  · rw [Attribute.mergeInto_stored_overlay he hd hd, Attribute.mergeInto_overlay_self]
  · exact RemoteAttribute.required_afterUpdates
  · exact RemoteAttribute.default_afterUpdates he
  · exact RemoteAttribute.constraint_afterUpdates hc fun u hu => (hfits u hu).ofKind

/-- A required instant with a default in a store. -/
def heldInstant : RemoteAttribute where
  key := "sent"
  kind := some .datetime
  remoteType := "datetime"
  required := true
  default := some (.str "1970-01-01T00:00:00.000Z")
  constraints := { array := some (.bool false) }

/-- A declaration that writes the current instant. -/
def writesNow : Attribute where
  key := "sent"
  kind := .datetime
  default := some .now

/-- A declaration that states nothing but that there may be several instants. -/
def writesArray : Attribute where
  key := "sent"
  kind := .datetime
  constraints := { array := some (.bool true) }

theorem updates_compose_instants :
    heldInstant.DefaultKept ∧ writesNow.Fits .datetime ∧ writesArray.Fits .datetime ∧
    writesArray.mergeInto (stored (writesNow.mergeInto heldInstant ⟨0, 0⟩)) ⟨60, 0⟩ =
      (writesNow.overlay writesArray ⟨0, 0⟩).mergeInto heldInstant ⟨60, 0⟩ ∧
    writesNow.mergeInto (stored (writesNow.mergeInto heldInstant ⟨0, 0⟩)) ⟨0, 0⟩ =
      writesNow.mergeInto heldInstant ⟨0, 0⟩ ∧
    (heldInstant.afterUpdates [(writesNow, ⟨0, 0⟩), (writesArray, ⟨60, 0⟩)]).required = true ∧
    (heldInstant.afterUpdates [(writesArray, ⟨0, 0⟩)]).default =
      some (.str "1970-01-01T00:00:00.000Z") ∧
    (heldInstant.afterUpdates [(writesNow, ⟨0, 0⟩)]).constraints.get? .array =
      some (.bool false) := by
  have he : heldInstant.DefaultKept := by
    rintro l ⟨⟩
    exact ⟨nofun, trivial⟩
  have hnow : writesNow.Fits .datetime := ⟨rfl, by rintro ⟨⟩ l ⟨⟩, by rintro l ⟨⟩⟩
  have harray : writesArray.Fits .datetime := by
    refine ⟨rfl, fun c l hl => ?_, by rintro l ⟨⟩⟩
    cases c <;> first | rfl | cases hl
  obtain ⟨two, same, row⟩ := updates_compose .datetime he
  have hboth := row [(writesNow, ⟨0, 0⟩), (writesArray, ⟨60, 0⟩)] (by simp [hnow, harray])
  have hlast := row [(writesArray, ⟨0, 0⟩)] (by simp [harray])
  have hfirst := row [(writesNow, ⟨0, 0⟩)] (by simp [hnow])
  exact ⟨he, hnow, harray, two _ _ hnow harray _ _, same _ hnow _,
    hboth.1 (by simp [writesNow, writesArray]), hlast.2.1 (by simp [writesArray]),
    hfirst.2.2 .array (fun _ _ => rfl) (by simp [writesNow, Constraints.get?])⟩

/-- A constraint of another kind is lost by an update that does not state it. -/
theorem unfit_constraint_is_lost : ¬ ∀ (e : RemoteAttribute) (d : Attribute) (t : Instant)
    (c : Constraint), e.kind = some d.kind → e.DefaultKept → d.Fits d.kind →
      d.constraints.get? c = none →
        (stored (d.mergeInto e t)).constraints.get? c = e.constraints.get? c := by
  intro h
  let e : RemoteAttribute := {
    key := "k"
    kind := some .string
    remoteType := "string"
    constraints := { min := some (.int 1) } }
  let d : Attribute := { key := "k", kind := .string }
  have hlost := h e d ⟨0, 0⟩ .min rfl (by rintro l ⟨⟩) ⟨rfl, by rintro ⟨⟩ l ⟨⟩, by rintro l ⟨⟩⟩ rfl
  cases hlost

end DeclaredSchema
