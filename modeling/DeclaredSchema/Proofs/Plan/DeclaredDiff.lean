import DeclaredSchema.Proofs.Plan.Collapse
import Mathlib.Data.List.Forall2

/-! # A plan is the declared difference

`Share` says, without any walk through lists, which operations and which omissions one class gives
rise to: it looks at the classes before it, at the declarations that count and at what the store
holds under its name. A class has exactly one share, and a plan is the shares of the classes one
after the other.
-/

namespace DeclaredSchema.Plan

/-- What becomes of a declaration that counts, in the one collection of its name. -/
inductive Outcome (remote : RemoteCollection) (a : Attribute) : Operation ⊕ Skipped → Prop where
  | absent (h : remote.attribute? a.key = none) :
      Outcome remote a (.inl (.createAttribute (.existing remote.id remote.name) a))
  | sameKind {e : RemoteAttribute} (h : remote.attribute? a.key = some e)
      (kind : e.kind = some a.kind) :
      Outcome remote a (.inl (.updateAttribute remote.id remote.name a e))
  | otherKind {e : RemoteAttribute} (h : remote.attribute? a.key = some e)
      (kind : e.kind ≠ some a.kind) :
      Outcome remote a
        (.inr ⟨remote.name, some a.key, .lookup (.kindMismatch a.key e.remoteType a.kind)⟩)

/-- The omission of every declaration of a class that repeats a key. -/
def repeatsOf (c : Collection) : List Skipped :=
  (repeats c.attributes).map fun (a, i) => ⟨c.name, some a.key, .superseded i⟩

/-- The part of a plan that a class gives rise to, when the classes `before` stand before it. -/
inductive Share (snapshot : Snapshot) (mode : PlanMode) (before : List Collection)
    (c : Collection) : Plan → Prop where
  | nameTaken {first : Collection} (taken : before.find? (·.name == c.name) = some first) :
      Share snapshot mode before c
        ⟨[], [⟨c.name, none, .nameCollision first.source c.source⟩]⟩
  | absent (free : ∀ b ∈ before, b.name ≠ c.name) (remote : snapshot.named c.name = []) :
      Share snapshot mode before c
        ⟨.createCollection ⟨c.name, c.source, counted c.attributes⟩ ::
          (counted c.attributes).map (.createAttribute (.pending c.name)), repeatsOf c⟩
  | leftAlone (free : ∀ b ∈ before, b.name ≠ c.name) (createOnly : mode = .createOnly)
      (remote : snapshot.named c.name ≠ []) :
      Share snapshot mode before c ⟨[], repeatsOf c ++ [⟨c.name, none, .collectionExists⟩]⟩
  | ambiguous (free : ∀ b ∈ before, b.name ≠ c.name) (update : mode = .update)
      (remote : 2 ≤ (snapshot.named c.name).length) :
      Share snapshot mode before c ⟨[], repeatsOf c ++
        [⟨c.name, none, .lookup (.ambiguousCollection (snapshot.named c.name).length)⟩]⟩
  | updated (free : ∀ b ∈ before, b.name ≠ c.name) (update : mode = .update)
      {remote : RemoteCollection} (single : snapshot.named c.name = [remote])
      {outcomes : List (Operation ⊕ Skipped)}
      (outcome : List.Forall₂ (Outcome remote) (counted c.attributes) outcomes) :
      Share snapshot mode before c ⟨outcomes.filterMap Sum.getLeft?,
        repeatsOf c ++ outcomes.filterMap Sum.getRight?⟩

theorem Outcome.unique {remote : RemoteCollection} {a : Attribute} {o o' : Operation ⊕ Skipped}
    (h : Outcome remote a o) (h' : Outcome remote a o') : o = o' := by
  cases h <;> cases h' <;> simp_all

theorem Outcome.unique_all {remote : RemoteCollection} {attributes : List Attribute}
    {os os' : List (Operation ⊕ Skipped)} (h : List.Forall₂ (Outcome remote) attributes os)
    (h' : List.Forall₂ (Outcome remote) attributes os') : os = os' := by
  induction h generalizing os' with
  | nil => cases h'; rfl
  | cons h _ ih =>
      cases h' with
      | cons g gs => rw [h.unique g, ih gs]

/-- A class has one share only, so each of the five cases stands for a condition of its own. -/
theorem Share.unique {snapshot : Snapshot} {mode : PlanMode} {before : List Collection}
    {c : Collection} {p q : Plan} (hp : Share snapshot mode before c p)
    (hq : Share snapshot mode before c q) : p = q := by
  have clash {first : Collection} (taken : before.find? (·.name == c.name) = some first)
      (free : ∀ b ∈ before, b.name ≠ c.name) : False :=
    free first (List.mem_of_find?_eq_some taken) (by simpa using List.find?_some taken)
  cases hp with
  | nameTaken taken =>
      cases hq with
      | nameTaken taken' => simp_all
      | _ => exact (clash taken ‹_›).elim
  | absent free remote =>
      cases hq with
      | nameTaken taken => exact (clash taken free).elim
      | absent _ _ => rfl
      | _ => simp_all
  | leftAlone free createOnly remote =>
      cases hq with
      | nameTaken taken => exact (clash taken free).elim
      | leftAlone _ _ _ => rfl
      | _ => simp_all
  | ambiguous free update remote =>
      cases hq with
      | nameTaken taken => exact (clash taken free).elim
      | ambiguous _ _ _ => rfl
      | _ => simp_all
  | updated free update single outcome =>
      cases hq with
      | nameTaken taken => exact (clash taken free).elim
      | updated _ _ single' outcome' =>
          obtain rfl : _ = _ := by simpa using single.symm.trans single'
          rw [Outcome.unique_all outcome outcome']
      | _ => simp_all

/-! ## The planner -/

@[simp] theorem append_operations (p q : Plan) :
    (append p q).operations = p.operations ++ q.operations := rfl

@[simp] theorem append_skipped (p q : Plan) :
    (append p q).skipped = p.skipped ++ q.skipped := rfl

theorem operations_foldr_append (plans : List Plan) :
    (plans.foldr append empty).operations = plans.flatMap (·.operations) := by
  induction plans with
  | nil => rfl
  | cons p rest ih => rw [List.foldr_cons, append_operations, ih, List.flatMap_cons]

theorem skipped_foldr_append (plans : List Plan) :
    (plans.foldr append empty).skipped = plans.flatMap (·.skipped) := by
  induction plans with
  | nil => rfl
  | cons p rest ih => rw [List.foldr_cons, append_skipped, ih, List.flatMap_cons]

/-- The planner makes one outcome of a declaration. -/
theorem exists_outcome (remote : RemoteCollection) (a : Attribute) :
    ∃ o, Outcome remote a o ∧
      forAttribute remote a = ⟨o.getLeft?.toList, o.getRight?.toList⟩ := by
  unfold forAttribute
  cases he : remote.attribute? a.key with
  | none => exact ⟨_, .absent he, rfl⟩
  | some e =>
      by_cases hk : e.kind = some a.kind
      · exact ⟨_, .sameKind he hk, by simp [hk]⟩
      · exact ⟨_, .otherKind he hk, by simp [hk]⟩

theorem exists_outcomes (remote : RemoteCollection) (attributes : List Attribute) :
    ∃ os, List.Forall₂ (Outcome remote) attributes os ∧
      (attributes.map (forAttribute remote)).foldr append empty =
        ⟨os.filterMap Sum.getLeft?, os.filterMap Sum.getRight?⟩ := by
  induction attributes with
  | nil => exact ⟨[], .nil, rfl⟩
  | cons a rest ih =>
      obtain ⟨os, hos, heq⟩ := ih
      obtain ⟨o, ho, hpart⟩ := exists_outcome remote a
      refine ⟨o :: os, .cons ho hos, ?_⟩
      rw [List.map_cons, List.foldr_cons, heq, hpart, append]
      cases o <;> rfl

theorem share_forClass (snapshot : Snapshot) (mode : PlanMode) (before : List Collection)
    (c : Collection) : Share snapshot mode before c (forClass snapshot mode before c) := by
  unfold forClass
  cases ht : before.find? (·.name == c.name) with
  | some first => exact .nameTaken ht
  | none =>
      have free : ∀ b ∈ before, b.name ≠ c.name := by simpa using ht
      have hs : superseded c = repeatsOf c := superseded_eq_repeats c
      simp only [hs]
      cases hr : snapshot.named c.name with
      | nil =>
          simp only [forRemotes, forNew, append, List.nil_append, List.append_nil,
            collapse_eq_counted]
          exact .absent free hr
      | cons remote others =>
          cases mode with
          | createOnly => exact .leftAlone free rfl (by simp [hr])
          | update =>
              cases others with
              | nil =>
                  obtain ⟨os, hos, heq⟩ := exists_outcomes remote (counted c.attributes)
                  simp only [forRemotes, forExisting, List.isEmpty_nil, if_true,
                    collapse_eq_counted, heq, append, List.nil_append]
                  exact .updated free rfl hr hos
              | cons other others =>
                  have h2 : 2 ≤ (snapshot.named c.name).length := by simp [hr]
                  have hshare : Share snapshot .update before c _ := .ambiguous free rfl h2
                  simpa [forRemotes, leaveOut, append, hr] using hshare

/-- The planner goes through the classes and remembers those it has passed. -/
theorem after_eq_foldr (snapshot : Snapshot) (mode : PlanMode) (before classes : List Collection) :
    ∃ shares : List Plan, after snapshot mode before classes = shares.foldr append empty ∧
      List.Forall₂ (fun (c, i) share =>
        share = forClass snapshot mode ((before ++ classes).take i) c)
        (classes.zipIdx before.length) shares := by
  induction classes generalizing before with
  | nil => exact ⟨[], rfl, .nil⟩
  | cons c rest ih =>
      obtain ⟨shares, heq, hshare⟩ := ih (before ++ [c])
      rw [List.length_append, List.append_assoc] at hshare
      refine ⟨forClass snapshot mode before c :: shares, ?_, .cons ?_ hshare⟩
      · rw [after, heq, List.foldr_cons]
      · show _ = forClass snapshot mode ((before ++ c :: rest).take before.length) c
        rw [List.take_left]

/-- The plan for any classes, store and mode is the shares of the classes in their order. Each
class has the one share that its name, its declarations that count and the store's collections of
that name give it, and of its declarations every one counts or is reported as a repeat. -/
theorem plan_eq_declared_shares (classes : List Collection) (snapshot : Snapshot)
    (mode : PlanMode) :
    (∃ shares : List Plan,
      (plan classes snapshot mode).operations = shares.flatMap (·.operations) ∧
      (plan classes snapshot mode).skipped = shares.flatMap (·.skipped) ∧
      List.Forall₂ (fun (c, i) share =>
        ∀ p, Share snapshot mode (classes.take i) c p ↔ p = share) classes.zipIdx shares) ∧
    ∀ c : Collection, (counted c.attributes).map (·.key) = firstKeys c.attributes ∧
      (repeatsOf c).length + (counted c.attributes).length = c.attributes.length := by
  constructor
  · obtain ⟨shares, heq, hshare⟩ := after_eq_foldr snapshot mode [] classes
    refine ⟨shares, ?_, ?_, ?_⟩
    · rw [plan, heq, operations_foldr_append]
    · rw [plan, heq, skipped_foldr_append]
    · refine hshare.imp ?_
      rintro ⟨c, i⟩ share rfl p
      have hown := share_forClass snapshot mode (classes.take i) c
      constructor
      · exact fun hp => hp.unique hown
      · rintro rfl
        exact hown
  · intro c
    rw [repeatsOf, List.length_map]
    exact ⟨keys_counted c.attributes, length_repeats_add_length_counted c.attributes⟩

end DeclaredSchema.Plan
