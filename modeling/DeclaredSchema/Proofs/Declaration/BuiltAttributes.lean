import DeclaredSchema.Declaration.Build
import Mathlib.Data.List.Induction
import Mathlib.Data.List.Forall2

/-! # What a class declares, told by the last arguments

Of the arguments with one meaning the last one counts (`LastStates`). `Declares` says setting by
setting which attribute a field declares, `TurnedDown` which of its arguments are reported, and
`Gives` what a class is built to. Building searches the arguments from the end or folds over them
from the front, and both come to this (`buildCollection_eq_iff`).
-/

namespace DeclaredSchema

/-! ## The last argument -/

/-- The last of the arguments that pass a test states a literal. -/
def LastStates (p : Argument → Prop) (args : List Argument) (l : Literal) : Prop :=
  ∃ before arg after, args = before ++ arg :: after ∧ p arg ∧ arg.value = some l ∧
    ∀ later ∈ after, ¬ p later

theorem not_lastStates_nil {p : Argument → Prop} {l : Literal} : ¬ LastStates p [] l := by
  rintro ⟨before, arg, after, h, -⟩
  cases before <;> cases h

theorem lastStates_concat {p : Argument → Prop} {args : List Argument} {arg : Argument}
    {l : Literal} :
    LastStates p (args ++ [arg]) l ↔
      (p arg ∧ arg.value = some l) ∨ (¬ p arg ∧ LastStates p args l) := by
  constructor
  · rintro ⟨before, counted, after, h, hp, hvalue, hlater⟩
    rcases List.eq_nil_or_concat after with rfl | ⟨after, last, rfl⟩
    · cases (List.append_inj' h rfl).2
      exact .inl ⟨hp, hvalue⟩
    · rw [List.concat_eq_append, ← List.cons_append, ← List.append_assoc] at h
      obtain ⟨rfl, hlast⟩ := List.append_inj' h rfl
      cases hlast
      refine .inr ⟨hlater arg (by simp), before, counted, after, rfl, hp, hvalue, ?_⟩
      exact fun later hmem => hlater later (by simp [hmem])
  · rintro (⟨hp, hvalue⟩ | ⟨hp, before, counted, after, rfl, hcounted, hvalue, hlater⟩)
    · exact ⟨args, arg, [], rfl, hp, hvalue, fun _ => nofun⟩
    · refine ⟨before, counted, after ++ [arg], by simp, hcounted, hvalue, fun later hmem => ?_⟩
      rcases List.mem_append.mp hmem with hmem | hmem
      · exact hlater later hmem
      · exact List.mem_singleton.mp hmem ▸ hp

theorem LastStates.unique {p : Argument → Prop} {args : List Argument} {l m : Literal}
    (hl : LastStates p args l) (hm : LastStates p args m) : l = m := by
  induction args using List.reverseRecOn with
  | nil => exact absurd hl not_lastStates_nil
  | append_singleton args arg ih =>
      rw [lastStates_concat] at hl hm
      rcases hl with ⟨hp, hl⟩ | ⟨hp, hl⟩ <;> rcases hm with ⟨hq, hm⟩ | ⟨hq, hm⟩
      · exact Option.some.inj (hl.symm.trans hm)
      · exact absurd hp hq
      · exact absurd hq hp
      · exact ih hl hm

/-- An argument with a keyword. -/
def Named (word : String) (arg : Argument) : Prop := arg.name = word

/-- An argument with one of the keywords of a constraint. -/
def Sets (c : Constraint) (arg : Argument) : Prop := Constraint.ofKeyword? arg.name = some c

theorem lastArgument?_eq_some_iff {word : String} {args : List Argument} {l : Literal} :
    lastArgument? word args = some l ↔ LastStates (Named word) args l := by
  induction args using List.reverseRecOn with
  | nil => simp [lastArgument?, not_lastStates_nil]
  | append_singleton args arg ih =>
      rw [lastStates_concat, ← ih, lastArgument?, List.reverse_concat, List.find?_cons, Named]
      by_cases h : arg.name = word
      · simp [h]
      · rw [beq_false_of_ne h]
        simp [h, lastArgument?]

/-! ## What a field declares -/

/-- The attribute of a kind that a field declares. -/
structure Declares (f : FieldDeclaration) (kind : Kind) (a : Attribute) : Prop where
  key : a.key = f.key
  ofKind : a.kind = kind
  optional : a.optional = f.optional
  /-- A constraint has the value that the last of its arguments states, whatever its keyword. -/
  constraints : ∀ c l, a.constraints.get? c = some l ↔
    kind.allows c = true ∧ LastStates (Sets c) f.args l ∧ l ≠ .null
  noDefault : a.default = none ↔
    kind.acceptsDefault = false ∨ ∀ l, LastStates (Named "default") f.args l → l = .null
  nowDefault : a.default = some .now ↔
    kind = .datetime ∧ LastStates (Named "default") f.args (.str "Now")
  literalDefault : ∀ l, a.default = some (.literal l) ↔
    kind.acceptsDefault = true ∧ LastStates (Named "default") f.args l ∧ l ≠ .null ∧
      ¬ (kind = .datetime ∧ l = .str "Now")
  required : ∀ b, a.requiredExplicit = true ∧ a.required = b ↔
    LastStates (Named "required") f.args (.bool b)
  notRequired : a.requiredExplicit = false → a.required = false

theorem Declares.unique {f : FieldDeclaration} {kind : Kind} {a b : Attribute}
    (ha : Declares f kind a) (hb : Declares f kind b) : a = b := by
  have hconstraints : a.constraints = b.constraints := by
    refine Constraints.ext_get? fun c => Option.ext fun l => ?_
    exact (ha.constraints c l).trans (hb.constraints c l).symm
  have hdefault : a.default = b.default := by
    cases h : a.default with
    | none => exact (hb.noDefault.mpr (ha.noDefault.mp h)).symm
    | some d =>
        cases d with
        | now => exact (hb.nowDefault.mpr (ha.nowDefault.mp h)).symm
        | literal l => exact ((hb.literalDefault l).mpr ((ha.literalDefault l).mp h)).symm
  have hrequired : b.requiredExplicit = a.requiredExplicit ∧ b.required = a.required := by
    cases h : a.requiredExplicit with
    | true => exact (hb.required _).mpr ((ha.required _).mp ⟨h, rfl⟩)
    | false =>
        cases h' : b.requiredExplicit with
        | true =>
            have := (ha.required _).mpr ((hb.required _).mp ⟨h', rfl⟩)
            rw [h] at this
            cases this.1
        | false => exact ⟨rfl, (hb.notRequired h').trans (ha.notRequired h).symm⟩
  cases a
  cases b
  simp only [Attribute.mk.injEq]
  exact ⟨ha.key.trans hb.key.symm, ha.ofKind.trans hb.ofKind.symm, hrequired.2.symm, hrequired.1.symm,
    ha.optional.trans hb.optional.symm, hdefault, hconstraints⟩

/-! ### Constraints -/

theorem constraintOf?_eq_some_iff {kind : Kind} {arg : Argument} {c : Constraint} :
    constraintOf? kind arg = some c ↔ kind.allows c = true ∧ Sets c arg := by
  rw [constraintOf?, Option.filter_eq_some_iff, and_comm, Sets]

theorem ofKeyword?_reserved :
    ∀ word ∈ reservedArguments, Constraint.ofKeyword? word = none := by
  decide

theorem constraintOf?_reserved {kind : Kind} {arg : Argument}
    (h : arg.name ∈ reservedArguments) : constraintOf? kind arg = none := by
  rw [constraintOf?, ofKeyword?_reserved _ h, Option.filter_none]

/-- What one argument does to the value of a constraint. -/
theorem get?_applyArgument (kind : Kind) (s : Constraints) (arg : Argument) (c : Constraint) :
    (applyArgument kind s arg).get? c =
      if constraintOf? kind arg = some c then arg.value.filter (!·.isNull) else s.get? c := by
  rw [applyArgument]
  by_cases hreserved : arg.name ∈ reservedArguments
  · simp [hreserved, constraintOf?_reserved hreserved]
  · cases h : constraintOf? kind arg with
    | none => simp [hreserved]
    | some d => simp [hreserved, eq_comm]

theorem filter_not_isNull {value : Option Literal} {l : Literal} :
    value.filter (!·.isNull) = some l ↔ value = some l ∧ l ≠ .null := by
  rw [Option.filter_eq_some_iff, Bool.not_eq_true', Literal.isNull_eq_false_iff]

/-- What the arguments in a row do to it. -/
theorem get?_foldl_applyArgument (kind : Kind) (args : List Argument) (c : Constraint)
    (l : Literal) :
    (args.foldl (applyArgument kind) {}).get? c = some l ↔
      kind.allows c = true ∧ LastStates (Sets c) args l ∧ l ≠ .null := by
  induction args using List.reverseRecOn with
  | nil =>
      rw [List.foldl_nil]
      have hempty : Constraints.get? {} c = none := Constraints.get?_empty c
      simp [hempty, not_lastStates_nil]
  | append_singleton args arg ih =>
      rw [List.foldl_append, List.foldl_cons, List.foldl_nil,
        get?_applyArgument, lastStates_concat]
      have hstated : constraintOf? kind arg = some c ↔ kind.allows c = true ∧ Sets c arg :=
        constraintOf?_eq_some_iff
      by_cases hallows : kind.allows c = true
      · by_cases hsets : Sets c arg
        · rw [if_pos (hstated.mpr ⟨hallows, hsets⟩), filter_not_isNull]
          simp [hallows, hsets]
        · rw [if_neg (fun h => hsets (hstated.mp h).2), ih]
          simp [hallows, hsets]
      · rw [if_neg (fun h => hallows (hstated.mp h).1), ih]
        simp [hallows]

/-! ### Defaults -/

theorem statedDefault?_eq_some_iff {args : List Argument} {l : Literal} :
    statedDefault? args = some l ↔ LastStates (Named "default") args l ∧ l ≠ .null := by
  rw [statedDefault?, filter_not_isNull, lastArgument?_eq_some_iff]

theorem statedDefault?_eq_none_iff {args : List Argument} :
    statedDefault? args = none ↔ ∀ l, LastStates (Named "default") args l → l = .null := by
  simp only [Option.eq_none_iff_forall_ne_some, ne_eq, statedDefault?_eq_some_iff, not_and,
    not_not]

theorem isNow_iff {kind : Kind} {l : Literal} :
    (decide (kind = .datetime) && decide (l.str? = some nowWord)) = true ↔
      kind = .datetime ∧ l = .str "Now" := by
  rw [Bool.and_eq_true, decide_eq_true_eq, decide_eq_true_eq, Literal.str?_eq_some_iff, nowWord]

theorem acceptsDefault_eq_false_iff {kind : Kind} :
    kind.acceptsDefault = false ↔ kind = .relationship := by
  cases kind <;> decide

theorem defaultOf?_eq_none_iff {kind : Kind} {args : List Argument} :
    defaultOf? kind args = none ↔
      kind.acceptsDefault = false ∨ ∀ l, LastStates (Named "default") args l → l = .null := by
  rw [defaultOf?, ← statedDefault?_eq_none_iff]
  cases kind.acceptsDefault <;> simp

theorem defaultOf?_eq_now_iff {kind : Kind} {args : List Argument} :
    defaultOf? kind args = some .now ↔
      kind = .datetime ∧ LastStates (Named "default") args (.str "Now") := by
  constructor
  · intro h
    cases haccepts : kind.acceptsDefault with
    | false => simp [defaultOf?, haccepts] at h
    | true =>
        simp only [defaultOf?, haccepts, Bool.not_true, Bool.false_eq_true, if_false,
          Option.map_eq_some_iff] at h
        obtain ⟨l, hl, hnow⟩ := h
        split at hnow
        · next hword =>
            obtain ⟨hkind, rfl⟩ := isNow_iff.mp hword
            exact ⟨hkind, (statedDefault?_eq_some_iff.mp hl).1⟩
        · cases hnow
  · rintro ⟨rfl, h⟩
    have hstated : statedDefault? args = some (.str "Now") :=
      statedDefault?_eq_some_iff.mpr ⟨h, nofun⟩
    simp [defaultOf?, hstated, Kind.acceptsDefault, Literal.str?, nowWord]

theorem defaultOf?_eq_literal_iff {kind : Kind} {args : List Argument} {l : Literal} :
    defaultOf? kind args = some (.literal l) ↔
      kind.acceptsDefault = true ∧ LastStates (Named "default") args l ∧ l ≠ .null ∧
        ¬ (kind = .datetime ∧ l = .str "Now") := by
  cases haccepts : kind.acceptsDefault with
  | false => simp [defaultOf?, haccepts]
  | true =>
      simp only [defaultOf?, haccepts, Bool.not_true, Bool.false_eq_true, if_false,
        Option.map_eq_some_iff, statedDefault?_eq_some_iff, true_and]
      constructor
      · rintro ⟨stated, ⟨hlast, hne⟩, h⟩
        split at h
        · cases h
        · next hword =>
            cases h
            exact ⟨hlast, hne, mt isNow_iff.mpr hword⟩
      · rintro ⟨hlast, hne, hword⟩
        exact ⟨l, ⟨hlast, hne⟩, if_neg (mt isNow_iff.mp hword)⟩

/-! ## What is reported -/

/-- An argument that is not a constraint of the kind, and not one of the three that never are. -/
def Unfit (kind : Kind) (arg : Argument) : Prop :=
  arg.name ∉ reservedArguments ∧ ∀ c, Sets c arg → kind.allows c = false

theorem isIllegal_eq_true_iff {kind : Kind} {arg : Argument} :
    isIllegal kind arg = true ↔ Unfit kind arg := by
  rw [isIllegal, Bool.and_eq_true, Bool.not_eq_true', Option.isNone_iff_eq_none, Unfit]
  simp [Option.eq_none_iff_forall_ne_some, constraintOf?_eq_some_iff, imp_not_comm]

/-- The keywords of the arguments that are turned down, one for each of them. -/
inductive TurnedDown (kind : Kind) : List Argument → List String → Prop where
  | nil : TurnedDown kind [] []
  | unfit {arg args words} : Unfit kind arg → TurnedDown kind args words →
      TurnedDown kind (arg :: args) (arg.name :: words)
  | fit {arg args words} : ¬ Unfit kind arg → TurnedDown kind args words →
      TurnedDown kind (arg :: args) words

theorem turnedDown_iff {kind : Kind} {args : List Argument} {words : List String} :
    TurnedDown kind args words ↔ words = (args.filter (isIllegal kind)).map (·.name) := by
  constructor
  · intro h
    induction h with
    | nil => rfl
    | unfit h _ ih => rw [List.filter_cons_of_pos (isIllegal_eq_true_iff.mpr h), ih, List.map_cons]
    | fit h _ ih => rw [List.filter_cons_of_neg (mt isIllegal_eq_true_iff.mp h), ih]
  · rintro rfl
    induction args with
    | nil => exact .nil
    | cons arg args ih =>
        by_cases h : isIllegal kind arg = true
        · rw [List.filter_cons_of_pos h]
          exact .unfit (isIllegal_eq_true_iff.mp h) ih
        · rw [List.filter_cons_of_neg h]
          exact .fit (mt isIllegal_eq_true_iff.mpr h) ih

/-- A relationship takes no default, and one is stated. -/
def RefusesDefault (kind : Kind) (args : List Argument) : Prop :=
  kind = .relationship ∧ ∃ l, LastStates (Named "default") args l ∧ l ≠ .null

theorem refusesDefault_iff {kind : Kind} {args : List Argument} :
    (!kind.acceptsDefault && (statedDefault? args).isSome) = true ↔ RefusesDefault kind args := by
  rw [Bool.and_eq_true, Bool.not_eq_true', acceptsDefault_eq_false_iff, Option.isSome_iff_exists,
    RefusesDefault]
  simp only [statedDefault?_eq_some_iff]

/-! ## What a field and a class are built to -/

/-- A field gives an attribute if its declarator has a kind, and otherwise one warning. -/
inductive FieldDeclaration.Gives (className : String) (f : FieldDeclaration) :
    Option Attribute → List BuildWarning → Prop where
  | unsupported : Kind.ofLabel? f.declarator = none →
      Gives className f none [.unsupportedKind className f.field f.declarator]
  | stated {kind a words} : Kind.ofLabel? f.declarator = some kind → Declares f kind a →
      TurnedDown kind f.args words → ¬ RefusesDefault kind f.args →
      Gives className f (some a) (words.map (.illegalConstraint className f.field kind))
  | withoutDefault {kind a words} : Kind.ofLabel? f.declarator = some kind → Declares f kind a →
      TurnedDown kind f.args words → RefusesDefault kind f.args →
      Gives className f (some a)
        (("default" :: words).map (.illegalConstraint className f.field kind))

/-- A class gives what its fields give, in their order, and no collection if none of them gives an
attribute. -/
inductive ClassDeclaration.Gives (c : ClassDeclaration) :
    Option Collection → List BuildWarning → Prop where
  | dropped {built : List (Option Attribute × List BuildWarning)} :
      List.Forall₂ (fun f r => f.Gives c.name r.1 r.2) c.fields built →
      (∀ r ∈ built, r.1 = none) → Gives c none (built.flatMap (·.2))
  | collection {built : List (Option Attribute × List BuildWarning)} :
      List.Forall₂ (fun f r => f.Gives c.name r.1 r.2) c.fields built →
      (∃ r ∈ built, r.1 ≠ none) →
      Gives c (some ⟨camelCase c.name, c.source, built.filterMap (·.1)⟩) (built.flatMap (·.2))

theorem buildAttribute_of_kind (className : String) {f : FieldDeclaration} {kind : Kind}
    (hkind : Kind.ofLabel? f.declarator = some kind) :
    ∃ a, Declares f kind a ∧ buildAttribute className f = (some a,
      ((if (!kind.acceptsDefault && (statedDefault? f.args).isSome) = true then ["default"] else [])
        ++ (f.args.filter (isIllegal kind)).map (·.name)).map
          (.illegalConstraint className f.field kind)) := by
  simp only [buildAttribute, hkind]
  refine ⟨_, ?_, rfl⟩
  have hrequired (b : Bool) : (lastArgument? "required" f.args).bind (·.bool?) = some b ↔
      LastStates (Named "required") f.args (.bool b) := by
    simp only [Option.bind_eq_some_iff, Literal.bool?_eq_some_iff, exists_eq_right,
      lastArgument?_eq_some_iff]
  exact {
    key := rfl
    ofKind := rfl
    optional := rfl
    constraints := get?_foldl_applyArgument kind f.args
    noDefault := defaultOf?_eq_none_iff
    nowDefault := defaultOf?_eq_now_iff
    literalDefault := fun _ => defaultOf?_eq_literal_iff
    required := fun b => by
      rw [← hrequired]
      cases (lastArgument? "required" f.args).bind (·.bool?) <;> simp
    notRequired := fun h => by
      cases hstated : (lastArgument? "required" f.args).bind (·.bool?) with
      | none => rfl
      | some b => simp [hstated] at h }

/-- A field is built to what it gives and to nothing else. -/
theorem buildAttribute_eq_iff {className : String} {f : FieldDeclaration}
    {built : Option Attribute} {warnings : List BuildWarning} :
    buildAttribute className f = (built, warnings) ↔ f.Gives className built warnings := by
  constructor
  · intro h
    cases hkind : Kind.ofLabel? f.declarator with
    | none =>
        simp only [buildAttribute, hkind] at h
        cases h
        exact .unsupported hkind
    | some kind =>
        obtain ⟨a, declared, hbuilt⟩ := buildAttribute_of_kind className hkind
        cases hbuilt.symm.trans h
        by_cases hdefault : RefusesDefault kind f.args
        · rw [if_pos (refusesDefault_iff.mpr hdefault)]
          exact .withoutDefault hkind declared (turnedDown_iff.mpr rfl) hdefault
        · rw [if_neg (mt refusesDefault_iff.mp hdefault)]
          exact .stated hkind declared (turnedDown_iff.mpr rfl) hdefault
  · intro h
    cases h with
    | unsupported hkind => simp only [buildAttribute, hkind]
    | stated hkind declared hwords hdefault =>
        obtain ⟨a, hdeclares, hbuilt⟩ := buildAttribute_of_kind className hkind
        rw [hbuilt, if_neg (mt refusesDefault_iff.mp hdefault), turnedDown_iff.mp hwords,
          declared.unique hdeclares, List.nil_append]
    | withoutDefault hkind declared hwords hdefault =>
        obtain ⟨a, hdeclares, hbuilt⟩ := buildAttribute_of_kind className hkind
        rw [hbuilt, if_pos (refusesDefault_iff.mpr hdefault), turnedDown_iff.mp hwords,
          declared.unique hdeclares, List.singleton_append]

theorem map_buildAttribute_eq_iff {className : String} {fields : List FieldDeclaration}
    {built : List (Option Attribute × List BuildWarning)} :
    fields.map (buildAttribute className) = built ↔
      List.Forall₂ (fun f r => f.Gives className r.1 r.2) fields built := by
  induction fields generalizing built with
  | nil => rw [List.map_nil, List.forall₂_nil_left_iff, eq_comm]
  | cons f fields ih =>
      cases built with
      | nil => exact ⟨nofun, nofun⟩
      | cons r built =>
          rw [List.map_cons, List.cons.injEq, List.forall₂_cons, ih, ← buildAttribute_eq_iff]

theorem isEmpty_filterMap {results : List (Option Attribute × List BuildWarning)}
    (h : ∃ r ∈ results, r.1 ≠ none) : (results.filterMap (·.1)).isEmpty = false := by
  obtain ⟨r, hr, hne⟩ := h
  rw [List.isEmpty_eq_false_iff, ne_eq, List.filterMap_eq_nil_iff]
  exact fun hnone => hne (hnone r hr)

/-- A class is built to what its fields declare, where the last argument of each setting counts and
every argument that is not used is reported once. -/
theorem buildCollection_eq_iff {c : ClassDeclaration} {built : Option Collection}
    {warnings : List BuildWarning} :
    buildCollection c = (built, warnings) ↔ c.Gives built warnings := by
  constructor
  · intro h
    have hfields := map_buildAttribute_eq_iff.mp (Eq.refl (c.fields.map (buildAttribute c.name)))
    rw [buildCollection] at h
    generalize c.fields.map (buildAttribute c.name) = results at h hfields
    by_cases hnone : ∀ r ∈ results, r.1 = none
    · rw [List.filterMap_eq_nil_iff.mpr hnone] at h
      cases h
      exact .dropped hfields hnone
    · have hsome : ∃ r ∈ results, r.1 ≠ none := by simpa using hnone
      rw [isEmpty_filterMap hsome] at h
      cases h
      exact .collection hfields hsome
  · intro h
    cases h with
    | dropped hfields hnone =>
        rw [buildCollection, map_buildAttribute_eq_iff.mpr hfields,
          List.filterMap_eq_nil_iff.mpr hnone]
        rfl
    | collection hfields hsome =>
        rw [buildCollection, map_buildAttribute_eq_iff.mpr hfields, isEmpty_filterMap hsome]
        rfl

example : buildCollection ⟨"user_note", "m.py", 1, [
      ⟨"x", "x", "IntegerAttribute",
        [⟨"min", some (.int 1)⟩, ⟨"size", some (.int 9)⟩, ⟨"min", some (.int 2)⟩], false, 2⟩,
      ⟨"y", "y", "StringAttribute", [⟨"size", some (.int 9)⟩, ⟨"size", none⟩], true, 3⟩,
      ⟨"z", "z", "JsonAttribute", [], false, 4⟩]⟩ =
    (some ⟨camelCase "user_note", "m.py", [
      { key := "x", kind := .integer, constraints := { min := some (.int 2) } },
      { key := "y", kind := .string, optional := true }]⟩,
     [.illegalConstraint "user_note" "x" .integer "size",
      .unsupportedKind "user_note" "z" "JsonAttribute"]) := rfl

end DeclaredSchema
