import DeclaredSchema.Proofs.Schema.LiteralJson

/-! # Between literals and JSON

Both ways round: what becomes of a literal that is written and read, and of a JSON value that is
read and written. The one thing a literal can lose is a double that JSON has no number for; the one
thing a value cannot keep is an object, at whatever depth it stands.
-/

namespace DeclaredSchema

namespace Json

/-! ## Values with an object -/

mutual

/-- No object occurs in the value. -/
def objectFree : Json → Bool
  | .obj _ => false
  | .arr items => allObjectFree items
  | _ => true

def allObjectFree : List Json → Bool
  | [] => true
  | v :: rest => v.objectFree && allObjectFree rest

end

/-- A value occurs in another: it is that value, or it occurs in an item or in a field of it. -/
inductive OccursIn (w : Json) : Json → Prop where
  | here : OccursIn w w
  | item {items : List Json} {v : Json} (mem : v ∈ items) (inside : OccursIn w v) :
      OccursIn w (.arr items)
  | field {fields : List (String × Json)} {name : String} {v : Json} (mem : (name, v) ∈ fields)
      (inside : OccursIn w v) : OccursIn w (.obj fields)

/-- An object occurs in the value, at the top or anywhere below. -/
def HasObject (v : Json) : Prop := ∃ fields, OccursIn (.obj fields) v

theorem hasObject_arr {items : List Json} :
    HasObject (.arr items) ↔ ∃ v ∈ items, HasObject v := by
  constructor
  · rintro ⟨fields, h⟩
    cases h with
    | item mem inside => exact ⟨_, mem, fields, inside⟩
  · rintro ⟨v, mem, fields, inside⟩
    exact ⟨fields, .item mem inside⟩

mutual

theorem objectFree_eq_false_iff (v : Json) : v.objectFree = false ↔ HasObject v := by
  cases v with
  | arr items =>
      rw [objectFree, hasObject_arr]
      exact allObjectFree_eq_false_iff items
  | obj fields => exact ⟨fun _ => ⟨fields, .here⟩, fun _ => rfl⟩
  | _ => exact ⟨nofun, fun ⟨_, h⟩ => nomatch h⟩

theorem allObjectFree_eq_false_iff (vs : List Json) :
    allObjectFree vs = false ↔ ∃ v ∈ vs, HasObject v := by
  cases vs with
  | nil => simp [allObjectFree]
  | cons v rest =>
      rw [allObjectFree, Bool.and_eq_false_iff, objectFree_eq_false_iff v,
        allObjectFree_eq_false_iff rest]
      simp

end

/-! ## Values of 64-bit integers and finite doubles -/

mutual

/-- The value with every integer beyond 64 bits as a double. -/
def narrowed : Json → Json
  | .int n => if -2 ^ 63 ≤ n ∧ n < 2 ^ 63 then .int n else .float (.ofInt n)
  | .arr items => .arr (allNarrowed items)
  | v => v

def allNarrowed : List Json → List Json
  | [] => []
  | v :: rest => v.narrowed :: allNarrowed rest

end

mutual

/-- Every integer is one of 64 bits with a sign, and every double is finite. -/
def Narrow : Json → Prop
  | .int n => -2 ^ 63 ≤ n ∧ n < 2 ^ 63
  | .float x => x.isFinite = true
  | .arr items => AllNarrow items
  | .obj fields => FieldsNarrow fields
  | _ => True

def AllNarrow : List Json → Prop
  | [] => True
  | v :: rest => v.Narrow ∧ AllNarrow rest

def FieldsNarrow : List (String × Json) → Prop
  | [] => True
  | (_, v) :: rest => v.Narrow ∧ FieldsNarrow rest

end

mutual

theorem narrow_narrowed {v : Json} (fit : v.NumbersFit) (free : v.objectFree = true) :
    v.narrowed.Narrow := by
  cases v with
  | int n =>
      rw [NumbersFit] at fit
      rw [narrowed]
      split
      · next h => rwa [Narrow]
      · rw [Narrow]
        exact Binary64.isFinite_ofInt (by omega)
  | float x =>
      rw [NumbersFit] at fit
      rwa [narrowed, Narrow]
      all_goals simp
  | arr items =>
      rw [NumbersFit] at fit
      rw [objectFree] at free
      rw [narrowed, Narrow]
      exact allNarrow_allNarrowed fit free
  | obj fields => simp [objectFree] at free
  | _ => simp [narrowed, Narrow]

theorem allNarrow_allNarrowed {vs : List Json} (fit : AllNumbersFit vs)
    (free : allObjectFree vs = true) : AllNarrow (allNarrowed vs) := by
  cases vs with
  | nil => simp [allNarrowed, AllNarrow]
  | cons v rest =>
      rw [AllNumbersFit] at fit
      rw [allObjectFree, Bool.and_eq_true] at free
      rw [allNarrowed, AllNarrow]
      exact ⟨narrow_narrowed fit.1 free.1, allNarrow_allNarrowed fit.2 free.2⟩

end

mutual

theorem Narrow.numbersFit {v : Json} (h : v.Narrow) : v.NumbersFit := by
  cases v with
  | int n =>
      rw [Narrow] at h
      rw [NumbersFit]
      omega
  | float x =>
      rw [Narrow] at h
      rwa [NumbersFit]
  | arr items =>
      rw [Narrow] at h
      rw [NumbersFit]
      exact AllNarrow.allNumbersFit h
  | obj fields =>
      rw [Narrow] at h
      rw [NumbersFit]
      exact FieldsNarrow.fieldNumbersFit h
  | _ => simp [NumbersFit]

theorem AllNarrow.allNumbersFit {vs : List Json} (h : AllNarrow vs) : AllNumbersFit vs := by
  cases vs with
  | nil => simp [AllNumbersFit]
  | cons v rest =>
      rw [AllNarrow] at h
      rw [AllNumbersFit]
      exact ⟨h.1.numbersFit, AllNarrow.allNumbersFit h.2⟩

theorem FieldsNarrow.fieldNumbersFit {fields : List (String × Json)} (h : FieldsNarrow fields) :
    FieldNumbersFit fields := by
  cases fields with
  | nil => simp [FieldNumbersFit]
  | cons f rest =>
      rw [FieldsNarrow] at h
      rw [FieldNumbersFit]
      exact ⟨h.1.numbersFit, FieldsNarrow.fieldNumbersFit h.2⟩

end

mutual

theorem Narrow.narrowed_eq {v : Json} (h : v.Narrow) : v.narrowed = v := by
  cases v with
  | int n =>
      rw [Narrow] at h
      rw [narrowed, if_pos h]
  | arr items =>
      rw [Narrow] at h
      rw [narrowed, AllNarrow.allNarrowed_eq h]
  | _ => rfl

theorem AllNarrow.allNarrowed_eq {vs : List Json} (h : AllNarrow vs) : allNarrowed vs = vs := by
  cases vs with
  | nil => rfl
  | cons v rest =>
      rw [AllNarrow] at h
      rw [allNarrowed, h.1.narrowed_eq, AllNarrow.allNarrowed_eq h.2]

end

end Json

/-! ## Literals are written as they were read -/

namespace Literal

theorem toJson_ofJson?_int {n : Int} (h : -2 ^ 63 ≤ n ∧ n < 2 ^ 64) :
    (ofJson? (.int n)).map toJson = some (Json.int n).narrowed := by
  rw [ofJson?, Json.narrowed]
  by_cases hn : n < 2 ^ 63
  · have hword : int64? n = some (.ofInt n) := by
      rw [int64?, if_pos (by omega)]
    rw [hword, if_pos ⟨h.1, hn⟩, Option.map_some, toJson, Int64.toInt_ofInt_of_le h.1 hn]
  · have hword : int64? n = none := by
      rw [int64?, if_neg (by omega)]
    rw [hword, if_neg (by omega), Option.map_some, toJson, Json.ofBinary64,
      if_pos (Binary64.isFinite_ofInt (by omega))]

mutual

/-- A literal is written as the value that it was read from. -/
theorem toJson_ofJson? {v : Json} (h : v.NumbersFit) :
    (ofJson? v).map toJson = if v.objectFree then some v.narrowed else none := by
  cases v with
  | int n =>
      rw [Json.NumbersFit] at h
      exact toJson_ofJson?_int h
  | float x =>
      rw [Json.NumbersFit] at h
      rw [ofJson?, Option.map_some, toJson, Json.ofBinary64, if_pos h]
      rfl
  | arr items =>
      rw [Json.NumbersFit] at h
      have hall := toJsons_ofJsons? h
      have hlist : (ofJson? (.arr items)).map toJson =
          ((ofJsons? items).map toJsons).map Json.arr := by
        rw [ofJson?]
        cases ofJsons? items <;> rfl
      rw [hlist, hall, Json.objectFree, Json.narrowed]
      split <;> rfl
  | _ => rfl

theorem toJsons_ofJsons? {vs : List Json} (h : Json.AllNumbersFit vs) :
    (ofJsons? vs).map toJsons =
      if Json.allObjectFree vs then some (Json.allNarrowed vs) else none := by
  cases vs with
  | nil => rfl
  | cons v rest =>
      rw [Json.AllNumbersFit] at h
      have hv := toJson_ofJson? h.1
      have hrest := toJsons_ofJsons? h.2
      have hcons : (ofJsons? (v :: rest)).map toJsons =
          ((ofJson? v).map toJson).bind fun w => ((ofJsons? rest).map toJsons).map (w :: ·) := by
        rw [ofJsons?]
        cases ofJson? v with
        | none => rfl
        | some l => cases ofJsons? rest <;> rfl
      rw [hcons, hv, hrest, Json.allObjectFree, Json.allNarrowed]
      cases v.objectFree with
      | false => rfl
      | true => cases Json.allObjectFree rest <;> rfl

end

end Literal

/-- A literal that is written and read again is what it was, with null for every double that is not
finite. A value of 64-bit integers and finite doubles is refused exactly if an object occurs in it;
otherwise it is written back as it was read. -/
theorem literal_json_round_trips :
    (∀ l : Literal, Literal.ofJson? l.toJson = some l.written ∧ (l.Finite → l.written = l)) ∧
    ∀ v : Json, v.Narrow → (Literal.ofJson? v = none ↔ v.HasObject) ∧
      ∀ l, Literal.ofJson? v = some l → l.toJson = v := by
  refine ⟨fun l => ⟨Literal.ofJson?_toJson l, Literal.Finite.written_eq⟩, fun v hv => ?_⟩
  have hmap : (Literal.ofJson? v).map Literal.toJson = if v.objectFree then some v else none := by
    rw [Literal.toJson_ofJson? hv.numbersFit, hv.narrowed_eq]
  constructor
  · rw [← Json.objectFree_eq_false_iff, ← Option.map_eq_none_iff, hmap]
    cases v.objectFree <;> simp
  · intro l hl
    rw [hl, Option.map_some] at hmap
    split at hmap
    · exact Option.some.inj hmap
    · cases hmap

/-- A nested list is written back with its integer and its integral double kept apart, and refused
as soon as an object stands beside it. -/
theorem literal_json_round_trips_nested :
    let plain : Json := .arr [.arr [.int 1, .float (.ofInt 1)], .str "x"]
    let mixed : Json := .arr [plain, .arr [.obj [("a", .null)]]]
    (plain.Narrow ∧ ∀ l, Literal.ofJson? plain = some l → l.toJson = plain) ∧
      mixed.Narrow ∧ Literal.ofJson? mixed = none := by
  intro plain mixed
  have hfinite : (Binary64.ofInt 1).isFinite = true := Binary64.isFinite_ofInt (by decide)
  have hplain : plain.Narrow := by
    simp [plain, Json.Narrow, Json.AllNarrow, hfinite]
  have hmixed : mixed.Narrow := by
    simp [mixed, hplain, Json.Narrow, Json.AllNarrow, Json.FieldsNarrow]
  have hobject : mixed.HasObject := by
    refine ⟨[("a", .null)], .item (v := .arr [.obj [("a", .null)]]) ?_ (.item ?_ .here)⟩
    · simp
    · simp
  have hplainTrip := literal_json_round_trips.2 plain hplain
  have hmixedTrip := literal_json_round_trips.2 mixed hmixed
  exact ⟨⟨hplain, hplainTrip.2⟩, hmixed, hmixedTrip.1.mpr hobject⟩

end DeclaredSchema
