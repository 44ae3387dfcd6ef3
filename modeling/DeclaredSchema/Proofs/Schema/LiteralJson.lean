import DeclaredSchema.Store.Snapshot
import DeclaredSchema.Proofs.Schema.FiniteDouble

/-! # Literals that come from JSON

A JSON text holds integers of 64 bits, signed or not, and finite doubles. A literal that was read
from such a document is read again from what it is written as, so a value that a store sends can be
sent back without a change.
-/

namespace DeclaredSchema

/-! ## Documents -/

mutual

/-- Integers of a document have 64 bits, signed or not, and its doubles are finite. -/
def Json.NumbersFit : Json → Prop
  | .int n => -2 ^ 63 ≤ n ∧ n < 2 ^ 64
  | .float x => x.isFinite = true
  | .arr items => Json.AllNumbersFit items
  | .obj fields => Json.FieldNumbersFit fields
  | _ => True

def Json.AllNumbersFit : List Json → Prop
  | [] => True
  | v :: rest => v.NumbersFit ∧ Json.AllNumbersFit rest

def Json.FieldNumbersFit : List (String × Json) → Prop
  | [] => True
  | (_, v) :: rest => v.NumbersFit ∧ Json.FieldNumbersFit rest

end

namespace Json

theorem numbersFit_of_mem {items : List Json} (h : AllNumbersFit items) {v : Json}
    (hv : v ∈ items) : v.NumbersFit := by
  induction items with
  | nil => simp at hv
  | cons w rest ih =>
      rw [AllNumbersFit] at h
      rcases List.mem_cons.mp hv with rfl | hv
      · exact h.1
      · exact ih h.2 hv

theorem NumbersFit.field? {j v : Json} {name : String} (h : j.NumbersFit)
    (hv : j.field? name = some v) : v.NumbersFit := by
  cases j with
  | obj fields =>
      rw [NumbersFit] at h
      rw [Json.field?] at hv
      induction fields with
      | nil => simp at hv
      | cons f rest ih =>
          rw [FieldNumbersFit] at h
          rw [List.lookup_cons] at hv
          split at hv
          · obtain rfl := Option.some.inj hv
            exact h.1
          · exact ih h.2 hv
  | _ => cases hv

theorem NumbersFit.arr? {j : Json} {items : List Json} (h : j.NumbersFit)
    (hj : j.arr? = some items) : AllNumbersFit items := by
  cases j with
  | arr xs =>
      obtain rfl := Option.some.inj hj
      rwa [NumbersFit] at h
  | _ => cases hj

end Json

/-! ## Reading a literal again -/

namespace Literal

theorem int64?_toInt (i : Int64) : int64? i.toInt = some i := by
  have low := i.le_toInt
  have high := i.toInt_lt
  rw [int64?, if_pos (by omega), Int64.ofInt_toInt]

theorem ofJson?_ofBinary64 {x : Binary64} (h : x.isFinite = true) :
    ofJson? (.ofBinary64 x) = some (.float x) := by
  rw [Json.ofBinary64, if_pos h, ofJson?]

mutual

/-- A literal of a document is read again from what it is written as. -/
theorem ofJson?_toJson_of_ofJson? {v : Json} {l : Literal} (hv : v.NumbersFit)
    (h : ofJson? v = some l) : ofJson? l.toJson = some l := by
  cases v with
  | int n =>
      rw [Json.NumbersFit] at hv
      rw [ofJson?] at h
      split at h
      · obtain rfl := Option.some.inj h
        rw [toJson, ofJson?, int64?_toInt]
      · next hout =>
          obtain rfl := Option.some.inj h
          have hlarge : 2 ^ 63 ≤ n := by
            simp only [int64?, ite_eq_right_iff, reduceCtorEq, imp_false] at hout
            omega
          exact ofJson?_ofBinary64 (Binary64.isFinite_ofInt (by omega))
  | float x =>
      obtain rfl := Option.some.inj h
      rw [Json.NumbersFit] at hv
      exact ofJson?_ofBinary64 hv
  | arr items =>
      rw [Json.NumbersFit] at hv
      rw [ofJson?] at h
      obtain ⟨ls, hls, rfl⟩ := Option.map_eq_some_iff.mp h
      rw [toJson, ofJson?, ofJsons?_toJsons_of_ofJsons? hv hls]
      rfl
  | obj fields => cases h
  | _ =>
      obtain rfl := Option.some.inj h
      rfl

theorem ofJsons?_toJsons_of_ofJsons? {vs : List Json} {ls : List Literal}
    (hv : Json.AllNumbersFit vs) (h : ofJsons? vs = some ls) : ofJsons? (toJsons ls) = some ls := by
  cases vs with
  | nil =>
      obtain rfl := Option.some.inj h
      rfl
  | cons v rest =>
      rw [Json.AllNumbersFit] at hv
      rw [ofJsons?] at h
      cases hl : ofJson? v with
      | none =>
          rw [hl] at h
          cases h
      | some l =>
          rw [hl] at h
          obtain ⟨others, hothers, rfl⟩ := Option.map_eq_some_iff.mp h
          rw [toJsons, ofJsons?, ofJson?_toJson_of_ofJson? hv.1 hl,
            ofJsons?_toJsons_of_ofJsons? hv.2 hothers]
          rfl

end

/-! ## Writing a literal -/

mutual

/-- What is left of a literal when it is written: null stands for every double that JSON has no
number for. -/
def written : Literal → Literal
  | .float x => if x.isFinite then .float x else .null
  | .list items => .list (writtenAll items)
  | l => l

def writtenAll : List Literal → List Literal
  | [] => []
  | l :: rest => written l :: writtenAll rest

end

mutual

/-- The doubles in the literal are finite. -/
def Finite : Literal → Prop
  | .float x => x.isFinite = true
  | .list items => AllFinite items
  | _ => True

def AllFinite : List Literal → Prop
  | [] => True
  | l :: rest => l.Finite ∧ AllFinite rest

end

mutual

/-- What is written is read as what is left. -/
theorem ofJson?_toJson (l : Literal) : ofJson? l.toJson = some l.written := by
  cases l with
  | int i =>
      rw [toJson, ofJson?, int64?_toInt]
      rfl
  | float x =>
      rw [toJson, Json.ofBinary64, written]
      split <;> rfl
  | list items =>
      rw [toJson, ofJson?, ofJsons?_toJsons, written]
      rfl
  | _ => rfl

theorem ofJsons?_toJsons (ls : List Literal) : ofJsons? (toJsons ls) = some (writtenAll ls) := by
  cases ls with
  | nil => rfl
  | cons l rest =>
      rw [toJsons, ofJsons?, ofJson?_toJson l, ofJsons?_toJsons rest, writtenAll]
      rfl

end

mutual

theorem Finite.written_eq {l : Literal} (h : l.Finite) : l.written = l := by
  cases l with
  | float x =>
      rw [Finite] at h
      rw [written, if_pos h]
  | list items =>
      rw [Finite] at h
      rw [written, AllFinite.writtenAll_eq h]
  | _ => rfl

theorem AllFinite.writtenAll_eq {ls : List Literal} (h : AllFinite ls) : writtenAll ls = ls := by
  cases ls with
  | nil => rfl
  | cons l rest =>
      rw [AllFinite] at h
      rw [writtenAll, h.1.written_eq, AllFinite.writtenAll_eq h.2]

end

theorem Finite.writesBack {l : Literal} (h : l.Finite) : ofJson? l.toJson = some l := by
  rw [ofJson?_toJson, h.written_eq]

end Literal

end DeclaredSchema
