import DeclaredSchema.Json.Reader
import DeclaredSchema.Proofs.Schema.LiteralJson

/-! # Documents read from a text

Every number of a document that is read from a text fits: an integer has been cut to a 64-bit word,
and a double stays finite in each step of its scaling or the text is refused. What is known of one
item holds of all items between brackets and of all fields between braces.
-/

namespace DeclaredSchema.Json

open Text (Reader)

/-! ## Doubles -/

theorem ratio_powerOfTen {n : Nat} (h : n ≤ 308) :
    (powerOfTen n).ratio.2 ≤ (powerOfTen n).ratio.1 := by
  have hall : ((List.range 309).all fun k =>
      decide ((powerOfTen k).ratio.2 ≤ (powerOfTen k).ratio.1)) = true := by decide +kernel
  exact of_decide_eq_true (List.all_eq_true.mp hall n (List.mem_range.mpr (by omega)))

theorem isFinite_scaleByTen {steps : Nat} {x y : Binary64} {exponent : Int}
    (hx : x.isFinite = true) (h : scaleByTen steps x exponent = some y) : y.isFinite = true := by
  induction steps generalizing x exponent with
  | zero =>
      obtain rfl := Option.some.inj h
      exact hx
  | succ steps ih =>
      rw [scaleByTen] at h
      split at h
      · next hnear =>
          split at h
          · simp only at h
            split at h
            · next hfinite =>
                obtain rfl := Option.some.inj h
                exact hfinite
            · cases h
          · obtain rfl := Option.some.inj h
            exact Binary64.isFinite_div hx (ratio_powerOfTen hnear)
      · split at h
        · obtain rfl := Option.some.inj h
          exact hx
        · split at h
          · cases h
          · exact ih (Binary64.isFinite_div hx (ratio_powerOfTen (Nat.le_refl _))) h

theorem numbersFit_doubleOfParts {negative : Bool} {digits : Nat} {exponent : Int} {j : Json}
    (hd : digits ≤ 0xffffffffffffffff) (h : doubleOfParts negative digits exponent = some j) :
    j.NumbersFit := by
  obtain ⟨x, hscaled, rfl⟩ := Option.map_eq_some_iff.mp h
  have hx := isFinite_scaleByTen (Binary64.isFinite_ofInt (by omega)) hscaled
  rw [NumbersFit]
  cases negative with
  | false => exact hx
  | true => exact Binary64.isFinite_neg hx

theorem numbersFit_zero (negative : Bool) : (Json.float (Binary64.zero negative)).NumbersFit := by
  rw [NumbersFit]
  exact Binary64.isFinite_ofFields negative (by decide) (by decide)

theorem numbersFit_finishDouble {negative : Bool} {digits : Nat} {shift : Int} {cs rest : List Char}
    {j : Json} (hd : digits ≤ 0xffffffffffffffff)
    (h : finishDouble negative digits shift cs = some (j, rest)) : j.NumbersFit := by
  rw [finishDouble.eq_def] at h
  simp only [Option.bind_eq_bind] at h
  split at h
  · split at h
    · obtain ⟨⟨e, after⟩, -, h⟩ := Option.bind_eq_some_iff.mp h
      simp only at h
      split at h
      · split at h
        · cases h
          exact numbersFit_zero negative
        · cases h
      · obtain ⟨value, hvalue, h⟩ := Option.bind_eq_some_iff.mp h
        cases h
        exact numbersFit_doubleOfParts hd hvalue
    · obtain ⟨value, hvalue, h⟩ := Option.bind_eq_some_iff.mp h
      cases h
      exact numbersFit_doubleOfParts hd hvalue
  · obtain ⟨value, hvalue, h⟩ := Option.bind_eq_some_iff.mp h
    cases h
    exact numbersFit_doubleOfParts hd hvalue

/-! ## Numbers -/

theorem takeDigits_le {n : Nat} (hn : n ≤ 0xffffffffffffffff) (ds : List Char) :
    (takeDigits n ds).1 ≤ 0xffffffffffffffff := by
  induction ds generalizing n with
  | nil => exact hn
  | cons d rest ih =>
      simp only [takeDigits]
      split
      · next hfits => exact ih hfits
      · exact hn

theorem numbersFit_wordNumber {n : Nat} (negative : Bool) (hn : n ≤ 0xffffffffffffffff) :
    (wordNumber negative n).NumbersFit := by
  rw [wordNumber]
  split
  · rw [NumbersFit]
    omega
  · split
    · rw [NumbersFit]
      exact Binary64.isFinite_neg (Binary64.isFinite_ofInt (by omega))
    · next hword =>
        simp only [Bool.or_eq_true, decide_eq_true_eq, not_or, Nat.not_lt] at hword
        rw [NumbersFit]
        omega

theorem numbersFit_readNumber {negative : Bool} {cs rest : List Char} {j : Json}
    (h : readNumber negative cs = some (j, rest)) : j.NumbersFit := by
  have hwhole := takeDigits_le (Nat.zero_le _) (cs.takeWhile Text.isAsciiDigit)
  simp only [readNumber] at h
  split at h
  · cases h
  · split at h
    · next more _ =>
        have hpart := takeDigits_le hwhole (more.takeWhile Text.isAsciiDigit)
        split at h
        · cases h
        · exact numbersFit_finishDouble hpart h
    · split at h
      · exact numbersFit_finishDouble hwhole h
      · cases h
        exact numbersFit_wordNumber negative hwhole
    · split at h
      · cases h
        exact numbersFit_wordNumber negative hwhole
      · exact numbersFit_finishDouble hwhole h

/-! ## Values -/

/-- All that a reader takes off a text has numbers that fit. -/
def FitReader (item : Reader Json) : Prop :=
  ∀ cs j rest, item cs = some (j, rest) → j.NumbersFit

theorem fitReader_readWord {value : Json} (word : List Char) (hvalue : value.NumbersFit) :
    FitReader (readWord word value) := by
  intro cs j rest h
  rw [readWord] at h
  split at h
  · cases h
    exact hvalue
  · cases h

theorem fitReader_readScalar : FitReader readScalar := by
  intro cs j rest h
  rw [readScalar.eq_def] at h
  simp only at h
  split at h
  · obtain ⟨⟨s, after⟩, -, heq⟩ := Option.map_eq_some_iff.mp h
    cases heq
    simp only [NumbersFit]
  · exact numbersFit_readNumber h
  · exact fitReader_readWord _ (by simp only [NumbersFit]) _ _ _ h
  · exact fitReader_readWord _ (by simp only [NumbersFit]) _ _ _ h
  · exact fitReader_readWord _ (by simp only [NumbersFit]) _ _ _ h
  · exact numbersFit_readNumber h

section Parts

variable {item : Reader Json} (hitem : FitReader item)
include hitem

theorem allNumbersFit_readItemsFuel {fuel : Nat} {cs rest : List Char} {items : List Json}
    (h : readItemsFuel item fuel cs = some (items, rest)) : AllNumbersFit items := by
  induction fuel generalizing cs items with
  | zero => cases h
  | succ fuel ih =>
      simp only [readItemsFuel, Option.bind_eq_bind] at h
      obtain ⟨⟨value, after⟩, hvalue, h⟩ := Option.bind_eq_some_iff.mp h
      simp only at h
      split at h
      · obtain ⟨⟨values, last⟩, hvalues, h⟩ := Option.bind_eq_some_iff.mp h
        cases h
        exact ⟨hitem _ _ _ hvalue, ih hvalues⟩
      · cases h
        exact ⟨hitem _ _ _ hvalue, trivial⟩
      · cases h

theorem allNumbersFit_readItems {cs rest : List Char} {items : List Json}
    (h : readItems item cs = some (items, rest)) : AllNumbersFit items := by
  rw [readItems] at h
  split at h
  · cases h
    trivial
  · exact allNumbersFit_readItemsFuel hitem h

theorem fieldNumbersFit_readFieldsFuel {fuel : Nat} {cs rest : List Char}
    {fields : List (String × Json)} (h : readFieldsFuel item fuel cs = some (fields, rest)) :
    FieldNumbersFit fields := by
  induction fuel generalizing cs fields with
  | zero => cases h
  | succ fuel ih =>
      simp only [readFieldsFuel, Option.bind_eq_bind] at h
      split at h
      · obtain ⟨⟨name, after⟩, -, h⟩ := Option.bind_eq_some_iff.mp h
        simp only at h
        split at h
        · obtain ⟨⟨value, behind⟩, hvalue, h⟩ := Option.bind_eq_some_iff.mp h
          simp only at h
          split at h
          · obtain ⟨⟨others, last⟩, hothers, h⟩ := Option.bind_eq_some_iff.mp h
            cases h
            exact ⟨hitem _ _ _ hvalue, ih hothers⟩
          · cases h
            exact ⟨hitem _ _ _ hvalue, trivial⟩
          · cases h
        · cases h
      · cases h

theorem fieldNumbersFit_readFields {cs rest : List Char} {fields : List (String × Json)}
    (h : readFields item cs = some (fields, rest)) : FieldNumbersFit fields := by
  rw [readFields] at h
  split at h
  · cases h
    trivial
  · exact fieldNumbersFit_readFieldsFuel hitem h

end Parts

theorem fieldNumbersFit_setField {name : String} {value : Json} {fields : List (String × Json)}
    (hvalue : value.NumbersFit) (h : FieldNumbersFit fields) :
    FieldNumbersFit (setField name value fields) := by
  induction fields with
  | nil => exact ⟨hvalue, trivial⟩
  | cons f rest ih =>
      rw [FieldNumbersFit] at h
      rw [setField]
      split
      · exact ⟨hvalue, h.2⟩
      · split
        · exact ⟨hvalue, h⟩
        · exact ⟨h.1, ih h.2⟩

theorem numbersFit_ofFields {fields : List (String × Json)} (h : FieldNumbersFit fields) :
    (ofFields fields).NumbersFit := by
  have hfold (acc : List (String × Json)) (hacc : FieldNumbersFit acc) :
      FieldNumbersFit (fields.foldl (fun acc f => setField f.1 f.2 acc) acc) := by
    induction fields generalizing acc with
    | nil => exact hacc
    | cons f rest ih =>
        rw [FieldNumbersFit] at h
        exact ih h.2 _ (fieldNumbersFit_setField h.1 hacc)
  exact hfold [] trivial

theorem fitReader_readValue (depth : Nat) : FitReader (readValue depth) := by
  induction depth with
  | zero => exact fitReader_readScalar
  | succ depth ih =>
      intro cs j rest h
      rw [readValue.eq_def] at h
      simp only at h
      split at h
      · obtain ⟨⟨items, after⟩, hitems, heq⟩ := Option.map_eq_some_iff.mp h
        cases heq
        exact allNumbersFit_readItems ih hitems
      · obtain ⟨⟨fields, after⟩, hfields, heq⟩ := Option.map_eq_some_iff.mp h
        cases heq
        exact numbersFit_ofFields (fieldNumbersFit_readFields ih hfields)
      · exact fitReader_readScalar _ _ _ h

/-- Every number of a document that is read from a text fits. -/
theorem numbersFit_of_ofText? {text : String} {j : Json} (h : ofText? text = some j) :
    j.NumbersFit := by
  rw [ofText?] at h
  split at h
  · next value rest hvalue =>
      split at h
      · obtain rfl := Option.some.inj h
        exact fitReader_readValue _ _ _ _ hvalue
      · cases h
  · cases h

end DeclaredSchema.Json
