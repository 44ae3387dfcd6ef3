import DeclaredSchema.Binary64
import Mathlib.Algebra.Group.Int.Defs
import Mathlib.Algebra.Group.Nat.Defs
import Mathlib.Tactic.Ring

/-! # Finite doubles

A quotient of naturals is rounded to a finite double below half a unit above the largest one. Every
integer of 64 bits is there, and so is a finite double divided by one that is not less than one.
-/

namespace DeclaredSchema.Binary64

/-- Half a unit above the largest finite double. -/
def overflowBound : Nat := (2 * (2 * hiddenBit) - 1) * 2 ^ 970

theorem two_mul_hiddenBit : 2 * hiddenBit = 2 ^ 53 := rfl

theorem isFinite_ofFields (negative : Bool) {exponent fraction : Nat} (he : exponent < 2047)
    (hf : fraction < hiddenBit) : (ofFields negative exponent fraction).isFinite = true := by
  obtain ⟨s, hs, hsign⟩ : ∃ s, (if negative then 2048 else 0 : Nat) = 2048 * s ∧ s ≤ 1 := by
    cases negative with
    | false => exact ⟨0, rfl, by decide⟩
    | true => exact ⟨1, rfl, by decide⟩
  have hbits : (ofFields negative exponent fraction).bits.toNat =
      (2048 * s + exponent) * hiddenBit + fraction := by
    simp only [ofFields, UInt64.toNat_ofNat', hs]
    rw [Nat.mod_eq_of_lt]
    simp only [hiddenBit] at *
    omega
  have hexponent : (ofFields negative exponent fraction).exponentField = exponent := by
    rw [exponentField, hbits, Nat.mul_comm, Nat.mul_add_div (by decide), Nat.div_eq_of_lt hf]
    omega
  rw [isFinite, hexponent]
  simpa using Nat.ne_of_lt he

/-! ## The scale of a quotient -/

theorem scaled_natCast (num den k : Nat) : scaled num den k = (num, den * 2 ^ k) := by
  rw [scaled, if_pos (Int.natCast_nonneg k)]
  rfl

theorem scaled_negSucc (num den k : Nat) :
    scaled num den (Int.negSucc k) = (num * 2 ^ (k + 1), den) := rfl

/-- Beyond the difference of the logarithms a quotient has at most 53 bits. -/
theorem scaled_lt {num den : Nat} (hden : den ≠ 0) {s : Int}
    (h : (num.log2 : Int) - den.log2 - 53 < s) :
    (scaled num den s).1 < 2 * hiddenBit * (scaled num den s).2 := by
  have hnum : num < 2 ^ (num.log2 + 1) := Nat.lt_log2_self
  have hlow : 2 ^ den.log2 ≤ den := Nat.log2_self_le hden
  rw [two_mul_hiddenBit]
  cases s with
  | ofNat k =>
      rw [Int.ofNat_eq_natCast] at h ⊢
      rw [scaled_natCast]
      calc num < 2 ^ (num.log2 + 1) := hnum
        _ ≤ 2 ^ (53 + (den.log2 + k)) := Nat.pow_le_pow_right (by decide) (by omega)
        _ = 2 ^ 53 * (2 ^ den.log2 * 2 ^ k) := by rw [Nat.pow_add, Nat.pow_add 2 den.log2]
        _ ≤ 2 ^ 53 * (den * 2 ^ k) := Nat.mul_le_mul_left _ (Nat.mul_le_mul_right _ hlow)
  | negSucc k =>
      rw [scaled_negSucc]
      calc num * 2 ^ (k + 1) < 2 ^ (num.log2 + 1) * 2 ^ (k + 1) :=
          Nat.mul_lt_mul_of_pos_right hnum (Nat.two_pow_pos _)
        _ = 2 ^ (num.log2 + 1 + (k + 1)) := (Nat.pow_add _ _ _).symm
        _ ≤ 2 ^ (53 + den.log2) := Nat.pow_le_pow_right (by decide) (by omega)
        _ = 2 ^ 53 * 2 ^ den.log2 := Nat.pow_add _ _ _
        _ ≤ 2 ^ 53 * den := Nat.mul_le_mul_left _ hlow

/-- The scale is the least one, or the guess, or one more where the guess leaves too many bits. -/
theorem scaleFor_cases (num den : Nat) :
    ∃ guess : Int, guess = (num.log2 : Int) - den.log2 - 53 ∧
      ((scaled num den guess).1 / (scaled num den guess).2 < 2 * hiddenBit ∧
          scaleFor num den = max (-1074) guess ∨
        2 * hiddenBit ≤ (scaled num den guess).1 / (scaled num den guess).2 ∧
          scaleFor num den = max (-1074) (guess + 1)) := by
  refine ⟨_, rfl, ?_⟩
  rw [scaleFor]
  by_cases h : (scaled num den ((num.log2 : Int) - den.log2 - 53)).1 /
      (scaled num den ((num.log2 : Int) - den.log2 - 53)).2 < 2 * hiddenBit
  · exact Or.inl ⟨h, congrArg (max (-1074)) (if_pos h)⟩
  · exact Or.inr ⟨Nat.le_of_not_lt h, congrArg (max (-1074)) (if_neg h)⟩

theorem div_scaleFor_lt (num : Nat) {den : Nat} (hden : den ≠ 0) :
    (scaled num den (scaleFor num den)).1 / (scaled num den (scaleFor num den)).2 <
      2 * hiddenBit := by
  have hbeyond (s : Int) (h : (num.log2 : Int) - den.log2 - 53 < s) :
      (scaled num den s).1 / (scaled num den s).2 < 2 * hiddenBit :=
    Nat.div_lt_of_lt_mul (Nat.mul_comm .. ▸ scaled_lt hden h)
  obtain ⟨guess, hguess, ⟨hfits, hscale⟩ | ⟨-, hscale⟩⟩ := scaleFor_cases num den
  · rw [hscale]
    by_cases hleast : guess < -1074
    · exact hbeyond _ (by omega)
    · rw [Int.max_eq_right (by omega)]
      exact hfits
  · exact hbeyond _ (by omega)

/-- Only a large quotient has a large scale. -/
theorem le_of_scaleFor {num den e : Nat} (hnum : num ≠ 0) (hden : den ≠ 0)
    (h : (e : Int) < scaleFor num den) : 2 ^ (53 + e) * den ≤ num := by
  obtain ⟨guess, hguess, ⟨-, hscale⟩ | ⟨hbits, hscale⟩⟩ := scaleFor_cases num den
  · have hlow : 2 ^ num.log2 ≤ num := Nat.log2_self_le hnum
    have hhigh : den < 2 ^ (den.log2 + 1) := Nat.lt_log2_self
    calc 2 ^ (53 + e) * den ≤ 2 ^ (53 + e) * 2 ^ (den.log2 + 1) :=
        Nat.mul_le_mul_left _ (Nat.le_of_lt hhigh)
      _ = 2 ^ (53 + e + (den.log2 + 1)) := by rw [← Nat.pow_add]
      _ ≤ 2 ^ num.log2 := Nat.pow_le_pow_right (by decide) (by omega)
      _ ≤ num := hlow
  · obtain ⟨k, rfl⟩ : ∃ k : Nat, guess = k := ⟨guess.toNat, by omega⟩
    rw [scaled_natCast, two_mul_hiddenBit] at hbits
    have hpos : 0 < den * 2 ^ k := Nat.mul_pos (Nat.pos_of_ne_zero hden) (Nat.two_pow_pos k)
    calc 2 ^ (53 + e) * den = 2 ^ 53 * (den * 2 ^ e) := by
          rw [Nat.pow_add, Nat.mul_assoc, Nat.mul_comm den]
      _ ≤ 2 ^ 53 * (den * 2 ^ k) :=
          Nat.mul_le_mul_left _ (Nat.mul_le_mul_left _ (Nat.pow_le_pow_right (by decide) (by omega)))
      _ ≤ num := (Nat.le_div_iff_mul_le hpos).mp hbits

theorem overflowBound_le : overflowBound ≤ 2 ^ (53 + 971) := by decide +kernel

/-- Below the bound the scale is one of a finite double. -/
theorem scaleFor_le {num den : Nat} (hnum : num ≠ 0) (hden : den ≠ 0)
    (h : num < overflowBound * den) : scaleFor num den ≤ 971 := by
  apply Int.le_of_not_gt
  intro hlarge
  have hbig := le_of_scaleFor (e := 971) hnum hden hlarge
  exact Nat.not_le_of_lt h (Nat.le_trans (Nat.mul_le_mul_right _ overflowBound_le) hbig)

theorem scaleFor_ge (num den : Nat) : -1074 ≤ scaleFor num den := by
  obtain ⟨guess, -, ⟨-, hscale⟩ | ⟨-, hscale⟩⟩ := scaleFor_cases num den <;> omega

/-! ## Rounding -/

theorem roundQuotient_le {num den bound : Nat} (h : num / den < bound) :
    roundQuotient num den ≤ bound := by
  simp only [roundQuotient]
  split <;> omega

/-- A quotient that is rounded up to a bound misses it by half a unit at most. -/
theorem le_of_roundQuotient {num den bound : Nat} (h : num / den < bound)
    (hround : roundQuotient num den = bound) : (2 * bound - 1) * den ≤ 2 * num := by
  have hdiv : den * (num / den) + num % den = num := Nat.div_add_mod num den
  have hup : den ≤ 2 * (num % den) ∧ bound = num / den + 1 := by
    simp only [roundQuotient, Bool.or_eq_true, decide_eq_true_eq, Bool.and_eq_true,
      beq_iff_eq] at hround
    split at hround <;> omega
  obtain ⟨hhalf, rfl⟩ := hup
  have hodd : 2 * (num / den + 1) - 1 = 2 * (num / den) + 1 := by omega
  calc (2 * (num / den + 1) - 1) * den = 2 * (den * (num / den)) + den := by
        rw [hodd, Nat.add_mul, Nat.one_mul, Nat.mul_assoc, Nat.mul_comm (num / den)]
    _ ≤ 2 * (den * (num / den)) + 2 * (num % den) := Nat.add_le_add_left hhalf _
    _ = 2 * num := by rw [← Nat.mul_add, hdiv]

/-- What misses a bound by more than half a unit is not rounded up to it. -/
theorem roundQuotient_ne {num den e bound : Nat} (h : num < (2 * bound - 1) * 2 ^ e * den)
    (hfits : num / (den * 2 ^ (e + 1)) < bound) :
    roundQuotient num (den * 2 ^ (e + 1)) ≠ bound := by
  intro hround
  have hhalf := le_of_roundQuotient hfits hround
  apply Nat.not_le_of_lt (Nat.mul_lt_mul_of_pos_left h (show 0 < 2 by decide))
  calc 2 * ((2 * bound - 1) * 2 ^ e * den) = (2 * bound - 1) * (den * 2 ^ (e + 1)) := by
        rw [Nat.pow_succ]
        generalize 2 * bound - 1 = halves
        ring
    _ ≤ 2 * num := hhalf

theorem ofRatio_eq (negative : Bool) {num den m : Nat} {s : Int} (hnum : num ≠ 0)
    (hs : scaleFor num den = s)
    (hm : roundQuotient (scaled num den s).1 (scaled num den s).2 = m) :
    ofRatio negative num den =
      if m < hiddenBit then ofFields negative 0 m
      else if m = 2 * hiddenBit then
        if s + 1 > 971 then infinity negative else ofFields negative (s + 1 + 1075).toNat 0
      else if s > 971 then infinity negative
      else ofFields negative (s + 1075).toNat (m - hiddenBit) := by
  subst hs hm
  rw [ofRatio, if_neg hnum]

theorem isFinite_ofRatio (negative : Bool) {num den : Nat} (hden : den ≠ 0)
    (h : num < overflowBound * den) : (ofRatio negative num den).isFinite = true := by
  by_cases hnum : num = 0
  · rw [ofRatio, if_pos hnum]
    exact isFinite_ofFields negative (by decide) (by decide)
  have hlow := scaleFor_ge num den
  have hhigh := scaleFor_le hnum hden h
  have hfits := div_scaleFor_lt num hden
  have hround := roundQuotient_le hfits
  obtain ⟨s, hs⟩ : ∃ s, scaleFor num den = s := ⟨_, rfl⟩
  rw [hs] at hlow hhigh hfits hround
  obtain ⟨m, hm⟩ : ∃ m, roundQuotient (scaled num den s).1 (scaled num den s).2 = m := ⟨_, rfl⟩
  have htop : m = 2 * hiddenBit → s ≠ 971 := by
    rintro rfl rfl
    rw [show (971 : Int) = (970 + 1 : Nat) from rfl, scaled_natCast] at hm hfits
    exact roundQuotient_ne (e := 970) h hfits hm
  rw [hm] at hround
  rw [ofRatio_eq negative hnum hs hm]
  split
  · next hsmall => exact isFinite_ofFields negative (by decide) hsmall
  · split
    · next heq =>
        have hne := htop heq
        rw [if_neg (by omega)]
        exact isFinite_ofFields negative (by omega) (by decide)
    · rw [if_neg (by omega)]
      exact isFinite_ofFields negative (by omega) (by omega)

/-! ## Finite arguments -/

theorem isFinite_ofInt {n : Int} (h : n.natAbs < 2 ^ 64) : (ofInt n).isFinite = true := by
  have hbound : 2 ^ 64 ≤ overflowBound := by decide +kernel
  apply isFinite_ofRatio _ (by decide)
  rw [Nat.mul_one]
  exact Nat.lt_of_lt_of_le h hbound

theorem isFinite_neg {x : Binary64} (h : x.isFinite = true) : x.neg.isFinite = true := by
  have hexponent : x.neg.exponentField = x.exponentField := by
    simp only [exponentField, neg, UInt64.toNat_xor, hiddenBit]
    rw [show 0x10000000000000 = 2 ^ 52 from rfl, show 2048 = 2 ^ 11 from rfl,
      Nat.xor_div_two_pow, Nat.xor_mod_two_pow]
    exact Nat.xor_zero _
  rw [isFinite, hexponent]
  exact h

theorem ratio_pos (x : Binary64) : 0 < x.ratio.2 := by
  rw [ratio]
  split
  · exact Nat.one_pos
  · exact Nat.two_pow_pos _

theorem significand_lt (x : Binary64) : x.significand < 2 * hiddenBit := by
  have hfraction : x.fraction < hiddenBit := Nat.mod_lt _ (by decide)
  rw [significand]
  split <;> omega

theorem scale_le {x : Binary64} (h : x.isFinite = true) : x.scale ≤ 971 := by
  have hfield : x.exponentField < 2048 := Nat.mod_lt _ (by decide)
  have hne : x.exponentField ≠ 2047 := by simpa [isFinite] using h
  rw [scale]
  split <;> omega

theorem mul_two_pow_lt {m bound k e : Nat} (hm : m < bound) (hk : k ≤ e + 1) :
    m * 2 ^ k < (2 * bound - 1) * 2 ^ e :=
  calc m * 2 ^ k ≤ m * 2 ^ (e + 1) :=
        Nat.mul_le_mul_left _ (Nat.pow_le_pow_right (by decide) hk)
    _ = 2 * m * 2 ^ e := by ring
    _ < (2 * bound - 1) * 2 ^ e := Nat.mul_lt_mul_of_pos_right (by omega) (Nat.two_pow_pos e)

/-- The magnitude of a finite double is below the bound. -/
theorem ratio_lt {x : Binary64} (h : x.isFinite = true) :
    x.ratio.1 < overflowBound * x.ratio.2 := by
  have hsignificand := significand_lt x
  have hscale := scale_le h
  rw [ratio]
  split
  · rw [Nat.mul_one]
    exact mul_two_pow_lt hsignificand (by omega)
  · have hwhole : x.significand * 2 ^ 0 < overflowBound :=
      mul_two_pow_lt hsignificand (Nat.zero_le _)
    rw [Nat.pow_zero, Nat.mul_one] at hwhole
    exact Nat.lt_of_lt_of_le hwhole (Nat.le_mul_of_pos_right _ (Nat.two_pow_pos _))

/-- Dividing by something that is not less than one keeps a double finite. -/
theorem isFinite_div {x y : Binary64} (hx : x.isFinite = true) (hy : y.ratio.2 ≤ y.ratio.1) :
    (x.div y).isFinite = true := by
  have hxpos := ratio_pos x
  have hypos := ratio_pos y
  have hden : x.ratio.2 * y.ratio.1 ≠ 0 :=
    Nat.ne_of_gt (Nat.mul_pos hxpos (Nat.lt_of_lt_of_le hypos hy))
  refine isFinite_ofRatio _ hden ?_
  calc x.ratio.1 * y.ratio.2 < overflowBound * x.ratio.2 * y.ratio.2 :=
        Nat.mul_lt_mul_of_pos_right (ratio_lt hx) hypos
    _ ≤ overflowBound * x.ratio.2 * y.ratio.1 := Nat.mul_le_mul_left _ hy
    _ = overflowBound * (x.ratio.2 * y.ratio.1) := Nat.mul_assoc _ _ _

end DeclaredSchema.Binary64
