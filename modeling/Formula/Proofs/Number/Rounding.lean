import Formula.Proofs.Number.Double

/-!
# Rounding to a double

Rounding shifts bits out of a mantissa and keeps track of what they were, as far as it decides whether to round up. So a
mantissa is divided by a power of two and the quotient rounded, a tie going to the even one; what is a double already
stays what it is.

- `Number.shiftRight_exact`: shifting is division, and what is kept track of is the remainder.
- `Number.roundedMantissa_shiftRight`: shifting and rounding is `Number.roundHalfEven`.
- `Number.roundWithAccuracy_of_lt`: the nearest double.
- `Number.roundWithAccuracy_exact`: a double is the nearest double to itself.
-/

namespace Formula.Number

open Float.Model (UnpackedFloat Format totalExponent)
open Float.Model.UnpackedFloat

/-! ## Shifting -/

theorem accuracyOfFraction_zero (den : Nat) : accuracyOfFraction 0 den = .exact := rfl

theorem accuracyOfFraction_pos {num : Nat} (h : num ≠ 0) (den : Nat) :
    accuracyOfFraction num den = .inexact (compare (2 * num) den) := if_neg h

/-- One more bit is shifted out. -/
theorem shiftRightOne_ofMantissaAndAccuracy (q : Nat) {r den : Nat} (h : r < den) :
    (ExtendedMantissa.ofMantissaAndAccuracy q (accuracyOfFraction r den)).shiftRightOne =
      .ofMantissaAndAccuracy (q / 2) (accuracyOfFraction (q % 2 * den + r) (2 * den)) := by
  have hbit : q % 2 = 0 ∨ q % 2 = 1 := Nat.mod_two_eq_zero_or_one q
  by_cases hr : r = 0
  · subst hr
    rcases hbit with hq | hq
    · simp [accuracyOfFraction, ExtendedMantissa.ofMantissaAndAccuracy, ExtendedMantissa.shiftRightOne, hq]
    · have hden : den ≠ 0 := by omega
      simp [accuracyOfFraction, ExtendedMantissa.ofMantissaAndAccuracy, ExtendedMantissa.shiftRightOne, hq, hden]
  · rcases hbit with hq | hq
    · have hlt : compare (2 * r) (2 * den) = .lt := by rw [Nat.compare_eq_lt]; omega
      rw [hq, Nat.zero_mul, Nat.zero_add, accuracyOfFraction_pos hr, accuracyOfFraction_pos hr, hlt]
      cases compare (2 * r) den <;>
        simp [ExtendedMantissa.ofMantissaAndAccuracy, ExtendedMantissa.shiftRightOne, hq]
    · have hgt : compare (2 * (1 * den + r)) (2 * den) = .gt := by rw [Nat.compare_eq_gt]; omega
      rw [hq, accuracyOfFraction_pos hr, accuracyOfFraction_pos (by omega), hgt]
      cases compare (2 * r) den <;>
        simp [ExtendedMantissa.ofMantissaAndAccuracy, ExtendedMantissa.shiftRightOne, hq]

/-- Shifting is division, and what is kept track of is the remainder. -/
theorem shiftRight_exact (m n : Nat) : ExtendedMantissa.ofMantissaAndAccuracy m .exact >>> n =
    .ofMantissaAndAccuracy (m / 2 ^ n) (accuracyOfFraction (m % 2 ^ n) (2 ^ n)) := by
  induction n with
  | zero =>
    rw [Nat.pow_zero, Nat.div_one, Nat.mod_one]
    rfl
  | succ n ih =>
    have hstep : ExtendedMantissa.ofMantissaAndAccuracy m .exact >>> (n + 1) =
        (ExtendedMantissa.ofMantissaAndAccuracy m .exact >>> n).shiftRightOne := rfl
    have hmod : m / 2 ^ n % 2 * 2 ^ n + m % 2 ^ n = m % 2 ^ (n + 1) := by
      rw [Nat.pow_succ, Nat.mod_mul, Nat.mul_comm, Nat.add_comm]
    rw [hstep, ih, shiftRightOne_ofMantissaAndAccuracy _ (Nat.mod_lt _ (Nat.two_pow_pos n)), hmod,
      Nat.div_div_eq_div_mul, Nat.pow_succ, Nat.mul_comm 2]

theorem accuracy_ofMantissaAndAccuracy (m : Nat) (a : Accuracy) :
    (ExtendedMantissa.ofMantissaAndAccuracy m a).roundedMantissa = a.roundToNearestEven m := by
  cases a with
  | exact => rfl
  | inexact o => cases o <;> rfl

theorem mantissa_ofMantissaAndAccuracy (m : Nat) (a : Accuracy) :
    (ExtendedMantissa.ofMantissaAndAccuracy m a).mantissa = m := by
  cases a with
  | exact => rfl
  | inexact o => cases o <;> rfl

/-- Shifting and rounding is division with rounding, a tie going to the even quotient. -/
theorem roundedMantissa_shiftRight (m n : Nat) :
    (ExtendedMantissa.ofMantissaAndAccuracy m .exact >>> n).roundedMantissa = roundHalfEven m (2 ^ n) := by
  rw [shiftRight_exact, accuracy_ofMantissaAndAccuracy]
  unfold roundHalfEven
  by_cases hr : m % 2 ^ n = 0
  · have hlt : compare (2 * (m % 2 ^ n)) (2 ^ n) = .lt := by
      rw [Nat.compare_eq_lt, hr]
      exact Nat.two_pow_pos n
    rw [hlt, hr, accuracyOfFraction_zero]
    rfl
  · rw [accuracyOfFraction_pos hr]
    cases compare (2 * (m % 2 ^ n)) (2 ^ n) <;> rfl

/-! ## Quotients -/

/-- A quotient without a remainder is not rounded. -/
theorem roundHalfEven_mul (q : Nat) {den : Nat} (h : 0 < den) : roundHalfEven (q * den) den = q := by
  have hlt : compare (2 * (q * den % den)) den = .lt := by
    rw [Nat.compare_eq_lt, Nat.mul_mod_left]
    exact h
  unfold roundHalfEven
  rw [hlt]
  exact Nat.mul_div_cancel q h

/-- A rounded quotient is the quotient or one more. -/
theorem roundHalfEven_bounds (num den : Nat) :
    num / den ≤ roundHalfEven num den ∧ roundHalfEven num den ≤ num / den + 1 := by
  unfold roundHalfEven
  dsimp only
  split <;> omega

/-! ## Doubles -/

/-- The exponent of the double nearest to `m · 2 ^ e`, unless it is rounded up to a power of two. -/
def doubleExponent (m : Nat) (e : Int) : Int := max (m.log2 + e - 52) (-1074)

theorem targetExponent_max (t : Int) : Format.binary64.targetExponent t = max (t - 53) (-1074) := rfl

theorem targetExponent_eq (m : Nat) (e : Int) :
    Format.binary64.targetExponent (totalExponent m e) = doubleExponent m e := by
  rw [targetExponent_max, totalExponent, doubleExponent]
  congr 1
  omega

theorem doubleExponent_mul_two_pow {m : Nat} (hm : 0 < m) (e : Int) (n : Nat) :
    doubleExponent (m * 2 ^ n) (e - n) = doubleExponent m e := by
  have hlog : (m * 2 ^ n).log2 = m.log2 + n := by
    rw [Nat.log2_eq_iff (Nat.ne_of_gt (Nat.mul_pos hm (Nat.two_pow_pos n))), Nat.pow_add, Nat.add_right_comm,
      Nat.pow_add]
    exact ⟨Nat.mul_le_mul_right _ (Nat.log2_self_le (Nat.ne_of_gt hm)),
      Nat.mul_lt_mul_of_pos_right Nat.lt_log2_self (Nat.two_pow_pos n)⟩
  unfold doubleExponent
  omega

theorem IsDouble.doubleExponent {m : Nat} {e : Int} (h : IsDouble m e) : doubleExponent m e = e := by
  have hlt : m.log2 < 53 := (Nat.log2_lt (Nat.ne_of_gt h.pos)).mpr h.lt
  have hlow := h.low
  unfold Number.doubleExponent
  rcases h.leading with hm | rfl
  · have hle : 52 ≤ m.log2 := (Nat.le_log2 (Nat.ne_of_gt h.pos)).mpr hm
    omega
  · omega

theorem doubleExponent_low (m : Nat) (e : Int) : -1074 ≤ doubleExponent m e := Int.le_max_right _ _

/-- A mantissa of 53 bits need not be shifted. -/
theorem doubleExponent_le {m : Nat} {e : Int} (hm : 0 < m) (hlt : m < 2 ^ 53) (he : -1074 ≤ e) :
    doubleExponent m e ≤ e := by
  have hlog : m.log2 < 53 := (Nat.log2_lt (Nat.ne_of_gt hm)).mpr hlt
  unfold doubleExponent
  omega

section Round

variable {m : Nat} {e : Int}

/-- A mantissa is shifted to the exponent of a double. -/
theorem shiftToTargetExponent_eq (m : Nat) (e : Int) : shiftToTargetExponent .binary64 m e .exact =
    (ExtendedMantissa.ofMantissaAndAccuracy m .exact >>> (doubleExponent m e - e).toNat,
      e + ((doubleExponent m e - e).toNat : Int)) := by
  unfold shiftToTargetExponent shiftToExponent
  rw [targetExponent_eq]

/-- The rounded quotient may have to be shifted once more. -/
theorem roundWithAccuracy_eq (s : Sign) (he : e ≤ doubleExponent m e) {q : Nat}
    (hq : roundHalfEven m (2 ^ (doubleExponent m e - e).toNat) = q) {n : Nat}
    (hn : (doubleExponent q (doubleExponent m e) - doubleExponent m e).toNat = n) (hpos : 0 < q / 2 ^ n) :
    roundWithAccuracy .binary64 s m e .exact = .finite s (q / 2 ^ n) (doubleExponent m e + n) hpos := by
  have hexponent : e + ((doubleExponent m e - e).toNat : Int) = doubleExponent m e := by omega
  unfold roundWithAccuracy
  simp only [shiftToTargetExponent_eq, roundedMantissa_shiftRight, hq, hexponent, hn]
  have hmantissa : (ExtendedMantissa.ofMantissaAndAccuracy q .exact >>> n).mantissa = q / 2 ^ n := by
    rw [shiftRight_exact, mantissa_ofMantissaAndAccuracy]
  simp only [hmantissa]
  rw [dif_neg (Nat.ne_of_gt hpos)]

/-- The double nearest to `m · 2 ^ e`, -/
theorem roundWithAccuracy_of_lt (s : Sign) (he : e ≤ doubleExponent m e) {q : Nat}
    (hq : roundHalfEven m (2 ^ (doubleExponent m e - e).toNat) = q) (hpos : 0 < q) (hlt : q < 2 ^ 53) :
    roundWithAccuracy .binary64 s m e .exact = .finite s q (doubleExponent m e) hpos := by
  have hle := doubleExponent_le hpos hlt (doubleExponent_low m e)
  have hdiv : q / 2 ^ 0 = q := Nat.div_one q
  rw [roundWithAccuracy_eq s he hq (n := 0) (by omega) (hdiv.symm ▸ hpos)]
  exact finite_congr hdiv (Int.add_zero _) _ _

/-- and where it is rounded up to a power of two. -/
theorem roundWithAccuracy_of_eq (s : Sign) (he : e ≤ doubleExponent m e)
    (hq : roundHalfEven m (2 ^ (doubleExponent m e - e).toNat) = 2 ^ 53) :
    roundWithAccuracy .binary64 s m e .exact = .finite s (2 ^ 52) (doubleExponent m e + 1) (by decide) := by
  have hlow := doubleExponent_low m e
  have hshift : (doubleExponent (2 ^ 53) (doubleExponent m e) - doubleExponent m e).toNat = 1 := by
    have hlog : (2 ^ 53).log2 = 53 := Nat.log2_two_pow
    rw [doubleExponent, hlog]
    omega
  exact roundWithAccuracy_eq s he hq hshift (by decide)

/-- A double is the nearest double to itself. -/
theorem roundWithAccuracy_exact (s : Sign) (h : IsDouble m e) (n : Nat) :
    roundWithAccuracy .binary64 s (m * 2 ^ n) (e - n) .exact = .finite s m e h.pos := by
  have hexponent : doubleExponent (m * 2 ^ n) (e - n) = e :=
    (doubleExponent_mul_two_pow h.pos e n).trans h.doubleExponent
  have hq : roundHalfEven (m * 2 ^ n) (2 ^ (doubleExponent (m * 2 ^ n) (e - n) - (e - n)).toNat) = m := by
    have hshift : (doubleExponent (m * 2 ^ n) (e - n) - (e - n)).toNat = n := by omega
    rw [hshift]
    exact roundHalfEven_mul m (Nat.two_pow_pos n)
  rw [roundWithAccuracy_of_lt s (by omega) hq h.pos h.lt]
  exact finite_congr rfl hexponent _ _

end Round

end Formula.Number
