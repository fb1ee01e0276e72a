import Formula.Number.Whole
import Formula.Proofs.Number.Alike
import Formula.Proofs.Number.Rounding

/-!
# The exact values of doubles

A finite double stands for a rational number. Comparison, wholeness and conversions are about these numbers.

- `Number.value?`: the exact value of a finite double.
- `Number.lt_iff_of_value`, `Number.le_iff_of_value`: doubles are ordered like their values.
- `Number.isWhole_iff`: wholeness.
- `Number.toNat_toUInt64`: conversion to a count, which stays in the range of counts.
- `Number.value?_toFloat`: conversion of a count, rounded to 53 bits.
-/

namespace Formula.Number

open Float.Model (UnpackedFloat)
open Float.Model.UnpackedFloat

/-- The exact value of a finite double. -/
def value? (x : Float) : Option ℚ :=
  match view x with
  | .notANumber => none
  | .infinity _ => none
  | .zero _ => some 0
  | .finite s m e _ => some ((s.apply m : Int) * 2 ^ e)

section Equations

variable {x : Float} {s : Sign} {m : Nat} {e : Int} {h : 0 < m}

theorem value?_of_zero (hx : view x = .zero s) : value? x = some 0 := by rw [value?, hx]

theorem value?_of_finite (hx : view x = .finite s m e h) : value? x = some ((s.apply m : Int) * 2 ^ e : ℚ) := by
  rw [value?, hx]

/-- What has a value is zero or another finite double. -/
theorem view_of_value {a : ℚ} (ha : value? x = some a) :
    (a = 0 ∧ ∃ s, view x = .zero s) ∨
      ∃ s m e h, IsDouble m e ∧ view x = .finite s m e h ∧ a = (s.apply m : Int) * 2 ^ e := by
  unfold value? at ha
  cases hx : view x with
  | notANumber | infinity s =>
    rw [hx] at ha
    cases ha
  | zero s =>
    rw [hx] at ha
    exact .inl ⟨(Option.some.inj ha).symm, s, rfl⟩
  | finite s m e h =>
    rw [hx] at ha
    exact .inr ⟨s, m, e, h, isDouble_of_view hx, rfl, (Option.some.inj ha).symm⟩

end Equations

/-! ## Order -/

section Order

variable {m m' : Nat} {e e' : Int}

theorem pos_of_pos (h : 0 < m) (e : Int) : (0 : ℚ) < m * 2 ^ e :=
  mul_pos (Nat.cast_pos.mpr h) (zpow_pos two_pos e)

/-- Of two doubles, that with the greater exponent is greater. -/
theorem lt_of_exponent_lt (h : IsDouble m e) (h' : IsDouble m' e') (he : e < e') :
    (m * 2 ^ e : ℚ) < m' * 2 ^ e' := by
  have hlow := h.low
  have hm : m < 2 * m' := by
    have hlt := h.lt
    have hleading := h'.leading.resolve_right (by omega)
    omega
  calc (m * 2 ^ e : ℚ) < (2 * m' : ℕ) * 2 ^ e := by
        exact mul_lt_mul_of_pos_right (Nat.cast_lt.mpr hm) (zpow_pos two_pos e)
    _ = m' * 2 ^ (e + 1) := by
        rw [zpow_add_one₀ two_ne_zero, Nat.cast_mul, Nat.cast_ofNat]
        ring
    _ ≤ m' * 2 ^ e' := by
        exact mul_le_mul_of_nonneg_left (zpow_le_zpow_right₀ one_le_two he) (Nat.cast_nonneg m')

/-- Positive doubles are ordered by exponent and mantissa. -/
theorem compare_finite (h : IsDouble m e) (h' : IsDouble m' e') :
    (compare e e').then (compare m m') = compare (m * 2 ^ e : ℚ) (m' * 2 ^ e') := by
  rcases lt_trichotomy e e' with he | rfl | he
  · rw [compare_lt_iff_lt.mpr he, compare_lt_iff_lt.mpr (lt_of_exponent_lt h h' he)]
    rfl
  · rw [compare_eq_iff_eq.mpr rfl, Ordering.eq_then]
    have hpos : (0 : ℚ) < 2 ^ e := zpow_pos two_pos e
    rcases lt_trichotomy m m' with hm | rfl | hm
    · rw [compare_lt_iff_lt.mpr hm, compare_lt_iff_lt.mpr (mul_lt_mul_of_pos_right (Nat.cast_lt.mpr hm) hpos)]
    · rw [compare_eq_iff_eq.mpr rfl, compare_eq_iff_eq.mpr rfl]
    · rw [compare_gt_iff_gt.mpr hm, compare_gt_iff_gt.mpr (mul_lt_mul_of_pos_right (Nat.cast_lt.mpr hm) hpos)]
  · rw [compare_gt_iff_gt.mpr he, compare_gt_iff_gt.mpr (lt_of_exponent_lt h' h he)]
    rfl

end Order

section Values

variable {x y : Float} {a b : ℚ}

theorem apply_positive (m : Nat) (e : Int) : ((Sign.positive.apply m : Int) * 2 ^ e : ℚ) = m * 2 ^ e := by
  rw [Sign.apply, Int.cast_natCast]

theorem apply_negative (m : Nat) (e : Int) : ((Sign.negative.apply m : Int) * 2 ^ e : ℚ) = -(m * 2 ^ e) := by
  rw [Sign.apply, Int.cast_neg, Int.cast_natCast, neg_mul]

theorem compare_neg_neg (a b : ℚ) : compare (-a) (-b) = (compare a b).swap := by
  rcases lt_trichotomy a b with h | rfl | h
  · rw [compare_lt_iff_lt.mpr h, compare_gt_iff_gt.mpr (neg_lt_neg h), Ordering.swap_lt]
  · rw [compare_eq_iff_eq.mpr rfl, compare_eq_iff_eq.mpr rfl, Ordering.swap_eq]
  · rw [compare_gt_iff_gt.mpr h, compare_lt_iff_lt.mpr (neg_lt_neg h), Ordering.swap_gt]

/-- A double compares with a zero like its value. -/
theorem compare_zero (s t : Sign) {m : Nat} {e : Int} (h : 0 < m) :
    UnpackedFloat.compare (.finite s m e h) (.zero t) = some (compare ((s.apply m : Int) * 2 ^ e : ℚ) 0) ∧
      UnpackedFloat.compare (.zero t) (.finite s m e h) = some (compare 0 ((s.apply m : Int) * 2 ^ e : ℚ)) := by
  have hpos := pos_of_pos h e
  cases s with
  | positive =>
    rw [apply_positive, compare_gt_iff_gt.mpr hpos, compare_lt_iff_lt.mpr hpos]
    exact ⟨rfl, rfl⟩
  | negative =>
    have hneg := neg_neg_of_pos hpos
    rw [apply_negative, compare_gt_iff_gt.mpr hneg, compare_lt_iff_lt.mpr hneg]
    exact ⟨rfl, rfl⟩

/-- Doubles other than zero compare like their values. -/
theorem compare_finite_finite (s s' : Sign) {m m' : Nat} {e e' : Int} (h : IsDouble m e) (h' : IsDouble m' e') :
    UnpackedFloat.compare (.finite s m e h.pos) (.finite s' m' e' h'.pos) =
      some (compare ((s.apply m : Int) * 2 ^ e : ℚ) ((s'.apply m' : Int) * 2 ^ e')) := by
  have hpos := pos_of_pos h.pos e
  have hpos' := pos_of_pos h'.pos e'
  cases s <;> cases s' <;> simp only [apply_positive, apply_negative, UnpackedFloat.compare, Option.some.injEq]
  case negative.negative =>
    rw [compare_finite h h', compare_neg_neg]
  case negative.positive => exact (compare_lt_iff_lt.mpr (by linarith)).symm
  case positive.negative => exact (compare_gt_iff_gt.mpr (by linarith)).symm
  case positive.positive => exact compare_finite h h'

/-- Doubles compare like their values. -/
theorem compare_view (ha : value? x = some a) (hb : value? y = some b) :
    (view x).compare (view y) = some (compare a b) := by
  rcases view_of_value ha with ⟨rfl, s, hx⟩ | ⟨s, m, e, h, hd, hx, rfl⟩ <;>
    rcases view_of_value hb with ⟨rfl, t, hy⟩ | ⟨t, m', e', h', hd', hy, rfl⟩ <;>
    rw [hx, hy]
  · rw [compare_eq_iff_eq.mpr rfl]
    rfl
  · exact (compare_zero t s h').2
  · exact (compare_zero s t h).1
  · exact compare_finite_finite s t hd hd'

/-- Doubles are ordered like their values. -/
theorem lt_iff_of_value (ha : value? x = some a) (hb : value? y = some b) : x < y ↔ a < b := by
  rw [lt_iff, UnpackedFloat.lt, compare_view ha hb, beq_iff_eq, Option.some.injEq, compare_lt_iff_lt]

theorem le_iff_of_value (ha : value? x = some a) (hb : value? y = some b) : x ≤ y ↔ a ≤ b := by
  rw [le_iff, UnpackedFloat.le, compare_view ha hb, Option.any_some, Ordering.isLE_iff_ne_gt]
  exact compare_le_iff_le

end Values

/-! ## Whole numbers -/

open Decimal.Shortest (fraction)

theorem fraction_eq (m : Nat) (e : Int) : fraction m e = (m * 2 ^ e.toNat, 2 ^ (-e).toNat) := by
  cases e with
  | ofNat n =>
    have hneg : (-Int.ofNat n).toNat = 0 := Int.toNat_of_nonpos (Int.neg_nonpos_of_nonneg (Int.natCast_nonneg n))
    rw [hneg]
    rfl
  | negSucc n =>
    have hneg : (-Int.negSucc n).toNat = n + 1 := rfl
    rw [hneg, Int.toNat_negSucc, Nat.pow_zero, Nat.mul_one]
    rfl

theorem fraction_pos (m : Nat) (e : Int) : 0 < (fraction m e).2 := by
  rw [fraction_eq]
  exact Nat.two_pow_pos _

/-- The fraction is the number. -/
theorem fraction_value (m : Nat) (e : Int) : (m * 2 ^ e : ℚ) * (fraction m e).2 = (fraction m e).1 := by
  have hexponent : e + ((-e).toNat : Int) = (e.toNat : Int) := by omega
  rw [fraction_eq, Nat.cast_mul, Nat.cast_pow, Nat.cast_pow, Nat.cast_ofNat, mul_assoc, ← zpow_natCast, ← zpow_natCast,
    ← zpow_add₀ two_ne_zero, hexponent]

section Whole

variable {x : Float} {a : ℚ}

/-- A number is whole if its denominator divides its numerator. -/
theorem fraction_dvd_iff (m : Nat) (e : Int) :
    (fraction m e).1 % (fraction m e).2 = 0 ↔ ∃ n : ℕ, (m * 2 ^ e : ℚ) = n := by
  have hpos : ((fraction m e).2 : ℚ) ≠ 0 := Nat.cast_ne_zero.mpr (Nat.ne_of_gt (fraction_pos m e))
  have hvalue := fraction_value m e
  rw [← Nat.dvd_iff_mod_eq_zero]
  constructor
  · rintro ⟨n, hn⟩
    refine ⟨n, mul_right_cancel₀ hpos ?_⟩
    rw [hvalue, hn, Nat.cast_mul, mul_comm]
  · rintro ⟨n, hn⟩
    refine ⟨n, ?_⟩
    rw [hn] at hvalue
    rw [mul_comm]
    exact_mod_cast hvalue.symm

/-- A double is whole if its value is, up to the sign, a natural number. -/
theorem isWhole_iff (ha : value? x = some a) : isWhole x = true ↔ ∃ n : ℕ, |a| = n := by
  unfold isWhole
  rcases view_of_value ha with ⟨rfl, s, hx⟩ | ⟨s, m, e, h, -, hx, rfl⟩
  · rw [hx, abs_zero]
    exact ⟨fun _ => ⟨0, Nat.cast_zero.symm⟩, fun _ => rfl⟩
  · have habs : |((s.apply m : Int) * 2 ^ e : ℚ)| = m * 2 ^ e := by
      cases s with
      | positive => rw [apply_positive, abs_of_pos (pos_of_pos h e)]
      | negative => rw [apply_negative, abs_neg, abs_of_pos (pos_of_pos h e)]
    rw [hx, habs, ← fraction_dvd_iff]
    exact decide_eq_true_iff

/-- Conversion cuts off what is behind the point. -/
theorem roundToInt_eq (s : Sign) (m : Nat) (e : Int) :
    roundToInt s m e = s.apply ((fraction m e).1 / (fraction m e).2 : ℕ) := by
  have hshift : (0 - (e - (e.toNat : Int))).toNat = (-e).toNat := by omega
  unfold roundToInt decreaseExponent shiftToExponent
  simp only [Int.sub_zero, hshift, shiftRight_exact, mantissa_ofMantissaAndAccuracy, fraction_eq, Nat.shiftLeft_eq]

/-- What has a natural number as its value is zero or positive. -/
theorem view_of_natCast {n : ℕ} (hn : value? x = some (n : ℚ)) :
    (n = 0 ∧ ∃ s, view x = .zero s) ∨
      ∃ m e h, IsDouble m e ∧ view x = .finite .positive m e h ∧ (n : ℚ) = m * 2 ^ e := by
  rcases view_of_value hn with ⟨hzero, s, hx⟩ | ⟨s, m, e, h, hd, hx, heq⟩
  · exact .inl ⟨Nat.cast_eq_zero.mp hzero, s, hx⟩
  · cases s with
    | positive => exact .inr ⟨m, e, h, hd, hx, heq.trans (apply_positive m e)⟩
    | negative =>
      have hpos := pos_of_pos h e
      have hnonneg : (0 : ℚ) ≤ n := Nat.cast_nonneg n
      rw [apply_negative] at heq
      linarith

theorem toInt_of_value {n : ℕ} (hn : value? x = some (n : ℚ)) (lo hi : Int) : (view x).toInt lo hi = n := by
  rcases view_of_natCast hn with ⟨rfl, s, hx⟩ | ⟨m, e, h, -, hx, heq⟩
  · rw [hx]
    rfl
  · have hquotient : (fraction m e).1 = n * (fraction m e).2 := by
      have hvalue := fraction_value m e
      rw [← heq] at hvalue
      exact_mod_cast hvalue.symm
    rw [hx, UnpackedFloat.toInt, roundToInt_eq, hquotient, Nat.mul_div_cancel _ (fraction_pos m e)]
    rfl

/-- A count is converted to itself, or to the greatest count. -/
theorem toNat_toUInt64 {n : ℕ} (hn : value? x = some (n : ℚ)) : x.toUInt64.toNat = min n (2 ^ 64 - 1) := by
  have hclamp : x.toUInt64 = UInt64.ofNatClamp ((view x).toInt 0 (UInt64.size - 1)).toNat := rfl
  rw [hclamp, toInt_of_value hn, Int.toNat_natCast]
  have hsize : UInt64.size = 2 ^ 64 := rfl
  unfold UInt64.ofNatClamp
  split
  · rw [UInt64.toNat_ofNatLT]
    omega
  · rw [UInt64.toNat_ofNatLT]
    omega

end Whole

/-! ## Counts as doubles -/

/-- The double nearest to a count: it is rounded to 53 bits, a tie going to the even one. -/
def nearestDouble (n : Nat) : Nat := roundHalfEven n (2 ^ (n.log2 - 52)) * 2 ^ (n.log2 - 52)

theorem nearestDouble_of_lt {n : Nat} (h : n.log2 ≤ 52) : nearestDouble n = n := by
  have hshift : n.log2 - 52 = 0 := by omega
  have hexact := roundHalfEven_mul n Nat.one_pos
  rw [Nat.mul_one] at hexact
  rw [nearestDouble, hshift, Nat.pow_zero, hexact, Nat.mul_one]

/-- The quotient that is rounded has 53 bits. -/
theorem quotient_bounds {n : Nat} (h : 52 ≤ n.log2) :
    2 ^ 52 ≤ n / 2 ^ (n.log2 - 52) ∧ n / 2 ^ (n.log2 - 52) < 2 ^ 53 := by
  have hne : n ≠ 0 := by
    rintro rfl
    rw [Nat.log2_zero] at h
    omega
  have hpos := Nat.two_pow_pos (n.log2 - 52)
  constructor
  · rw [Nat.le_div_iff_mul_le hpos, ← Nat.pow_add]
    have hexponent : 52 + (n.log2 - 52) = n.log2 := by omega
    rw [hexponent]
    exact Nat.log2_self_le hne
  · rw [Nat.div_lt_iff_lt_mul hpos, ← Nat.pow_add]
    have hexponent : 53 + (n.log2 - 52) = n.log2 + 1 := by omega
    rw [hexponent]
    exact Nat.lt_log2_self

theorem round_eq (s : Sign) (n : Nat) : UnpackedFloat.round .binary64 s n 0 = roundWithAccuracy .binary64 s
    (n * 2 ^ (-doubleExponent n 0).toNat) (-((-doubleExponent n 0).toNat : Int)) .exact := by
  unfold UnpackedFloat.round decreaseExponent
  simp only [targetExponent_eq, Nat.shiftLeft_eq, Int.zero_sub]

section Round

variable {n : Nat}

/-- A number of at most 53 bits is a double, -/
theorem round_of_log2_le (s : Sign) (hn : 0 < n) (hlog : n.log2 ≤ 52) :
    ∃ h : IsDouble (n * 2 ^ (52 - n.log2)) (-((52 - n.log2 : Nat) : Int)),
      UnpackedFloat.round .binary64 s n 0 = .finite s (n * 2 ^ (52 - n.log2)) (-((52 - n.log2 : Nat) : Int)) h.pos := by
  have hexponent : (-doubleExponent n 0).toNat = 52 - n.log2 := by
    unfold doubleExponent
    omega
  have hlow : 2 ^ 52 ≤ n * 2 ^ (52 - n.log2) := by
    calc 2 ^ 52 = 2 ^ n.log2 * 2 ^ (52 - n.log2) := by rw [← Nat.pow_add]; congr 1; omega
      _ ≤ n * 2 ^ (52 - n.log2) := Nat.mul_le_mul_right _ (Nat.log2_self_le (Nat.ne_of_gt hn))
  have hhigh : n * 2 ^ (52 - n.log2) < 2 ^ 53 := by
    calc n * 2 ^ (52 - n.log2) < 2 ^ (n.log2 + 1) * 2 ^ (52 - n.log2) :=
          Nat.mul_lt_mul_of_pos_right Nat.lt_log2_self (Nat.two_pow_pos _)
      _ = 2 ^ 53 := by rw [← Nat.pow_add]; congr 1; omega
  have hd : IsDouble (n * 2 ^ (52 - n.log2)) (-((52 - n.log2 : Nat) : Int)) :=
    ⟨by omega, hhigh, by omega, by omega, .inl hlow⟩
  have hexact := roundWithAccuracy_exact s hd 0
  rw [Nat.pow_zero, Nat.mul_one, Int.natCast_zero, Int.sub_zero] at hexact
  exact ⟨hd, by rw [round_eq, hexponent, hexact]⟩

/-- and a longer one is rounded. -/
theorem round_of_lt_log2 (s : Sign) (hlow : 52 < n.log2) (hhigh : n.log2 < 64) :
    ∃ m e, ∃ h : IsDouble m e,
      UnpackedFloat.round .binary64 s n 0 = .finite s m e h.pos ∧ (m * 2 ^ e : ℚ) = nearestDouble n := by
  have hexponent : doubleExponent n 0 = ((n.log2 - 52 : Nat) : Int) := by
    unfold doubleExponent
    omega
  have hshift : (doubleExponent n 0 - 0).toNat = n.log2 - 52 := by omega
  have hround : UnpackedFloat.round .binary64 s n 0 = roundWithAccuracy .binary64 s n 0 .exact := by
    have hneg : (-doubleExponent n 0).toNat = 0 := by omega
    rw [round_eq, hneg, Nat.pow_zero, Nat.mul_one]
    rfl
  obtain ⟨hmin, hmax⟩ := quotient_bounds (Nat.le_of_lt hlow)
  obtain ⟨hle, hle'⟩ := roundHalfEven_bounds n (2 ^ (n.log2 - 52))
  have hvalue : (nearestDouble n : ℚ) = roundHalfEven n (2 ^ (n.log2 - 52)) * 2 ^ ((n.log2 - 52 : Nat) : Int) := by
    rw [nearestDouble, Nat.cast_mul, Nat.cast_pow, Nat.cast_ofNat, zpow_natCast]
  rw [hround, hvalue]
  have hfits : ((n.log2 - 52 : Nat) : Int) < 12 := by omega
  rcases Nat.lt_or_ge (roundHalfEven n (2 ^ (n.log2 - 52))) (2 ^ 53) with hq | hq
  · refine ⟨_, doubleExponent n 0, ⟨by omega, hq, by omega, by omega, .inl (by omega)⟩, ?_, by rw [hexponent]⟩
    exact roundWithAccuracy_of_lt s (by omega) (by rw [hshift]) (by omega) hq
  · -- rounded up to the next power of two
    have hq : roundHalfEven n (2 ^ (n.log2 - 52)) = 2 ^ 53 := by omega
    refine ⟨2 ^ 52, doubleExponent n 0 + 1, ⟨by decide, by decide, by omega, by omega, .inl (by decide)⟩,
      roundWithAccuracy_of_eq s (by omega) (by rw [hshift, hq]), ?_⟩
    rw [hq, hexponent, zpow_add_one₀ two_ne_zero]
    norm_num
    ring

end Round

/-- A count as a double. -/
theorem value?_toFloat (n : UInt64) : value? n.toFloat = some (nearestDouble n.toNat : ℚ) := by
  have hview : n.toFloat = ofView (UnpackedFloat.normalize .binary64 n.toNat 0 .positive) := rfl
  rcases Nat.eq_zero_or_pos n.toNat with hn | hn
  · have hzero : view (ofView (UnpackedFloat.normalize .binary64 ((0 : Nat) : Int) 0 .positive)) =
        .zero .positive := rfl
    have hnearest : nearestDouble 0 = 0 := rfl
    rw [hview, hn, value?_of_zero hzero, hnearest, Nat.cast_zero]
  have hnormalize : UnpackedFloat.normalize .binary64 n.toNat 0 .positive =
      UnpackedFloat.round .binary64 .positive n.toNat 0 := by
    have hgt : compare (n.toNat : Int) 0 = .gt := compare_gt_iff_gt.mpr (Int.natCast_pos.mpr hn)
    rw [UnpackedFloat.normalize, hgt, Int.toNat_natCast]
  have hlog : n.toNat.log2 < 64 := (Nat.log2_lt (Nat.ne_of_gt hn)).mpr n.toNat_lt
  rw [hview, hnormalize]
  rcases Nat.lt_or_ge 52 n.toNat.log2 with hlt | hle
  · obtain ⟨m, e, hd, hround, hvalue⟩ := round_of_lt_log2 .positive hlt hlog
    rw [hround, value?_of_finite (view_ofView hd), apply_positive, hvalue]
  · obtain ⟨hd, hround⟩ := round_of_log2_le .positive hn hle
    rw [hround, value?_of_finite (view_ofView hd), apply_positive, nearestDouble_of_lt hle, Nat.cast_mul, Nat.cast_pow,
      Nat.cast_ofNat, mul_assoc, ← zpow_natCast, ← zpow_add₀ two_ne_zero, add_neg_cancel, zpow_zero, mul_one]

end Formula.Number
