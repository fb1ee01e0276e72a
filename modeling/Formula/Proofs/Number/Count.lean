import Formula.Proofs.Number.Value

/-!
# Doubles as counts

A double is a count up to a bound if its value is a natural number that is at most the double nearest to the bound.
Up to `2 ^ 53` that is the bound itself. Beyond, the nearest double may be greater than the bound: then counts above
the bound are let through, and one that is out of the range of counts becomes the greatest count.

- `Number.toCount?_eq_some_iff`: which count a double is.
- `Number.le_nearestDouble`: no double up to the bound is missed.
- `Number.toCount?_spec`: how far the count is exact.
- `Number.toCount?_not_exact`: it is not exact for all bounds.
-/

namespace Formula.Number

open Float.Model (UnpackedFloat)

variable {x : Float} {max n : UInt64}

theorem isFinite_iff : x.isFinite = true ↔ ∃ a, value? x = some a := by
  have hview : x.isFinite = (view x).isFinite := rfl
  rw [hview, value?]
  cases view x with
  | notANumber | infinity s => simp [UnpackedFloat.isFinite]
  | zero s => exact ⟨fun _ => ⟨0, rfl⟩, fun _ => rfl⟩
  | finite s m e h => exact ⟨fun _ => ⟨_, rfl⟩, fun _ => rfl⟩

/-- The tests that a count passes. -/
theorem toCount?_eq_some : toCount? x max = some n ↔
    x.isFinite = true ∧ isWhole x = true ∧ ¬ x < 0 ∧ ¬ max.toFloat < x ∧ x.toUInt64 = n := by
  rw [toCount?, Option.ite_none_right_eq_some, Bool.and_eq_true, Bool.and_eq_true, Bool.and_eq_true, Bool.not_eq_true',
    Bool.not_eq_true', decide_eq_false_iff_not, decide_eq_false_iff_not, Option.some.injEq, and_assoc, and_assoc,
    and_assoc]

/-- Which count a double is: its value, if that is a natural number up to the double nearest to the bound. -/
theorem toCount?_eq_some_iff : toCount? x max = some n ↔
    ∃ v : ℕ, value? x = some (v : ℚ) ∧ v ≤ nearestDouble max.toNat ∧ n.toNat = min v (2 ^ 64 - 1) := by
  have hzero : value? 0 = some 0 := value?_of_zero view_zero
  have hmax := value?_toFloat max
  rw [toCount?_eq_some]
  constructor
  · rintro ⟨hfinite, hwhole, hneg, hle, rfl⟩
    obtain ⟨a, ha⟩ := isFinite_iff.mp hfinite
    obtain ⟨v, hv⟩ := (isWhole_iff ha).mp hwhole
    rw [lt_iff_of_value ha hzero, not_lt] at hneg
    rw [abs_of_nonneg hneg] at hv
    subst hv
    rw [lt_iff_of_value hmax ha, not_lt, Nat.cast_le] at hle
    exact ⟨v, ha, hle, toNat_toUInt64 ha⟩
  · rintro ⟨v, hv, hle, hn⟩
    refine ⟨isFinite_iff.mpr ⟨v, hv⟩, (isWhole_iff hv).mpr ⟨v, Nat.abs_cast v⟩, ?_, ?_, ?_⟩
    · rw [lt_iff_of_value hv hzero, not_lt]
      exact Nat.cast_nonneg v
    · rw [lt_iff_of_value hmax hv, not_lt, Nat.cast_le]
      exact hle
    · exact UInt64.toNat_inj.mp ((toNat_toUInt64 hv).trans hn.symm)

/-! ## Bounds -/

/-- A double is a multiple of a unit, or has at most 53 bits below it. -/
theorem dvd_or_lt_of_value {v : ℕ} (hv : value? x = some (v : ℚ)) (k : ℕ) :
    2 ^ (k + 1) ∣ v ∨ v < 2 ^ 53 * 2 ^ k := by
  rcases view_of_natCast hv with ⟨rfl, -⟩ | ⟨m, e, -, hd, -, heq⟩
  · exact .inl (dvd_zero _)
  rcases le_or_gt e k with he | he
  · right
    have hlt : (v : ℚ) < (2 ^ 53 : ℕ) * 2 ^ k := by
      calc (v : ℚ) = m * 2 ^ e := heq
        _ ≤ m * 2 ^ (k : ℤ) := mul_le_mul_of_nonneg_left (zpow_le_zpow_right₀ one_le_two he) (Nat.cast_nonneg m)
        _ < (2 ^ 53 : ℕ) * 2 ^ (k : ℤ) := mul_lt_mul_of_pos_right (Nat.cast_lt.mpr hd.lt) (zpow_pos two_pos _)
        _ = (2 ^ 53 : ℕ) * 2 ^ k := by rw [zpow_natCast]
    exact_mod_cast hlt
  · obtain ⟨j, rfl⟩ : ∃ j : ℕ, e = ((k + 1 + j : ℕ) : Int) := ⟨(e - k - 1).toNat, by omega⟩
    have hcast : v = m * 2 ^ (k + 1 + j) := by
      rw [zpow_natCast] at heq
      exact_mod_cast heq
    exact .inl ⟨m * 2 ^ j, by rw [hcast, Nat.pow_add 2 (k + 1) j, Nat.mul_left_comm]⟩

/-- No double up to the bound is above the double nearest to it. -/
theorem le_nearestDouble {v bound : ℕ} (hv : value? x = some (v : ℚ)) (hle : v ≤ bound) : v ≤ nearestDouble bound := by
  rcases Nat.lt_or_ge 52 bound.log2 with hlt | hge
  swap
  · rw [nearestDouble_of_lt hge]
    exact hle
  obtain ⟨k, hk⟩ : ∃ k, bound.log2 - 52 = k + 1 := ⟨bound.log2 - 53, by omega⟩
  obtain ⟨hmin, -⟩ := quotient_bounds (Nat.le_of_lt hlt)
  obtain ⟨hround, -⟩ := roundHalfEven_bounds bound (2 ^ (bound.log2 - 52))
  rw [nearestDouble]
  rw [hk] at hmin hround ⊢
  rcases dvd_or_lt_of_value hv k with ⟨j, rfl⟩ | hsmall
  · -- a multiple of the unit is at most the quotient
    have hj : j ≤ bound / 2 ^ (k + 1) := (Nat.le_div_iff_mul_le (Nat.two_pow_pos _)).mpr (Nat.mul_comm .. ▸ hle)
    rw [Nat.mul_comm]
    exact Nat.mul_le_mul_right _ (Nat.le_trans hj hround)
  · calc v ≤ 2 ^ 53 * 2 ^ k := Nat.le_of_lt hsmall
      _ = 2 ^ 52 * 2 ^ (k + 1) := by rw [Nat.pow_succ]; omega
      _ ≤ roundHalfEven bound (2 ^ (k + 1)) * 2 ^ (k + 1) := Nat.mul_le_mul_right _ (Nat.le_trans hmin hround)

/-- A bound up to `2 ^ 53` is a double. -/
theorem nearestDouble_of_le {bound : ℕ} (h : bound ≤ 2 ^ 53) : nearestDouble bound = bound := by
  rcases Nat.lt_or_ge bound (2 ^ 53) with hlt | hge
  · rcases Nat.eq_zero_or_pos bound with rfl | hpos
    · rfl
    · exact nearestDouble_of_lt (Nat.le_of_lt_succ ((Nat.log2_lt (Nat.ne_of_gt hpos)).mpr hlt))
  · obtain rfl : bound = 2 ^ 53 := Nat.le_antisymm h hge
    decide

/-- How far the count of a double is exact. It is the value of the double, if that is a natural number up to the double
nearest to the bound, or the greatest count if the value is greater than that. So no count up to the bound is missed,
and there are no others if the bound is at most `2 ^ 53`. -/
theorem toCount?_spec (x : Float) (max n : UInt64) :
    (toCount? x max = some n ↔
      ∃ v : ℕ, value? x = some (v : ℚ) ∧ v ≤ nearestDouble max.toNat ∧ n.toNat = min v (2 ^ 64 - 1)) ∧
    (value? x = some (n.toNat : ℚ) → n ≤ max → toCount? x max = some n) ∧
    (max.toNat ≤ 2 ^ 53 → (toCount? x max = some n ↔ value? x = some (n.toNat : ℚ) ∧ n ≤ max)) := by
  have hmissed : value? x = some (n.toNat : ℚ) → n ≤ max → toCount? x max = some n := by
    intro hv hle
    have hlt := n.toNat_lt
    exact toCount?_eq_some_iff.mpr ⟨n.toNat, hv, le_nearestDouble hv hle, by omega⟩
  refine ⟨toCount?_eq_some_iff, hmissed, fun hmax => ⟨fun h => ?_, fun ⟨hv, hle⟩ => hmissed hv hle⟩⟩
  obtain ⟨v, hv, hle, hn⟩ := toCount?_eq_some_iff.mp h
  rw [nearestDouble_of_le hmax] at hle
  obtain rfl : v = n.toNat := by omega
  exact ⟨hv, hle⟩

/-- For other bounds the count is not exact: it may be above the bound, and it may be another number than the value of
the double. -/
theorem toCount?_not_exact :
    (toCount? 9007199254740996 9007199254740995 = some 9007199254740996 ∧
      ¬ (9007199254740996 : UInt64) ≤ 9007199254740995) ∧
    toCount? 18446744073709551616 18446744073709551615 = some 18446744073709551615 ∧
      value? 18446744073709551616 = some (2 ^ 64) := by
  have hview : view 18446744073709551616 = .finite .positive (2 ^ 52) 12 (by decide) := rfl
  refine ⟨by decide, by decide, ?_⟩
  rw [value?_of_finite hview, apply_positive]
  norm_num

end Formula.Number
