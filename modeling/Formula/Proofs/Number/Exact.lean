import Formula.Proofs.Number.Rounding

/-!
# Decimals that are doubles

A decimal whose value is that of a double is read as this double. So the shortest decimal of a double reads back: either
it was found by reading it, or it is the exact expansion.

- `Decimal.value`: the number that a decimal stands for; `Decimal.value_normalize`.
- `Number.ofScientific_exact`: a decimal with the value of a double is that double.
- `Number.toFloat_shortest`: the shortest decimal of a double reads back.
-/

namespace Formula

open Float.Model (Format totalExponent)
open Float.Model.UnpackedFloat

/-! ## Values of decimals -/

namespace Decimal

/-- The number that a decimal stands for. -/
def value (d : Decimal) : ℚ := d.digits * 10 ^ d.exponent

theorem value_normalForm (n : Nat) (e : Int) : (normalForm n e).value = n * 10 ^ e := by
  fun_induction normalForm n e with
  | case1 => simp [value, *]
  | case2 n e hne hmod ih =>
    have hten : (n : ℚ) = (n / 10 : ℕ) * 10 := by
      have : n = n / 10 * 10 := by omega
      exact_mod_cast this
    rw [ih, zpow_add_one₀ (by norm_num), hten]
    ring
  | case3 => rfl

theorem value_normalize (d : Decimal) : d.normalize.value = d.value := value_normalForm _ _

/-- What is normal is its own normal form. -/
theorem normalize_normalForm (n : Nat) (e : Int) : (normalForm n e).normalize = normalForm n e := by
  fun_induction normalForm n e with
  | case1 => exact normalize_zero 0
  | case2 n e hne hmod ih => exact ih
  | case3 n e hne hmod => exact normalForm_of_mod e hmod

/-- The normal form is read alike. -/
theorem toFloat_normalize (d : Decimal) : d.normalize.toFloat = d.toFloat := by
  have hnormal : d.normalize.normalize = d.normalize := normalize_normalForm _ _
  rw [toFloat, toFloat, hnormal]

/-- The exact expansion has the value of the number. -/
theorem value_expansion (m : Nat) (e : Int) : (Shortest.expansion m e).value = m * 2 ^ e := by
  cases e with
  | ofNat n =>
    have hexpansion : Shortest.expansion m (.ofNat n) = ⟨m * 2 ^ n, 0⟩ := rfl
    rw [hexpansion, value, zpow_zero, mul_one, Nat.cast_mul, Nat.cast_pow, Nat.cast_ofNat]
    rfl
  | negSucc n =>
    have hexpansion : Shortest.expansion m (.negSucc n) = ⟨m * 5 ^ (n + 1), .negSucc n⟩ := rfl
    rw [hexpansion, value, zpow_negSucc, zpow_negSucc, Nat.cast_mul, Nat.cast_pow, Nat.cast_ofNat]
    have hten : (10 : ℚ) ^ (n + 1) = 2 ^ (n + 1) * 5 ^ (n + 1) := by
      rw [← mul_pow]
      norm_num
    have hfive : (5 : ℚ) ^ (n + 1) ≠ 0 := pow_ne_zero _ (by norm_num)
    rw [hten, mul_inv_rev, mul_assoc, mul_inv_cancel_left₀ hfive]

end Decimal

namespace Number

section Exact

variable {m d : Nat} {e k : Int}

theorem two_le_ten_zpow {n : Int} (h : 0 ≤ n) : (2 : ℚ) ^ n ≤ 10 ^ n := by
  obtain ⟨n, rfl⟩ := Int.eq_ofNat_of_zero_le h
  rw [zpow_natCast, zpow_natCast]
  exact pow_le_pow_left₀ (by norm_num) (by norm_num) n

/-- A double has at most 53 bits, -/
theorem IsDouble.value_lt (h : IsDouble m e) : (m * 2 ^ e : ℚ) < 2 ^ (53 + e) := by
  have hm : (m : ℚ) < 2 ^ (53 : ℕ) := by exact_mod_cast h.lt
  rw [zpow_add₀ two_ne_zero]
  exact mul_lt_mul_of_pos_right hm (zpow_pos two_pos e)

/-- and no less than its last bit. -/
theorem IsDouble.le_value (h : IsDouble m e) : (2 : ℚ) ^ e ≤ m * 2 ^ e := by
  have hm : (1 : ℚ) ≤ m := by exact_mod_cast h.pos
  exact le_mul_of_one_le_left (le_of_lt (zpow_pos two_pos e)) hm

theorem two_zpow_lt_iff {a b : Int} : (2 : ℚ) ^ a < 2 ^ b ↔ a < b := zpow_lt_zpow_iff_right₀ one_lt_two

theorem natCast_lt_two_zpow (n : Nat) : (n : ℚ) < 2 ^ ((n.log2 + 1 : Nat) : Int) := by
  rw [zpow_natCast]
  exact_mod_cast Nat.lt_log2_self

theorem two_zpow_le_natCast {n : Nat} (h : n ≠ 0) : (2 : ℚ) ^ ((n.log2 : Nat) : Int) ≤ n := by
  rw [zpow_natCast]
  exact_mod_cast Nat.log2_self_le h

/-- A product with the value of a double is that double. -/
theorem mul_exact (h : IsDouble m e) (he : -53 ≤ e) {p : Nat} (hv : (d * p : ℚ) = m * 2 ^ e) :
    roundWithAccuracy .binary64 .positive (d <<< 53 * p) (-53) .exact = .finite .positive m e h.pos := by
  obtain ⟨n, hn⟩ : ∃ n : ℕ, (n : Int) = e + 53 := ⟨(e + 53).toNat, by omega⟩
  have hproduct : d <<< 53 * p = m * 2 ^ n := by
    have hcast : (d * 2 ^ 53 * p : ℚ) = m * 2 ^ n := by
      calc (d * 2 ^ 53 * p : ℚ) = m * 2 ^ e * 2 ^ (53 : ℤ) := by rw [← hv, zpow_ofNat]; ring
        _ = m * 2 ^ (n : ℤ) := by rw [mul_assoc, ← zpow_add₀ two_ne_zero, hn]
        _ = m * 2 ^ n := by rw [zpow_natCast]
    rw [Nat.shiftLeft_eq]
    exact_mod_cast hcast
  have hexponent : (-53 : Int) = e - n := by omega
  rw [hproduct, hexponent, roundWithAccuracy_exact .positive h n]

/-- A quotient with the value of a double has no remainder. -/
theorem divCore_exact (h : IsDouble m e) {p : Nat} (hp : p ≠ 0) (hv : (d : ℚ) = m * 2 ^ e * p) :
    ∃ n : ℕ, divCore .binary64 d 0 p 0 = (m * 2 ^ n, e - n, .exact) := by
  have hlow := h.low
  have hppos : (0 : ℚ) < p := Nat.cast_pos.mpr (Nat.pos_of_ne_zero hp)
  have hd : d ≠ 0 := by
    rintro rfl
    have hpos := mul_pos (mul_pos (Nat.cast_pos.mpr h.pos) (zpow_pos two_pos e)) hppos
    rw [Nat.cast_zero] at hv
    exact hpos.ne hv
  -- the quotient has at most one bit more than its mantissas tell
  have hlog : (d.log2 : Int) < 53 + e + (p.log2 + 1 : Nat) := by
    rw [← two_zpow_lt_iff]
    calc (2 : ℚ) ^ ((d.log2 : Nat) : Int) ≤ d := two_zpow_le_natCast hd
      _ = m * 2 ^ e * p := hv
      _ < 2 ^ (53 + e) * p := mul_lt_mul_of_pos_right h.value_lt hppos
      _ < 2 ^ (53 + e) * 2 ^ ((p.log2 + 1 : Nat) : Int) :=
        mul_lt_mul_of_pos_left (natCast_lt_two_zpow p) (zpow_pos two_pos _)
      _ = 2 ^ (53 + e + (p.log2 + 1 : Nat)) := (zpow_add₀ two_ne_zero _ _).symm
  obtain ⟨t, ht⟩ : ∃ t, min (0 - 0) (Format.binary64.targetExponent (totalExponent d 0 - totalExponent p 0)) = t :=
    ⟨_, rfl⟩
  have hle : t ≤ e ∧ t ≤ 0 := by
    rw [targetExponent_max, totalExponent, totalExponent] at ht
    omega
  obtain ⟨n, hn⟩ : ∃ n : ℕ, (n : Int) = e - t := ⟨(e - t).toNat, by omega⟩
  obtain ⟨u, hu⟩ : ∃ u : ℕ, (u : Int) = 0 - 0 - t := ⟨(0 - 0 - t).toNat, by omega⟩
  have hshift : d <<< u = m * 2 ^ n * p := by
    have hcast : (d * 2 ^ u : ℚ) = m * 2 ^ n * p := by
      have hexponent : e + (u : Int) = n := by omega
      calc (d * 2 ^ u : ℚ) = m * (2 ^ e * 2 ^ (u : ℤ)) * p := by rw [hv, zpow_natCast]; ring
        _ = m * 2 ^ (n : ℤ) * p := by rw [← zpow_add₀ two_ne_zero, hexponent]
        _ = m * 2 ^ n * p := by rw [zpow_natCast]
    rw [Nat.shiftLeft_eq]
    exact_mod_cast hcast
  have htoNat : (0 - 0 - t).toNat = u := by omega
  refine ⟨n, ?_⟩
  unfold divCore
  simp only [ht, htoNat, hshift, Nat.mul_div_cancel _ (Nat.pos_of_ne_zero hp), Nat.mul_mod_left]
  rw [accuracyOfFraction_zero]
  congr 2
  omega

/-- A decimal with the value of a double is that double. -/
theorem ofScientific_exact (h : IsDouble m e) (hv : (d * 10 ^ k : ℚ) = m * 2 ^ e) :
    ofScientific .binary64 d k = .finite .positive m e h.pos := by
  have hlow := h.low
  have hhigh := h.high
  have hlt := h.value_lt
  have hle := h.le_value
  have hpos : (0 : ℚ) < m * 2 ^ e := (zpow_pos two_pos e).trans_le hle
  have hd : d ≠ 0 := by
    rintro rfl
    rw [Nat.cast_zero, zero_mul] at hv
    exact hpos.ne hv
  have hone : (1 : ℚ) ≤ d := by exact_mod_cast Nat.pos_of_ne_zero hd
  have hbits : (2 : Int) ^ Format.binary64.exponentBits = 2048 := rfl
  unfold ofScientific
  rw [dif_neg hd, hbits]
  rcases le_or_gt 0 k with hk | hk
  · -- a whole number: the greatest double has 1024 bits, and what is less than its last bit is no double
    have hpow : (2 : ℚ) ^ k ≤ m * 2 ^ e := by
      calc (2 : ℚ) ^ k ≤ 10 ^ k := two_le_ten_zpow hk
        _ ≤ d * 10 ^ k := le_mul_of_one_le_left (le_of_lt (zpow_pos (by norm_num) k)) hone
        _ = m * 2 ^ e := hv
    have hfits : k < 53 + e := two_zpow_lt_iff.mp (hpow.trans_lt hlt)
    obtain ⟨j, rfl⟩ := Int.eq_ofNat_of_zero_le hk
    have hproduct : (d * (10 ^ j : ℕ) : ℚ) = m * 2 ^ e := by
      rw [← hv, Nat.cast_pow, zpow_natCast, Nat.cast_ofNat]
    rw [if_neg (by omega), if_neg (by omega), if_pos hk]
    exact mul_exact h (by omega) hproduct
  · -- a fraction: the least double has 1074 places
    obtain ⟨j, hj⟩ : ∃ j : ℕ, k = -(j : Int) := ⟨(-k).toNat, by omega⟩
    subst hj
    have hquotient : (d : ℚ) = m * 2 ^ e * (10 ^ j : ℕ) := by
      rw [← hv, zpow_neg, zpow_natCast, Nat.cast_pow, Nat.cast_ofNat, inv_mul_cancel_right₀ (by positivity)]
    have hfits : e + j < (d.log2 + 1 : Nat) := by
      rw [← two_zpow_lt_iff]
      calc (2 : ℚ) ^ (e + j) = 2 ^ e * 2 ^ (j : ℤ) := zpow_add₀ two_ne_zero _ _
        _ ≤ m * 2 ^ e * 10 ^ (j : ℤ) :=
          mul_le_mul hle (two_le_ten_zpow (Int.natCast_nonneg j)) (le_of_lt (zpow_pos two_pos _)) (le_of_lt hpos)
        _ = d := by rw [hquotient, zpow_natCast, Nat.cast_pow, Nat.cast_ofNat]
        _ < 2 ^ ((d.log2 + 1 : Nat) : Int) := natCast_lt_two_zpow d
    have hnat : (-(-(j : Int))).toNat = j := by omega
    obtain ⟨n, hcore⟩ := divCore_exact h (p := 10 ^ j) (by positivity) hquotient
    rw [if_neg (by omega), if_neg (by omega), if_neg (by omega), div]
    simp only [hnat, hcore]
    exact roundWithAccuracy_exact .positive h n

/-- and is read as it. -/
theorem toFloat_of_value (h : IsDouble m e) {d : Decimal} (hv : d.value = m * 2 ^ e) :
    d.toFloat = ofView (.finite .positive m e h.pos) := by
  rw [← Decimal.value_normalize] at hv
  rw [Decimal.toFloat, Float.Model.ofScientific, ofScientific_exact h hv]

/-- The shortest decimal of a double reads back. -/
theorem toFloat_shortest (h : IsDouble m e) :
    (shortest m e h.pos).toFloat = ofView (.finite .positive m e h.pos) := by
  rw [shortest, Decimal.toFloat_normalize]
  cases hfind : (Decimal.Shortest.candidates (Decimal.Shortest.fraction m e).1
      (Decimal.Shortest.fraction m e).2).find? (fun d => d.toFloat = ofView (.finite .positive m e h.pos)) with
  | some d => exact Decimal.Shortest.toFloat_decimal_of_find hfind
  | none =>
    have hdecimal : Decimal.Shortest.decimal (ofView (.finite .positive m e h.pos)) m e =
        Decimal.Shortest.expansion m e := by
      simp only [Decimal.Shortest.decimal, hfind, Option.getD_none]
    rw [hdecimal]
    exact toFloat_of_value h (Decimal.value_expansion m e)

end Exact

end Number

end Formula
