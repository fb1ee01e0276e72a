/-!
# Decimal numbers and the doubles nearest to them

A decimal number is `digits · 10 ^ exponent`. Reading one as a double goes through its normal form, in which the
digits do not end in zero, so that `1200`, `12e2` and `1200.0` are read alike.

- `Decimal.normalize`: the normal form; `Decimal.normalForm_mul_ten`: a zero at the end makes no difference to it.
- `Decimal.toFloat`: the nearest double, a tie going to the even mantissa, infinity beyond the range.
- `Decimal.toChars`: positional notation, without an exponent.
- `Decimal.ofParts`: the number written by digits before and after a point.
-/

namespace Formula

/-- The number `digits · 10 ^ exponent`. -/
structure Decimal where
  digits : Nat
  exponent : Int
  deriving DecidableEq, Repr

namespace Decimal

/-! ## Normal form -/

/-- Moves zeros at the end of the digits into the exponent; zero is `0 · 10 ^ 0`. -/
def normalForm (digits : Nat) (exponent : Int) : Decimal :=
  if h : digits = 0 then ⟨0, 0⟩
  else if digits % 10 = 0 then normalForm (digits / 10) (exponent + 1)
  else ⟨digits, exponent⟩
termination_by digits
decreasing_by omega

/-- The same number with no zero at the end of its digits. -/
def normalize (d : Decimal) : Decimal := normalForm d.digits d.exponent

theorem normalForm_zero (e : Int) : normalForm 0 e = ⟨0, 0⟩ := by rw [normalForm]; simp

theorem normalForm_mul_ten (n : Nat) (e : Int) : normalForm (n * 10) e = normalForm n (e + 1) := by
  by_cases h : n = 0
  · subst h; simp [normalForm_zero]
  · rw [normalForm, dif_neg (by omega), if_pos (by omega), Nat.mul_div_cancel _ (by decide)]

theorem normalForm_of_mod {n : Nat} (e : Int) (h : n % 10 ≠ 0) : normalForm n e = ⟨n, e⟩ := by
  rw [normalForm]; simp [h]; omega

theorem normalize_zero (e : Int) : normalize ⟨0, e⟩ = ⟨0, 0⟩ := normalForm_zero e

/-! ## The nearest double -/

/-- The double nearest to the number. -/
def toFloat (d : Decimal) : Float :=
  .ofModel (.ofScientific d.normalize.digits d.normalize.exponent)

/-- A zero at the end of the digits counts as one more in the exponent. -/
theorem toFloat_mul_ten (n : Nat) (e : Int) : toFloat ⟨n * 10, e⟩ = toFloat ⟨n, e + 1⟩ := by
  simp [toFloat, normalize, normalForm_mul_ten]

/-! ## Positional notation -/

/-- Sets a point so that `places` digits follow it, after zeros enough for one digit to stand before it. -/
def insertPoint (places : Nat) (digits : List Char) : List Char :=
  let padded := List.replicate (places + 1 - digits.length) '0' ++ digits
  padded.take (padded.length - places) ++ '.' :: padded.drop (padded.length - places)

/-- The number `digits / 10 ^ places` with exactly that many places; the point goes with the last of them. -/
def fixedChars (digits places : Nat) : List Char :=
  if places = 0 then Nat.toDigits 10 digits else insertPoint places (Nat.toDigits 10 digits)

/-- The number in digits, zeros and at most one point. -/
def toChars (d : Decimal) : List Char :=
  match d.exponent with
  | .ofNat n => Nat.toDigits 10 d.digits ++ List.replicate n '0'
  | .negSucc n => fixedChars d.digits (n + 1)

/-- The number written by the digits `whole` before the point and `fraction` after it. -/
def ofParts (whole fraction : List Char) : Decimal :=
  ⟨Nat.ofDigitChars 10 (whole ++ fraction) 0, -(fraction.length : Int)⟩

end Decimal

end Formula
