import Formula.Number.Format

/-!
# Whole numbers among the doubles

- `Number.isWhole`: the exact value is an integer;
- `Number.rounded`: the nearest integer, halves going away from zero;
- `Number.toCount?`: a double as a count up to a bound.
-/

namespace Formula.Number

open Float.Model (UnpackedFloat)
open Float.Model.UnpackedFloat (Sign)

/-- The exact value is an integer. -/
def isWhole (x : Float) : Bool :=
  match view x with
  | .notANumber => false
  | .infinity _ => false
  | .zero _ => true
  | .finite _ m e _ =>
    let (num, den) := Decimal.Shortest.fraction m e
    num % den = 0

/-- The nearest integer to `num / den`, a half going up. -/
def roundHalfUp (num den : Nat) : Nat := (2 * num + den) / (2 * den)

/-- The nearest integer, halves going away from zero. Zeros keep their sign, and so does what rounds to zero. -/
def rounded (x : Float) : Float :=
  match view x with
  | .finite s m e _ =>
    if 0 ≤ e then x
    else
      let (num, den) := Decimal.Shortest.fraction m e
      let magnitude := Float.ofNat (roundHalfUp num den)
      match s with
      | .positive => magnitude
      | .negative => -magnitude
  | _ => x

/-- The count that the double stands for: a whole number from zero up to the bound. The bound is compared as a double
and the result does not leave the range of counts. -/
def toCount? (x : Float) (max : UInt64) : Option UInt64 :=
  if x.isFinite && isWhole x && !(x < 0) && !(max.toFloat < x) then some x.toUInt64 else none

end Formula.Number
