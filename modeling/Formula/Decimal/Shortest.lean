import Formula.Decimal

/-!
# The shortest decimal that reads back

Every finite double is `mantissa · 2 ^ exponent`. It is named by the decimal with the fewest digits that reads back
as the same double; of two such decimals by the nearer one, and of two equally near ones by the greater.

On a grid of decimals `k · 10 ^ place` only the two neighbours of the number can be the nearest, so the search goes
from coarse grids to fine ones and tries the two neighbours on each. Should none of seventeen digits read back, the
exact decimal expansion stands in.

- `Shortest.decimal`: the decimal.
- `Shortest.toFloat_decimal_of_find`: what the search finds reads back.
-/

namespace Formula.Decimal.Shortest

/-- `mantissa · 2 ^ exponent` as a numerator and a denominator. -/
def fraction (mantissa : Nat) (exponent : Int) : Nat × Nat :=
  match exponent with
  | .ofNat n => (mantissa * Nat.pow 2 n, 1)
  | .negSucc n => (mantissa, Nat.pow 2 (n + 1))

/-- `mantissa · 2 ^ exponent` as a decimal, exactly. -/
def expansion (mantissa : Nat) (exponent : Int) : Decimal :=
  match exponent with
  | .ofNat n => ⟨mantissa * Nat.pow 2 n, 0⟩
  | .negSucc n => ⟨mantissa * Nat.pow 5 (n + 1), .negSucc n⟩

/-- A place at or above that of the leading digit of `num / den`. -/
def leadingPlace (num den : Nat) : Int :=
  if den ≤ num then (Nat.toDigits 10 (num / den)).length
  else 1 - ((Nat.toDigits 10 (den / num)).length : Int)

/-- The two neighbours of `num / den` among the multiples of `10 ^ place`, the nearer one first and the greater one
first if they are equally near. -/
def neighbours (num den : Nat) (place : Int) : List Decimal :=
  let (n, d) := match place with
    | .ofNat p => (num, den * Nat.pow 10 p)
    | .negSucc p => (num * Nat.pow 10 (p + 1), den)
  let below := n / d
  if 2 * (n % d) < d then [⟨below, place⟩, ⟨below + 1, place⟩] else [⟨below + 1, place⟩, ⟨below, place⟩]

/-- The neighbours on all grids of up to seventeen digits, coarse grids first. -/
def candidates (num den : Nat) : List Decimal :=
  (List.range 18).flatMap fun (i : Nat) => neighbours num den (leadingPlace num den - (i : Int))

/-- The shortest decimal that reads back as the positive double `x = mantissa · 2 ^ exponent`. -/
def decimal (x : Float) (mantissa : Nat) (exponent : Int) : Decimal :=
  let (num, den) := fraction mantissa exponent
  ((candidates num den).find? fun d => d.toFloat = x).getD (expansion mantissa exponent)

/-- Whatever the search finds reads back. -/
theorem toFloat_decimal_of_find {x : Float} {m : Nat} {e : Int} {d : Decimal}
    (h : (candidates (fraction m e).1 (fraction m e).2).find? (fun d => d.toFloat = x) = some d) :
    (decimal x m e).toFloat = x := by
  have := List.find?_some h
  simp [decimal, h]
  simpa using this

end Formula.Decimal.Shortest
