import Formula.Decimal.Shortest

/-!
# Numbers as text

Three forms, none of which depends on a locale:

- `Number.plain`: the shortest positional form, used wherever a number turns into text;
- `Number.fixed`: a given count of places, the exact value rounded half to even;
- `Number.inspect`: the form for developers, in which a whole number keeps `.0` and very large and very small
  numbers have an exponent.

Zero has no sign in the first two forms. Infinities and not-a-number are `inf`, `-inf` and `NaN` in all three.
-/

namespace Formula.Number

open Float.Model (UnpackedFloat)
open Float.Model.UnpackedFloat (Sign)

/-- A double as a sign and an exact value. -/
def view (x : Float) : UnpackedFloat := x.toModel.unpack

/-- A minus for negative numbers. -/
def signChars : Sign → List Char
  | .positive => []
  | .negative => ['-']

/-- The text of an infinity. -/
def infinityText (s : Sign) : String := String.ofList (signChars s ++ ['i', 'n', 'f'])

/-- The text of not-a-number. -/
def nanText : String := "NaN"

/-- The shortest decimal of `mantissa · 2 ^ exponent`. -/
def shortest (mantissa : Nat) (exponent : Int) (pos : 0 < mantissa) : Decimal :=
  (Decimal.Shortest.decimal (.ofModel (.pack (.finite .positive mantissa exponent pos))) mantissa exponent).normalize

/-! ## Plain form -/

/-- The shortest text that reads back as the same number, without an exponent; `0` for both zeros. -/
def plain (x : Float) : String :=
  match view x with
  | .notANumber => nanText
  | .infinity s => infinityText s
  | .zero _ => "0"
  | .finite s m e h => String.ofList (signChars s ++ (shortest m e h).toChars)

/-! ## Fixed places -/

/-- The whole number nearest to `num / den`, a tie going to the even one. -/
def roundHalfEven (num den : Nat) : Nat :=
  let q := num / den
  match compare (2 * (num % den)) den with
  | .lt => q
  | .eq => q + q % 2
  | .gt => q + 1

/-- How many units of `10 ^ -places` are nearest to `mantissa · 2 ^ exponent`. -/
def fixedUnits (mantissa : Nat) (exponent : Int) (places : Nat) : Nat :=
  let (num, den) := Decimal.Shortest.fraction mantissa exponent
  roundHalfEven (num * Nat.pow 10 places) den

/-- The number with exactly `places` digits after the point; a minus stands only before a result other than zero. -/
def fixed (x : Float) (places : Nat) : String :=
  match view x with
  | .notANumber => nanText
  | .infinity s => infinityText s
  | .zero _ => String.ofList (Decimal.fixedChars 0 places)
  | .finite s m e _ =>
    let units := fixedUnits m e places
    String.ofList ((if units = 0 then [] else signChars s) ++ Decimal.fixedChars units places)

/-! ## Form for developers -/

/-- Digits with a point after the first and the exponent of that first digit. -/
def exponentChars (d : Decimal) : List Char :=
  let ds := Nat.toDigits 10 d.digits
  let exponent := d.exponent + ds.length - 1
  let tail := ds.drop 1
  ds.take 1 ++ (if tail = [] then [] else '.' :: tail) ++ 'e' :: (toString exponent).toList

/-- Positional notation with at least one digit after the point. -/
def pointChars (d : Decimal) : List Char :=
  if 0 ≤ d.exponent then d.toChars ++ ['.', '0'] else d.toChars

/-- Numbers from `10 ^ -4` up to `10 ^ 16` are written positionally. -/
def inspectChars (d : Decimal) : List Char :=
  let magnitude := d.exponent + (Nat.toDigits 10 d.digits).length
  if -3 ≤ magnitude ∧ magnitude ≤ 16 then pointChars d else exponentChars d

/-- The number as it is shown to a developer: `2.5`, `1.0`, `-0.0`, `1e16`, `1.5e-7`. -/
def inspect (x : Float) : String :=
  match view x with
  | .notANumber => nanText
  | .infinity s => infinityText s
  | .zero s => String.ofList (signChars s ++ ['0', '.', '0'])
  | .finite s m e h => String.ofList (signChars s ++ inspectChars (shortest m e h))

end Formula.Number
