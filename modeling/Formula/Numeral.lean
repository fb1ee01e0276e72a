import Formula.Decimal

/-!
# Numerals

The texts that stand for a double: digits with at most one point, an optional exponent and an optional sign, and the
names of infinity and not-a-number in any case. Blanks are not skipped.

- `Numeral.read?`: the double that a text stands for, if it is a numeral.
-/

namespace Formula.Numeral

/-- A leading sign: whether it is a minus, and the rest. -/
def takeSign : List Char → Bool × List Char
  | '-' :: cs => (true, cs)
  | '+' :: cs => (false, cs)
  | cs => (false, cs)

/-- One digit or more and nothing else. -/
def readDigits? (cs : List Char) : Option Nat :=
  if cs ≠ [] ∧ cs.all Char.isDigit then some (Nat.ofDigitChars 10 cs 0) else none

/-- Nothing, or `e` and an integer. -/
def readExponent? : List Char → Option Int
  | [] => some 0
  | c :: cs =>
    if c = 'e' ∨ c = 'E' then
      let (negative, ds) := takeSign cs
      (readDigits? ds).map fun n => if negative then -(n : Int) else n
    else none

/-- Digits with at most one point among them, one digit at least, and an optional exponent. -/
def readUnsigned? (cs : List Char) : Option Decimal :=
  let whole := cs.takeWhile Char.isDigit
  let (part, rest) := match cs.dropWhile Char.isDigit with
    | '.' :: ds => (ds.takeWhile Char.isDigit, ds.dropWhile Char.isDigit)
    | ds => ([], ds)
  if whole = [] ∧ part = [] then none
  else (readExponent? rest).map fun e =>
    let d := Decimal.ofParts whole part
    ⟨d.digits, d.exponent + e⟩

/-- The names of infinity and not-a-number, and the positive double that each stands for. -/
def readName? (cs : List Char) : Option Float :=
  match String.ofList (cs.map Char.toLower) with
  | "inf" => some (1 / 0)
  | "infinity" => some (1 / 0)
  | "nan" => some (0 / 0)
  | _ => none

/-- The double that the text stands for. -/
def read? (s : String) : Option Float :=
  let (negative, cs) := takeSign s.toList
  let magnitude := match readName? cs with
    | some x => some x
    | none => (readUnsigned? cs).map Decimal.toFloat
  magnitude.map fun x => if negative then -x else x

end Formula.Numeral
