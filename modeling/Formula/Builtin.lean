/-!
# Built-in functions

The names of the standard library. What the functions do is in `Formula.Library`.
-/

namespace Formula

/-- A function of the standard library. -/
inductive Builtin where
  /-- A number as text, with a given count of places if one is asked for. -/
  | formatted
  /-- The nearest whole number. -/
  | rounded
  /-- A text in upper case. -/
  | uppercased
  /-- A text in lower case. -/
  | lowercased
  deriving DecidableEq, Repr

namespace Builtin

/-- The name that expressions use. -/
def name : Builtin → String
  | formatted => "formatted"
  | rounded => "rounded"
  | uppercased => "uppercased"
  | lowercased => "lowercased"

/-- The standard library in its order. -/
def all : List Builtin := [formatted, rounded, uppercased, lowercased]

end Builtin

end Formula
