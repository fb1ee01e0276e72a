/-!
# Ranges of code points

Properties of characters are tables of closed ranges of code points, `first` to `last`.
-/

namespace Formula.Text

/-- The code points from the first component to the second, both included. -/
abbrev CodeRange := Nat × Nat

/-- Some range of the table holds the character. -/
def inRanges (table : Array CodeRange) (c : Char) : Bool :=
  table.any fun r => r.1 ≤ c.toNat && c.toNat ≤ r.2

end Formula.Text
