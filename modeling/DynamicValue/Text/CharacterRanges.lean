/-
# Sets of characters as ranges of code points

A property of characters is kept as a list of closed ranges of code points in ascending order.
-/

namespace DynamicValue.Text

/-- Whether the code point of a character lies in one of the ranges. -/
def within (ranges : List (Nat × Nat)) (c : Char) : Bool :=
  ranges.any fun range => range.1 ≤ c.toNat && c.toNat ≤ range.2

end DynamicValue.Text
