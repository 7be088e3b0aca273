/-
# Wide integers

A floating-point number becomes an integer of some kind by way of the integers of 128 bits with a
sign. They contain every kind, so a number outside of them belongs to none. The test for this is a
comparison of floating-point numbers: it is made with the two ends of the wide integers as numbers
of the same format, and the upper end is rounded up in both formats.
-/

import DynamicValue.Number.Rounding

namespace DynamicValue

namespace Wide

/-- The number of wide integers below zero. -/
def half : Nat := Nat.pow 2 127

/-- The least wide integer. -/
def least : Int := -half

/-- The greatest wide integer. -/
def greatest : Int := half - 1

end Wide

namespace Binary

variable {kind : FloatKind}

/-- Whether a number is less than the least wide integer or reaches the greatest one, both rounded
to its format. -/
def isBeyondWide (x : Binary kind) : Bool :=
  x.less (.ofInt kind Wide.least) || (ofInt kind Wide.greatest).atMost x

/-- The integer part of a number as a wide integer. What lies beyond an end becomes that end, and
what is not a number becomes zero. -/
def saturated (x : Binary kind) : Int :=
  if x.isNaN then 0 else max Wide.least (min x.truncated Wide.greatest)

end Binary

end DynamicValue
