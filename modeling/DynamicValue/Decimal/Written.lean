/-
# Numbers as text

A floating-point number is written with the digits of its shortest decimal, without an exponent and
without a point behind an integer. The sign is that of the bit pattern, so negative zero keeps it.
-/

import DynamicValue.Decimal.Natural
import DynamicValue.Decimal.Shortest

namespace DynamicValue

namespace Decimal

/-- The plain notation of a decimal: zeros fill the places between its digits and the point. -/
def plain (d : Decimal) : List Char :=
  let digits := naturalDigits d.significand
  if 0 ≤ d.exponent then digits ++ List.replicate d.exponent.toNat '0'
  else
    let places := (-d.exponent).toNat
    if digits.length ≤ places then
      '0' :: '.' :: (List.replicate (places - digits.length) '0' ++ digits)
    else
      digits.take (digits.length - places) ++ '.' :: digits.drop (digits.length - places)

end Decimal

namespace Binary

variable {kind : FloatKind}

/-- The text of the absolute value of a number. -/
def magnitudeText (x : Binary kind) : List Char :=
  if x.isInfinite then ['i', 'n', 'f']
  else if x.magnitude = 0 then ['0']
  else (kind.shortestDecimal x.magnitude).plain

/-- The text of a floating-point number. What is not a number has no sign. -/
def text (x : Binary kind) : String :=
  if x.isNaN then "NaN"
  else String.ofList (if x.negative then '-' :: x.magnitudeText else x.magnitudeText)

end Binary

end DynamicValue
