/-
# The text of a payload

Every payload has a text. Numbers, truth values, characters and texts have their usual one; a type
without a natural text shows its name in angle brackets.
-/

import DynamicValue.Decimal.Written
import DynamicValue.Payload.Basic

namespace DynamicValue

namespace Point

/-- The text of a point names its coordinates. -/
def text (point : Point) : String :=
  "Point \x7b x: " ++ Decimal.integerText point.x.val ++ ", y: " ++
    Decimal.integerText point.y.val ++ " \x7d"

end Point

/-- The text of a truth value. -/
def boolText (b : Bool) : String := if b then "true" else "false"

/-- The text of a fixed-point number with two places. The quotient and the remainder are both
truncated towards zero and both keep the sign. -/
def fixedText (hundredths : Int) : String :=
  Decimal.integerText (hundredths.tdiv 100) ++ "." ++ Decimal.twoDigitText (hundredths.tmod 100)

namespace ValueType

/-- The text of a value that has none of its own. -/
def placeholderText (type : ValueType) : String := "<" ++ type.name ++ ">"

/-- The text of a value of a type. -/
def textOf : (type : ValueType) → type.Value → String
  | integer _, n => Decimal.integerText n.val
  | float _, x => x.text
  | boolean, b => boolText b
  | character, c => String.singleton c
  | text, s => s
  | literal, s => s
  | point, p => p.text
  | block, _ => placeholderText block
  | handle, _ => placeholderText handle
  | over16, _ => placeholderText over16
  | tagged, s => "#" ++ s
  | fixed, n => fixedText n.val
  | probe, p => p.text
  | bigProbe, p => p.text

end ValueType

namespace Payload

/-- The text of a payload. -/
def text (payload : Payload) : String := payload.type.textOf payload.value

end Payload

end DynamicValue
