/-
# Reading numbers

Texts are read as a whole: a blank, an underscore or any other character that the grammar does not
name makes the text unreadable. An integer is a sign and digits, the minus sign for signed kinds
only; it is read digit by digit and never leaves the range of its kind on the way. A floating-point
number is a sign and either a word for infinity or for what is not a number, or digits with an
optional point and an optional exponent; it is rounded once, directly to its own format.
-/

import DynamicValue.Decimal.Natural
import DynamicValue.Decimal.Shortest

namespace DynamicValue

namespace IntKind

/-- A value with one more digit behind it, which leads further away from zero on the side of the
sign. Neither of the two steps may leave the kind. -/
def appendDigit? (kind : IntKind) (negative : Bool) (value : kind.Value) (c : Char) :
    Option kind.Value :=
  if c.isDigit then
    (kind.ofInt? (10 * value.val)).bind fun tenfold =>
      kind.ofInt? (if negative then tenfold.val - Decimal.digitValue c
        else tenfold.val + Decimal.digitValue c)
  else none

/-- The value that a row of digits leads to from a given one, digit by digit. -/
def appendDigits? (kind : IntKind) (negative : Bool) (value : kind.Value) (cs : List Char) :
    Option kind.Value :=
  cs.foldlM (kind.appendDigit? negative) value

/-- The value of the kind that a non-empty row of digits behind a sign denotes. -/
def readDigits? (kind : IntKind) (negative : Bool) (cs : List Char) : Option kind.Value :=
  if cs = [] then none else kind.appendDigits? negative kind.zero cs

/-- The value of the kind that a text denotes. -/
def read? (kind : IntKind) (text : String) : Option kind.Value :=
  match text.toList with
  | '-' :: digits => if kind.signed then kind.readDigits? true digits else none
  | '+' :: digits => kind.readDigits? false digits
  | digits => kind.readDigits? false digits

end IntKind

namespace Decimal

/-- The exponent behind the digits of a decimal: nothing, or a letter, an optional sign and digits.
-/
def exponent? : List Char → Option Int
  | [] => some 0
  | c :: cs =>
    if c = 'e' ∨ c = 'E' then
      let (negative, digits) := splitSign cs
      (natural? digits).map (withSign negative)
    else none

/-- The digits behind a point, if there is one, and what follows them. -/
def splitFraction : List Char → List Char × List Char
  | '.' :: cs => (cs.takeWhile Char.isDigit, cs.dropWhile Char.isDigit)
  | cs => ([], cs)

/-- The decimal that a text without a sign denotes: digits on at least one side of an optional point
and an optional exponent. -/
def unsigned? (cs : List Char) : Option Decimal :=
  let whole := cs.takeWhile Char.isDigit
  let (fraction, rest) := splitFraction (cs.dropWhile Char.isDigit)
  if whole = [] ∧ fraction = [] then none
  else
    (exponent? rest).map fun exponent =>
      ⟨digitsValue (whole ++ fraction), exponent - (fraction.length : Int)⟩

/-- Whether a positive decimal is so great that it rounds to infinity whatever its digits are: ten
is at least eight, so its binary logarithm is at least the one computed here. -/
def isHuge (kind : FloatKind) (d : Decimal) : Bool :=
  0 ≤ d.exponent && kind.width * 32 ≤ 3 * d.exponent.toNat + d.significand.log2

/-- Whether a decimal is so small that it rounds to zero whatever its digits are: it is less than
half a unit, again because ten is at least eight. -/
def isTiny (kind : FloatKind) (d : Decimal) : Bool :=
  d.exponent < 0 && d.significand.log2 + kind.unitExponent + 2 ≤ 3 * (-d.exponent).toNat

/-- The number of a format nearest to a decimal with a sign. The two bounds in front keep the powers
of ten that have to be computed in proportion to the text. -/
def round (kind : FloatKind) (negative : Bool) (d : Decimal) : Binary kind :=
  if d.significand = 0 then .ofOrdinal kind negative 0
  else if d.isHuge kind then .infinite kind negative
  else if d.isTiny kind then .ofOrdinal kind negative 0
  else
    let fraction := d.inUnits kind
    .nearest kind negative fraction.1 fraction.2

end Decimal

namespace Binary

/-- The words for infinity, in lower case. -/
def infinityWords : List (List Char) := ["inf".toList, "infinity".toList]

/-- The word for what is not a number, in lower case. -/
def notANumberWord : List Char := "nan".toList

/-- The number that a text without a sign denotes, with a given sign. -/
def unsigned? (kind : FloatKind) (negative : Bool) (cs : List Char) : Option (Binary kind) :=
  let word := cs.map Char.toLower
  if infinityWords.contains word then some (infinite kind negative)
  else if word = notANumberWord then some (notANumber kind)
  else (Decimal.unsigned? cs).map (Decimal.round kind negative)

/-- The number of a format that a text denotes. -/
def read? (kind : FloatKind) (text : String) : Option (Binary kind) :=
  let (negative, cs) := Decimal.splitSign text.toList
  unsigned? kind negative cs

end Binary

end DynamicValue
