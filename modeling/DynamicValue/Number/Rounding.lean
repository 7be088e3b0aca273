/-
# Rounding to a binary format

There is one rounding rule, to the nearest number of the format and, half-way between two, to the
one with the even ordinal. It takes a fraction of two natural numbers counted in units of the format
and is used wherever a number enters a format: reading a decimal, widening an integer, changing the
width.
-/

import DynamicValue.Number.Binary
import DynamicValue.Number.IntKind

namespace DynamicValue

/-- The integer nearest to `numerator / denominator`; half-way between two, the even one. -/
def roundHalfEven (numerator denominator : Nat) : Nat :=
  let quotient := numerator / denominator
  let remainder := numerator % denominator
  if 2 * remainder < denominator then quotient
  else if 2 * remainder = denominator then quotient + quotient % 2
  else quotient + 1

namespace FloatKind

/-- How many low bits of a magnitude of `whole` units the format has no room for. -/
def droppedBits (kind : FloatKind) (whole : Nat) : Nat :=
  whole.log2 - kind.fractionBits

/-- The ordinal of the number nearest to `numerator / denominator` units. Since each power of two
starts a new binade of ordinals, adding the rounded significand to the start of the binade also
carries into the next one, and past the greatest finite number the ordinal is that of infinity or
greater. -/
def nearestOrdinal (kind : FloatKind) (numerator denominator : Nat) : Nat :=
  let dropped := kind.droppedBits (numerator / denominator)
  dropped * kind.binade + roundHalfEven numerator (denominator * Nat.pow 2 dropped)

end FloatKind

namespace Binary

/-- The number of a format nearest to a signed fraction of units. -/
def nearest (kind : FloatKind) (negative : Bool) (numerator denominator : Nat) : Binary kind :=
  ofOrdinal kind negative (kind.nearestOrdinal numerator denominator)

/-- The number of a format nearest to an integer. -/
def ofInt (kind : FloatKind) (n : Int) : Binary kind :=
  nearest kind (n < 0) (n.natAbs * kind.one) 1

/-- A truth value as a number: one for true, zero for false. -/
def ofBool (kind : FloatKind) (b : Bool) : Binary kind :=
  ofInt kind (if b then 1 else 0)

/-- The number of the format `target` nearest to a number of another format. Infinities keep their
sign, and what is not a number stays so. -/
def convert {source : FloatKind} (target : FloatKind) (x : Binary source) : Binary target :=
  if x.isNaN then notANumber target
  else if x.isInfinite then infinite target x.negative
  else
    nearest target x.negative (x.units * target.one) source.one

/-- Every number of the narrow format as a number of the wide one. -/
def widen {source : FloatKind} (x : Binary source) : Binary .double := x.convert .double

/-- Whether the number differs from zero; what is not a number does. -/
def isNonzero {kind : FloatKind} (x : Binary kind) : Bool := x.magnitude ≠ 0

end Binary

end DynamicValue
