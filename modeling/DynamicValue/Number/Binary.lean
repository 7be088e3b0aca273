/-
# Binary floating-point numbers

A floating-point number is its bit pattern: a sign and a magnitude. The magnitudes of a format are
ordered like the numbers they stand for, so a magnitude is also the *ordinal* of its number among
the non-negative numbers of the format: the ordinal of zero is 0, its successor is the smallest
subnormal, the ordinal after the greatest finite number is infinity, and everything above is not a
number.

The finite numbers of a format are the multiples `units k` of its smallest positive number, the
*unit*, so their values are compared and rounded in exact natural-number arithmetic.
-/

namespace DynamicValue

/-- The two binary formats. -/
inductive FloatKind
  | single
  | double
  deriving DecidableEq, Repr

namespace FloatKind

/-- The format's name. -/
def name : FloatKind → String
  | single => "f32"
  | double => "f64"

/-- The number of bits of a pattern. -/
def width : FloatKind → Nat
  | single => 32
  | double => 64

/-- The number of stored bits of the significand; a normal number has one bit more. -/
def fractionBits : FloatKind → Nat
  | single => 23
  | double => 52

/-- The unit of the format is two to the power of minus this. -/
def unitExponent : FloatKind → Nat
  | single => 149
  | double => 1074

/-- The number of ordinals between two powers of two. -/
def binade (kind : FloatKind) : Nat := Nat.pow 2 kind.fractionBits

/-- The value of the sign bit; magnitudes are below it. -/
def signBit (kind : FloatKind) : Nat := Nat.pow 2 (kind.width - 1)

/-- The number one, in units of the format. -/
def one (kind : FloatKind) : Nat := Nat.pow 2 kind.unitExponent

/-- The ordinal of infinity: the last binade below the sign bit starts with it. -/
def infinity (kind : FloatKind) : Nat := kind.signBit - kind.binade

/-- The value of the number with ordinal `k`, in units of the format. Beyond the greatest finite
number the rule goes on, so the ordinal of infinity has the value at which rounding overflows to it.
-/
def units (kind : FloatKind) (k : Nat) : Nat :=
  if k < kind.binade then k
  else (kind.binade + k % kind.binade) * Nat.pow 2 (k / kind.binade - 1)

/-- The two formats, the narrower first. -/
def all : List FloatKind := [single, double]

end FloatKind

/-- A floating-point number of a format: its sign bit and the other bits read as a number. -/
@[ext] structure Binary (kind : FloatKind) where
  negative : Bool
  magnitude : Nat
  magnitude_lt : magnitude < kind.signBit
  deriving DecidableEq

namespace Binary

variable {kind : FloatKind}

theorem infinity_lt (kind : FloatKind) : kind.infinity + 1 < kind.signBit := by
  cases kind <;> decide

/-- The number with a sign and an ordinal; ordinals past infinity stand for infinity. -/
def ofOrdinal (kind : FloatKind) (negative : Bool) (k : Nat) : Binary kind :=
  ⟨negative, min k kind.infinity,
    Nat.lt_of_le_of_lt (Nat.min_le_right _ _) (Nat.lt_of_succ_lt (infinity_lt kind))⟩

/-- Infinity with a sign. -/
def infinite (kind : FloatKind) (negative : Bool) : Binary kind :=
  ofOrdinal kind negative kind.infinity

/-- The bit pattern that stands for all results that are not a number. -/
def notANumber (kind : FloatKind) : Binary kind :=
  ⟨false, kind.infinity + 1, infinity_lt kind⟩

/-- Whether the pattern is not a number. -/
def isNaN (x : Binary kind) : Bool := kind.infinity < x.magnitude

/-- Whether the pattern is an infinity. -/
def isInfinite (x : Binary kind) : Bool := x.magnitude = kind.infinity

/-- Whether the pattern is a finite number. -/
def isFinite (x : Binary kind) : Bool := x.magnitude < kind.infinity

/-- The pattern read as one number. -/
def bits (x : Binary kind) : Nat :=
  (if x.negative then kind.signBit else 0) + x.magnitude

/-- The number with a bit pattern; bits past the width of the format are ignored. -/
def ofBits (kind : FloatKind) (bits : Nat) : Binary kind :=
  ⟨bits / kind.signBit % 2 = 1, bits % kind.signBit, Nat.mod_lt bits (Nat.two_pow_pos _)⟩

/-- The absolute value of a finite number, in units of its format. -/
def units (x : Binary kind) : Nat := kind.units x.magnitude

/-- The value of a finite number is integral when its units are whole multiples of one. -/
def isIntegral (x : Binary kind) : Bool := x.units % kind.one = 0

/-- The integer part of a finite number, with its sign. -/
def truncated (x : Binary kind) : Int :=
  let whole : Int := (x.units / kind.one : Nat)
  if x.negative then -whole else whole

/-- The ordinal of a number with the sign of the number. Numbers are ordered like it. -/
def signedOrdinal (x : Binary kind) : Int :=
  if x.negative then -(x.magnitude : Int) else x.magnitude

/-- Whether a number is less than another one. What is not a number is not less than anything, and
nothing is less than it. -/
def less (x y : Binary kind) : Bool :=
  !x.isNaN && !y.isNaN && decide (x.signedOrdinal < y.signedOrdinal)

/-- Whether a number is less than another one or equal to it; the two zeros are equal. -/
def atMost (x y : Binary kind) : Bool :=
  !x.isNaN && !y.isNaN && decide (x.signedOrdinal ≤ y.signedOrdinal)

end Binary

end DynamicValue
