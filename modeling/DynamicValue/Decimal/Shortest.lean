/-
# Shortest decimals

A decimal is a natural number of tenths, hundreds or any other power of ten. Each positive finite
number of a binary format owns the interval of fractions that round to it. Its shortest decimal is
found on the coarsest decimal grid that has a point in this interval; of two such points on that
grid it is the nearer one, and the greater one half-way between them.
-/

import DynamicValue.Number.Rounding

namespace DynamicValue

/-- The number `significand` times ten to the power `exponent`. -/
structure Decimal where
  significand : Nat
  exponent : Int
  deriving DecidableEq

namespace Decimal

/-- A decimal as a fraction of units of a format. -/
def inUnits (kind : FloatKind) (d : Decimal) : Nat × Nat :=
  if 0 ≤ d.exponent then (d.significand * Nat.pow 10 d.exponent.toNat * kind.one, 1)
  else (d.significand * kind.one, Nat.pow 10 (-d.exponent).toNat)

end Decimal

namespace FloatKind

/-- Whether a fraction of units rounds to the number with the positive ordinal `k`: it lies between
the two points half-way to the neighbours, the points themselves included when `k` is even. -/
def owns (kind : FloatKind) (k numerator denominator : Nat) : Bool :=
  let least := (kind.units (k - 1) + kind.units k) * denominator
  let greatest := (kind.units k + kind.units (k + 1)) * denominator
  if k % 2 = 0 then least ≤ 2 * numerator && 2 * numerator ≤ greatest
  else least < 2 * numerator && 2 * numerator < greatest

/-- Whether a decimal rounds to the number with the positive ordinal `k`. -/
def ownsDecimal (kind : FloatKind) (k : Nat) (d : Decimal) : Bool :=
  let fraction := d.inUnits kind
  kind.owns k fraction.1 fraction.2

/-- The point of a decimal grid that stands for the number with ordinal `k`. Only the two points
next to the number come into question, since the interval that the number owns contains the number.
-/
def onGrid? (kind : FloatKind) (k : Nat) (exponent : Int) : Option Decimal :=
  let spacing := Decimal.inUnits kind ⟨1, exponent⟩
  let scaled := kind.units k * spacing.2
  let below : Decimal := ⟨scaled / spacing.1, exponent⟩
  let above : Decimal := ⟨scaled / spacing.1 + 1, exponent⟩
  match kind.ownsDecimal k below, kind.ownsDecimal k above with
  | true, true => some (if 2 * (scaled % spacing.1) < spacing.1 then below else above)
  | true, false => some below
  | false, true => some above
  | false, false => none

/-- The value of the number with ordinal `k` as a decimal: a unit is a power of one half, and a half
is five tenths. -/
def exactDecimal (kind : FloatKind) (k : Nat) : Decimal :=
  ⟨kind.units k * Nat.pow 5 kind.unitExponent, -(kind.unitExponent : Int)⟩

/-- Tries at most `steps` grids, each ten times finer than the one before, and then gives up
rounding. -/
def searchGrids (kind : FloatKind) (k : Nat) : Nat → Int → Decimal
  | 0, _ => kind.exactDecimal k
  | steps + 1, exponent => (kind.onGrid? k exponent).getD (kind.searchGrids k steps (exponent - 1))

/-- An exponent of ten so great that no point of its grid rounds to the number with ordinal `k`. The
number and its upper neighbour are at most two to the power of `size`. -/
def coarsestExponent (kind : FloatKind) (k : Nat) : Int :=
  let size : Int := (kind.units k).log2 + 1 - kind.unitExponent
  if 0 < size then size / 3 + 1 else -(-size * 3 / 10)

/-- The shortest decimal that rounds to the number with the positive ordinal `k`. -/
def shortestDecimal (kind : FloatKind) (k : Nat) : Decimal :=
  let coarsest := kind.coarsestExponent k
  kind.searchGrids k (coarsest + kind.unitExponent).toNat coarsest

end FloatKind

end DynamicValue
