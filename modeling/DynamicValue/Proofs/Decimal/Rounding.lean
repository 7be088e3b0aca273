/-
# A decimal is rounded once

Reading rounds the exact value of a decimal, whatever the number of its digits and the size of its
exponent are: to the nearest number of the format, and from half-way behind the greatest finite one
to infinity. The two bounds in front of the rounding change nothing about this. A decimal above the
first one overflows, and a decimal below the second one is less than half a unit.
-/

import DynamicValue.Decimal.Reader
import DynamicValue.Proofs.Number.Value

namespace DynamicValue

/-! ## The overflow -/

namespace FloatKind

variable {kind : FloatKind} {numerator denominator : Nat}

/-- The value from which on rounding overflows: half-way from the greatest finite number to the next
power of two. -/
def overflow : FloatKind → ℚ
  | single => 2 ^ 128 - 2 ^ 103
  | double => 2 ^ 1024 - 2 ^ 970

theorem nearestOrdinal_lt_infinity_iff (hpositive : 0 < denominator) :
    kind.nearestOrdinal numerator denominator < kind.infinity ↔
      2 * numerator < (kind.units (kind.infinity - 1) + kind.units kind.infinity) * denominator :=
  nearestOrdinal_lt_iff hpositive (by cases kind <;> decide) (by cases kind <;> decide)

theorem overflow_mul_one (kind : FloatKind) :
    kind.overflow * (2 * kind.one) =
      ((kind.units (kind.infinity - 1) + kind.units kind.infinity : Nat) : ℚ) := by
  have hpowers : ∃ low high, low ≤ high ∧ kind.overflow = 2 ^ high - 2 ^ low ∧
      kind.units (kind.infinity - 1) + kind.units kind.infinity =
        (2 ^ high - 2 ^ low) * (2 * kind.one) := by
    cases kind with
    | single => exact ⟨103, 128, by decide, rfl, by decide +kernel⟩
    | double => exact ⟨970, 1024, by decide, rfl, by decide +kernel⟩
  obtain ⟨low, high, hle, hoverflow, hunits⟩ := hpowers
  rw [hoverflow, hunits, Nat.cast_mul, Nat.cast_sub (Nat.pow_le_pow_right (by decide) hle)]
  push_cast
  rfl

/-- Rounding gives a finite number exactly below the value from which on it overflows. -/
theorem nearestOrdinal_lt_infinity_iff_lt_overflow (hpositive : 0 < denominator) :
    kind.nearestOrdinal numerator denominator < kind.infinity ↔
      (numerator : ℚ) / (denominator * kind.one) < kind.overflow := by
  have hone := Binary.cast_one_pos kind
  have hscale : (0 : ℚ) < denominator := by exact_mod_cast hpositive
  have hdouble : kind.overflow * (2 * kind.one) * denominator =
      2 * (kind.overflow * (denominator * kind.one)) := by ring
  rw [nearestOrdinal_lt_infinity_iff hpositive, div_lt_iff₀ (mul_pos hscale hone),
    ← @Nat.cast_lt ℚ, Nat.cast_mul, Nat.cast_mul, ← kind.overflow_mul_one, hdouble,
    Nat.cast_ofNat, mul_lt_mul_iff_right₀ two_pos]

end FloatKind

namespace Binary

variable {kind : FloatKind} {x y : Binary kind} {negative : Bool} {q : ℚ}
  {numerator denominator : Nat}

/-- What a rational number with a sign is rounded to: a number of this sign, which is the nearest
one unless there is none that is near. -/
structure Rounds (x : Binary kind) (negative : Bool) (q : ℚ) : Prop where
  sign : x.negative = negative
  nearest : q < kind.overflow → x.IsNearest (if negative then -q else q)
  infinite : kind.overflow ≤ q → x.isInfinite

/-- Rounding has one result at most. -/
theorem Rounds.unique (hx : x.Rounds negative q) (hy : y.Rounds negative q) : x = y := by
  have hsign : x.negative = y.negative := hx.sign.trans hy.sign.symm
  rcases lt_or_ge q kind.overflow with hbelow | habove
  · exact (hx.nearest hbelow).unique (hy.nearest hbelow) hsign
  · have hmagnitude : x.magnitude = y.magnitude :=
      (of_decide_eq_true (hx.infinite habove)).trans (of_decide_eq_true (hy.infinite habove)).symm
    exact Binary.ext hsign hmagnitude

/-- A fraction of units is rounded to the nearest number, or overflows. -/
theorem nearest_rounds (negative : Bool) (hpositive : 0 < denominator) :
    (nearest kind negative numerator denominator).Rounds negative
      (numerator / (denominator * kind.one)) where
  sign := rfl
  nearest hbelow := by
    have hordinal := (FloatKind.nearestOrdinal_lt_infinity_iff_lt_overflow hpositive).mpr hbelow
    have hfinite : (Binary.nearest kind negative numerator denominator).isFinite :=
      decide_eq_true (Nat.lt_of_le_of_lt (Nat.min_le_left _ _) hordinal)
    have hnearest := nearest_isNearest hpositive hfinite
    cases negative with
    | false => exact hnearest
    | true =>
        rw [if_pos rfl, Int.cast_neg, neg_div] at hnearest
        exact hnearest
  infinite habove := by
    rw [← not_lt, ← FloatKind.nearestOrdinal_lt_infinity_iff_lt_overflow hpositive, not_lt]
      at habove
    exact decide_eq_true (Nat.min_eq_right habove)

end Binary

namespace Decimal

variable {kind : FloatKind} {k : Nat} {d : Decimal}

/-- The value of a decimal. -/
def value (d : Decimal) : ℚ := d.significand * 10 ^ d.exponent

/-! ## Decimals in units -/

theorem inUnits_of_nonneg (kind : FloatKind) (hexponent : 0 ≤ d.exponent) :
    d.inUnits kind =
      (d.significand * 10 ^ d.exponent.toNat * 2 ^ kind.unitExponent, 1) := if_pos hexponent

theorem inUnits_of_neg (kind : FloatKind) (hexponent : ¬ 0 ≤ d.exponent) :
    d.inUnits kind =
      (d.significand * 2 ^ kind.unitExponent, 10 ^ (-d.exponent).toNat) := if_neg hexponent

theorem inUnits_pos (kind : FloatKind) (d : Decimal) : 0 < (d.inUnits kind).2 := by
  by_cases hexponent : 0 ≤ d.exponent
  · rw [inUnits_of_nonneg kind hexponent]
    exact Nat.one_pos
  · rw [inUnits_of_neg kind hexponent]
    exact Nat.pow_pos (by decide)

/-- Counting in units keeps the value of a decimal. -/
theorem inUnits_eq_value (kind : FloatKind) (d : Decimal) :
    ((d.inUnits kind).1 : ℚ) / ((d.inUnits kind).2 * kind.one) = d.value := by
  have hone := (Binary.cast_one_pos kind).ne'
  have hunit : kind.one = 2 ^ kind.unitExponent := rfl
  unfold value
  by_cases hexponent : 0 ≤ d.exponent
  · have hpower : (10 : ℚ) ^ d.exponent = 10 ^ d.exponent.toNat := by
      rw [← zpow_natCast, Int.toNat_of_nonneg hexponent]
    rw [inUnits_of_nonneg kind hexponent, ← hunit, hpower]
    push_cast
    field_simp
  · have hpower : (10 : ℚ) ^ d.exponent = (10 ^ (-d.exponent).toNat)⁻¹ := by
      rw [← zpow_natCast, ← zpow_neg, Int.toNat_of_nonneg (by omega), neg_neg]
    rw [inUnits_of_neg kind hexponent, ← hunit, hpower]
    push_cast
    field_simp

/-! ## The bounds -/

/-- What a number other than zero owns is at least half a unit. -/
theorem half_le_of_owns {numerator denominator : Nat} (hpositive : 0 < k)
    (howns : kind.owns k numerator denominator) : denominator ≤ 2 * numerator := by
  have hleast := (FloatKind.owns_iff.mp howns).1
  have hunits : 1 ≤ kind.units k := kind.units_pos hpositive
  calc
    denominator = 1 * denominator := (Nat.one_mul denominator).symm
    _ ≤ (kind.units (k - 1) + kind.units k) * denominator :=
        Nat.mul_le_mul_right _ (Nat.le_add_left_of_le hunits)
    _ ≤ 2 * numerator := hleast

theorem units_infinity_lt (kind : FloatKind) :
    kind.units kind.infinity < 2 ^ (kind.width * 32 + kind.unitExponent) := by
  cases kind <;> decide +kernel

/-- A huge decimal is beyond the value at which rounding overflows. -/
theorem lt_of_isHuge (hnonzero : d.significand ≠ 0) (hhuge : d.isHuge kind) :
    kind.units kind.infinity * (d.inUnits kind).2 < (d.inUnits kind).1 := by
  unfold isHuge at hhuge
  rw [Bool.and_eq_true, decide_eq_true_eq, decide_eq_true_eq] at hhuge
  obtain ⟨hexponent, hsize⟩ := hhuge
  have hten : 2 ^ (3 * d.exponent.toNat) ≤ 10 ^ d.exponent.toNat := by
    rw [Nat.pow_mul]
    exact Nat.pow_le_pow_left (by decide) _
  rw [inUnits_of_nonneg kind hexponent, Nat.mul_one]
  calc
    kind.units kind.infinity < 2 ^ (kind.width * 32 + kind.unitExponent) := units_infinity_lt kind
    _ ≤ 2 ^ (d.significand.log2 + 3 * d.exponent.toNat + kind.unitExponent) :=
      Nat.pow_le_pow_right (by decide) (by omega)
    _ = 2 ^ d.significand.log2 * 2 ^ (3 * d.exponent.toNat) * 2 ^ kind.unitExponent := by
      rw [Nat.pow_add, Nat.pow_add]
    _ ≤ _ := Nat.mul_le_mul_right _ (Nat.mul_le_mul (Nat.log2_self_le hnonzero) hten)

/-- A tiny decimal is less than half a unit. -/
theorem lt_of_isTiny (htiny : d.isTiny kind) : 2 * (d.inUnits kind).1 < (d.inUnits kind).2 := by
  unfold isTiny at htiny
  rw [Bool.and_eq_true, decide_eq_true_eq, decide_eq_true_eq] at htiny
  obtain ⟨hexponent, hsize⟩ := htiny
  have hsignificand : d.significand < 2 ^ (d.significand.log2 + 1) := Nat.lt_log2_self
  have hten : 2 ^ (3 * (-d.exponent).toNat) ≤ 10 ^ (-d.exponent).toNat := by
    rw [Nat.pow_mul]
    exact Nat.pow_le_pow_left (by decide) _
  rw [inUnits_of_neg kind (not_le.mpr hexponent)]
  calc
    2 * (d.significand * 2 ^ kind.unitExponent) <
        2 * (2 ^ (d.significand.log2 + 1) * 2 ^ kind.unitExponent) :=
      Nat.mul_lt_mul_of_pos_left
        (Nat.mul_lt_mul_of_pos_right hsignificand (Nat.two_pow_pos _)) (by decide)
    _ = 2 ^ (d.significand.log2 + kind.unitExponent + 2) := by ring
    _ ≤ 2 ^ (3 * (-d.exponent).toNat) := Nat.pow_le_pow_right (by decide) hsize
    _ ≤ 10 ^ (-d.exponent).toNat := hten

/-! ## Rounding -/

/-- The bounds do not change what a decimal is rounded to. -/
theorem round_eq_nearest (kind : FloatKind) (negative : Bool) (d : Decimal) :
    round kind negative d = .nearest kind negative (d.inUnits kind).1 (d.inUnits kind).2 := by
  have hscale := d.inUnits_pos kind
  have howns := kind.nearestOrdinal_owns (d.inUnits kind).1 hscale
  have hzero : 2 * (d.inUnits kind).1 < (d.inUnits kind).2 →
      kind.nearestOrdinal (d.inUnits kind).1 (d.inUnits kind).2 = 0 := by
    intro hsmall
    by_contra hpositive
    have hhalf := half_le_of_owns (Nat.pos_of_ne_zero hpositive) howns
    omega
  unfold round Binary.nearest
  split
  · rename_i hnone
    have hnumerator : (d.inUnits kind).1 = 0 := by
      unfold inUnits
      split <;> simp only [hnone, Nat.zero_mul]
    rw [hzero (by omega)]
  · rename_i hnonzero
    split
    · rename_i hhuge
      have hbeyond := lt_of_isHuge hnonzero hhuge
      have hinfinity : kind.infinity ≤
          kind.nearestOrdinal (d.inUnits kind).1 (d.inUnits kind).2 := by
        have hlast := Nat.mul_le_mul_right (d.inUnits kind).2
          (kind.units_strictMono.monotone (Nat.sub_le kind.infinity 1))
        rw [← not_lt, FloatKind.nearestOrdinal_lt_infinity_iff hscale, Nat.add_mul]
        omega
      unfold Binary.infinite
      exact Binary.ext rfl ((Nat.min_self _).trans (Nat.min_eq_right hinfinity).symm)
    · split
      · rename_i htiny
        rw [hzero (lt_of_isTiny htiny)]
      · rfl

/-- The value of a decimal is rounded once. -/
theorem round_rounds (kind : FloatKind) (negative : Bool) (d : Decimal) :
    (round kind negative d).Rounds negative d.value := by
  rw [round_eq_nearest, ← inUnits_eq_value kind d]
  exact Binary.nearest_rounds negative (d.inUnits_pos kind)

/-- Decimals of the same value are rounded to the same number. -/
theorem round_eq_of_value_eq {other : Decimal} (hvalue : other.value = d.value) (negative : Bool) :
    round kind negative other = round kind negative d :=
  (hvalue ▸ round_rounds kind negative other).unique (round_rounds kind negative d)

/-- A decimal is rounded to the number that owns it. -/
theorem round_of_ownsDecimal (howns : kind.ownsDecimal k d) (negative : Bool) :
    round kind negative d = .ofOrdinal kind negative k := by
  rw [round_eq_nearest, Binary.nearest,
    FloatKind.nearestOrdinal_eq_of_owns (d.inUnits_pos kind) howns]

end Decimal

end DynamicValue
