/-
# No shorter decimal rounds to the number

The rational numbers that round to a number are an interval around it, from one point half-way to a
neighbour to the other one. If any point of a decimal grid lies in the interval, then one of the two
points of the grid next to the number does, so no grid is passed over by mistake. The search starts
at a grid that is too coarse to have such a point, and it stops at the first one that has some. So
every decimal of the interval stands on this grid or on a finer one.

A decimal with fewer digits would bring a power of ten into the interval, between itself and the
decimal that was found. But a power of ten with so many zeros stands on a coarser grid.
-/

import DynamicValue.Proofs.Decimal.Rounding
import DynamicValue.Proofs.Decimal.Shortest

namespace DynamicValue

namespace Decimal

theorem ten_zpow_pos (exponent : Int) : (0 : ℚ) < 10 ^ exponent := zpow_pos (by norm_num) exponent

end Decimal

namespace FloatKind

variable {kind : FloatKind} {k : Nat} {d other : Decimal} {exponent : Int}

/-! ## The interval of a number -/

/-- A decimal rounds to a number if it lies between the two points half-way to the neighbours. -/
theorem ownsDecimal_iff :
    kind.ownsDecimal k d ↔
      ((kind.units (k - 1) + kind.units k : Nat) : ℚ) ≤ 2 * kind.one * d.value ∧
      2 * kind.one * d.value ≤ (kind.units k + kind.units (k + 1) : Nat) ∧
      (k % 2 = 1 → ((kind.units (k - 1) + kind.units k : Nat) : ℚ) < 2 * kind.one * d.value ∧
        2 * kind.one * d.value < (kind.units k + kind.units (k + 1) : Nat)) := by
  have hone := (Binary.cast_one_pos kind).ne'
  have hscale : (0 : ℚ) < (d.inUnits kind).2 := by exact_mod_cast d.inUnits_pos kind
  have hvalue : 2 * kind.one * d.value = ((2 * (d.inUnits kind).1 : Nat) : ℚ) /
      (d.inUnits kind).2 := by
    rw [← Decimal.inUnits_eq_value kind d]
    push_cast
    field_simp
  unfold ownsDecimal
  rw [owns_iff, hvalue, le_div_iff₀ hscale, div_le_iff₀ hscale, lt_div_iff₀ hscale,
    div_lt_iff₀ hscale]
  exact_mod_cast Iff.rfl

/-- What lies between two decimals that round to a number rounds to it as well. -/
theorem ownsDecimal_of_between {low high : Decimal} (hlow : kind.ownsDecimal k low)
    (hhigh : kind.ownsDecimal k high) (habove : low.value ≤ d.value)
    (hbelow : d.value ≤ high.value) : kind.ownsDecimal k d := by
  have hscale : (0 : ℚ) ≤ 2 * kind.one := by positivity
  have hfirst := mul_le_mul_of_nonneg_left habove hscale
  have hsecond := mul_le_mul_of_nonneg_left hbelow hscale
  rw [ownsDecimal_iff] at hlow hhigh ⊢
  refine ⟨hlow.1.trans hfirst, hsecond.trans hhigh.2.1, fun hodd => ?_⟩
  exact ⟨(hlow.2.2 hodd).1.trans_le hfirst, hsecond.trans_lt (hhigh.2.2 hodd).2⟩

/-- Two spellings of one value round to the same number. -/
theorem ownsDecimal_of_value_eq (howns : kind.ownsDecimal k other)
    (hvalue : d.value = other.value) : kind.ownsDecimal k d :=
  ownsDecimal_of_between howns howns hvalue.ge hvalue.le

/-- Zero does not round to another number. -/
theorem significand_pos_of_ownsDecimal (hpositive : 0 < k) (howns : kind.ownsDecimal k d) :
    0 < d.significand := by
  apply Nat.pos_of_ne_zero
  intro hzero
  have hunits := kind.units_pos hpositive
  have hleast := (ownsDecimal_iff.mp howns).1
  have hvalue : d.value = 0 := by
    unfold Decimal.value
    rw [hzero, Nat.cast_zero, zero_mul]
  rw [hvalue, mul_zero] at hleast
  have hsum : kind.units (k - 1) + kind.units k ≤ 0 := by exact_mod_cast hleast
  omega

/-! ## One grid -/

theorem exactDecimal_value (kind : FloatKind) (k : Nat) :
    (kind.exactDecimal k).value = kind.units k / kind.one := by
  have hpower : (10 : ℚ) ^ kind.unitExponent = 5 ^ kind.unitExponent * 2 ^ kind.unitExponent := by
    rw [← mul_pow]
    norm_num
  have hone : (kind.one : ℚ) = 2 ^ kind.unitExponent := by
    rw [one, Nat.pow_eq, Nat.cast_pow, Nat.cast_ofNat]
  unfold Decimal.value exactDecimal
  rw [Nat.pow_eq, zpow_neg, zpow_natCast, hpower, hone]
  push_cast
  field_simp

/-- A number lies between the two points of a grid that are tried for it. -/
theorem grid_neighbours (kind : FloatKind) (k : Nat) (exponent : Int) :
    let spacing := Decimal.inUnits kind ⟨1, exponent⟩
    let quotient := kind.units k * spacing.2 / spacing.1
    Decimal.value ⟨quotient, exponent⟩ ≤ (kind.exactDecimal k).value ∧
      (kind.exactDecimal k).value ≤ Decimal.value ⟨quotient + 1, exponent⟩ := by
  intro spacing quotient
  have hone := Binary.cast_one_pos kind
  have hscale : (0 : ℚ) < spacing.2 := by exact_mod_cast Decimal.inUnits_pos kind _
  have hspacing : (spacing.1 : ℚ) = 10 ^ exponent * (spacing.2 * kind.one) := by
    have hvalue := Decimal.inUnits_eq_value kind ⟨1, exponent⟩
    unfold Decimal.value at hvalue
    rwa [Nat.cast_one, one_mul, div_eq_iff (mul_pos hscale hone).ne'] at hvalue
  have hpositive : 0 < spacing.1 := by
    have hcast : (0 : ℚ) < spacing.1 :=
      hspacing ▸ mul_pos (Decimal.ten_zpow_pos exponent) (mul_pos hscale hone)
    exact_mod_cast hcast
  have hpoint : ∀ n : Nat, Decimal.value ⟨n, exponent⟩ =
      (n * spacing.1 : Nat) / (spacing.2 * kind.one : ℚ) := by
    intro n
    rw [Nat.cast_mul, hspacing, ← mul_assoc, mul_div_assoc, div_self (mul_pos hscale hone).ne',
      mul_one]
    rfl
  have hexact : (kind.exactDecimal k).value =
      (kind.units k * spacing.2 : Nat) / (spacing.2 * kind.one : ℚ) := by
    rw [exactDecimal_value, Nat.cast_mul, mul_comm (kind.units k : ℚ),
      mul_div_mul_left _ _ hscale.ne']
  have hbelow : quotient * spacing.1 ≤ kind.units k * spacing.2 := Nat.div_mul_le_self _ _
  have habove : kind.units k * spacing.2 ≤ (quotient + 1) * spacing.1 := by
    rw [Nat.succ_mul]
    exact (Nat.lt_div_mul_add hpositive).le
  rw [hpoint, hpoint, hexact]
  constructor
  · exact div_le_div_of_nonneg_right (by exact_mod_cast hbelow) (mul_pos hscale hone).le
  · exact div_le_div_of_nonneg_right (by exact_mod_cast habove) (mul_pos hscale hone).le

/-- Points of one grid are ordered like their significands. -/
theorem value_le_value {m n : Nat} (hle : m ≤ n) (exponent : Int) :
    Decimal.value ⟨m, exponent⟩ ≤ Decimal.value ⟨n, exponent⟩ := by
  apply mul_le_mul_of_nonneg_right _ (Decimal.ten_zpow_pos exponent).le
  exact_mod_cast hle

/-- A grid with a point that rounds to a number is not passed over. -/
theorem exists_onGrid? {n : Nat} (hpositive : 0 < k) (howns : kind.ownsDecimal k ⟨n, exponent⟩) :
    ∃ d, kind.onGrid? k exponent = some d := by
  have hself : kind.ownsDecimal k (kind.exactDecimal k) := ownsDecimal_exactDecimal hpositive
  obtain ⟨hbelow, habove⟩ := kind.grid_neighbours k exponent
  unfold onGrid?
  simp only []
  generalize kind.units k * (Decimal.inUnits kind ⟨1, exponent⟩).2 /
    (Decimal.inUnits kind ⟨1, exponent⟩).1 = quotient at hbelow habove ⊢
  -- A point beside the number lies between the number and any point farther away.
  have hneighbour : kind.ownsDecimal k ⟨quotient, exponent⟩ ∨
      kind.ownsDecimal k ⟨quotient + 1, exponent⟩ := by
    rcases Nat.lt_or_ge quotient n with hless | hge
    · exact .inr (ownsDecimal_of_between hself howns habove (value_le_value hless exponent))
    · exact .inl (ownsDecimal_of_between howns hself (value_le_value hge exponent) hbelow)
  rcases hneighbour with hfound | hfound
  · rw [hfound]
    cases kind.ownsDecimal k ⟨quotient + 1, exponent⟩ with
    | true => exact ⟨_, rfl⟩
    | false => exact ⟨_, rfl⟩
  · rw [hfound]
    cases kind.ownsDecimal k ⟨quotient, exponent⟩ with
    | true => exact ⟨_, rfl⟩
    | false => exact ⟨_, rfl⟩

theorem exponent_of_onGrid? (hfound : kind.onGrid? k exponent = some d) :
    d.exponent = exponent := by
  unfold onGrid? at hfound
  simp only [] at hfound
  split at hfound
  · rw [← Option.some.inj hfound]
    split <;> rfl
  · rw [← Option.some.inj hfound]
  · rw [← Option.some.inj hfound]
  · cases hfound

/-! ## Where the search starts -/

/-- The next number is at most the next power of two. -/
theorem units_succ_le (hpositive : 0 < k) :
    kind.units (k + 1) ≤ 2 ^ ((kind.units k).log2 + 1) := by
  have hlog : kind.units k < 2 ^ ((kind.units k).log2 + 1) := Nat.lt_log2_self
  have hunits := kind.units_pos hpositive
  obtain ⟨significand, power, -, hself, hnext⟩ := kind.exists_units_succ_eq k
  generalize (kind.units k).log2 + 1 = size at hlog ⊢
  rw [hself] at hlog hunits
  have hsignificand : 0 < significand := Nat.pos_of_mul_pos_right hunits
  have hpower : 2 ^ power < 2 ^ size := by
    calc
      2 ^ power = 1 * 2 ^ power := (Nat.one_mul _).symm
      _ ≤ significand * 2 ^ power := Nat.mul_le_mul_right _ hsignificand
      _ < 2 ^ size := hlog
  have hle : power ≤ size := ((Nat.pow_lt_pow_iff_right (by decide)).mp hpower).le
  rw [← Nat.sub_add_cancel hle, Nat.pow_add] at hlog ⊢
  rw [hnext]
  exact Nat.mul_le_mul_right _ (Nat.lt_of_mul_lt_mul_right hlog)

/-- Three binary places are less than a decimal one, and ten of them more than three. -/
theorem two_zpow_le_coarsest (size : Int) :
    (2 : ℚ) ^ size ≤ 10 ^ (if 0 < size then size / 3 + 1 else -(-size * 3 / 10)) := by
  by_cases hpositive : 0 < size
  · rw [if_pos hpositive]
    calc
      (2 : ℚ) ^ size ≤ 2 ^ (3 * (size / 3 + 1)) := zpow_le_zpow_right₀ (by norm_num) (by omega)
      _ = 8 ^ (size / 3 + 1) := by
        rw [zpow_mul]
        norm_num
      _ ≤ 10 ^ (size / 3 + 1) := zpow_le_zpow_left₀ (by omega) (by norm_num) (by norm_num)
  · rw [if_neg hpositive]
    obtain ⟨places, hplaces⟩ : ∃ places : Nat, size = -(places : Int) :=
      ⟨(-size).toNat, by omega⟩
    obtain ⟨digits, hdigits⟩ : ∃ digits : Nat, -size * 3 / 10 = digits :=
      ⟨(-size * 3 / 10).toNat, by omega⟩
    have hten : (10 : ℚ) ^ digits ≤ 2 ^ places := by
      apply (pow_le_pow_iff_left₀ (by positivity) (by positivity) (by decide : 10 ≠ 0)).mp
      calc
        ((10 : ℚ) ^ digits) ^ 10 = 10 ^ (digits * 10) := (pow_mul _ _ _).symm
        _ ≤ 10 ^ (3 * places) := pow_le_pow_right₀ (by norm_num) (by omega)
        _ = 1000 ^ places := by
          rw [pow_mul]
          norm_num
        _ ≤ 1024 ^ places := pow_le_pow_left₀ (by norm_num) (by norm_num) _
        _ = (2 ^ places) ^ 10 := by
          rw [← pow_mul, mul_comm, pow_mul]
          norm_num
    rw [hdigits, hplaces, zpow_neg, zpow_neg, zpow_natCast, zpow_natCast]
    exact inv_anti₀ (by positivity) hten

/-- A decimal that rounds to a number stands on a finer grid than the one that the search starts at.
-/
theorem exponent_lt_coarsest (hpositive : 0 < k) (howns : kind.ownsDecimal k d) :
    d.exponent < kind.coarsestExponent k := by
  by_contra hcoarse
  have hone := Binary.cast_one_pos kind
  have hunit : (kind.one : ℚ) = 2 ^ (kind.unitExponent : Int) := by
    rw [one, Nat.pow_eq, Nat.cast_pow, Nat.cast_ofNat, zpow_natCast]
  have hsignificand : (1 : ℚ) ≤ d.significand := by
    exact_mod_cast significand_pos_of_ownsDecimal hpositive howns
  have hself : kind.units k < 2 ^ ((kind.units k).log2 + 1) := Nat.lt_log2_self
  have hnext := @units_succ_le kind k hpositive
  have hsum : kind.units k + kind.units (k + 1) < 2 * 2 ^ ((kind.units k).log2 + 1) := by omega
  have hvalue : d.value * kind.one < 2 ^ ((kind.units k).log2 + 1) := by
    have hupper := (ownsDecimal_iff.mp howns).2.1
    have hcast : ((kind.units k + kind.units (k + 1) : Nat) : ℚ) <
        2 * 2 ^ ((kind.units k).log2 + 1) := by exact_mod_cast hsum
    linarith
  have hpower : (2 : ℚ) ^ ((kind.units k).log2 + 1) =
      2 ^ (((kind.units k).log2 : Int) + 1 - kind.unitExponent) * kind.one := by
    rw [hunit, ← zpow_add₀ (by norm_num), sub_add_cancel, ← Nat.cast_succ, zpow_natCast]
  have hbound : (2 : ℚ) ^ (((kind.units k).log2 : Int) + 1 - kind.unitExponent) ≤ d.value := by
    calc
      _ ≤ (10 : ℚ) ^ kind.coarsestExponent k := two_zpow_le_coarsest _
      _ ≤ 10 ^ d.exponent := zpow_le_zpow_right₀ (by norm_num) (not_lt.mp hcoarse)
      _ ≤ d.value := le_mul_of_one_le_left (Decimal.ten_zpow_pos _).le hsignificand
  have hproduct := mul_le_mul_of_nonneg_right hbound hone.le
  rw [← hpower] at hproduct
  exact absurd hvalue (not_lt.mpr hproduct)

theorem neg_unitExponent_le_coarsest (kind : FloatKind) (k : Nat) :
    -(kind.unitExponent : Int) ≤ kind.coarsestExponent k := by
  unfold coarsestExponent
  simp only []
  split <;> omega

/-! ## The search -/

/-- The search does not pass over a grid with a point that rounds to the number. It ends at the
units of the format, where the number itself is such a point. -/
theorem exponent_le_searchGrids (hpositive : 0 < k) (howns : kind.ownsDecimal k other)
    {steps : Nat} (hsteps : exponent = steps - kind.unitExponent)
    (hle : other.exponent ≤ exponent) :
    other.exponent ≤ (kind.searchGrids k steps exponent).exponent := by
  induction steps generalizing exponent with
  | zero =>
      show other.exponent ≤ -(kind.unitExponent : Int)
      omega
  | succ steps ih =>
      unfold searchGrids
      cases hgrid : kind.onGrid? k exponent with
      | some d =>
          rw [Option.getD_some, exponent_of_onGrid? hgrid]
          exact hle
      | none =>
          have hne : other.exponent ≠ exponent := by
            rintro rfl
            obtain ⟨d, hfound⟩ := exists_onGrid? hpositive howns
            rw [hgrid] at hfound
            cases hfound
          rw [Option.getD_none]
          exact ih (by omega) (by omega)

/-- Every decimal that rounds to a number stands on the grid of its shortest decimal or on a finer
one. -/
theorem exponent_le_shortestDecimal (hpositive : 0 < k) (howns : kind.ownsDecimal k other) :
    other.exponent ≤ (kind.shortestDecimal k).exponent := by
  have hcoarsest := exponent_lt_coarsest hpositive howns
  have hunit := kind.neg_unitExponent_le_coarsest k
  exact exponent_le_searchGrids hpositive howns (by omega) hcoarsest.le

/-! ## The digits of the shortest decimal -/

theorem shortestDecimal_significand_pos (hpositive : 0 < k) :
    0 < (kind.shortestDecimal k).significand :=
  significand_pos_of_ownsDecimal hpositive (ownsDecimal_shortestDecimal hpositive)

/-- The shortest decimal has no zero at its end: without it the decimal would stand on a coarser
grid. -/
theorem shortestDecimal_mod_ten (hpositive : 0 < k) :
    (kind.shortestDecimal k).significand % 10 ≠ 0 := by
  intro hzero
  have howns : kind.ownsDecimal k (kind.shortestDecimal k) := ownsDecimal_shortestDecimal hpositive
  have htenth : (kind.shortestDecimal k).significand =
      (kind.shortestDecimal k).significand / 10 * 10 := by omega
  have hvalue : Decimal.value ⟨(kind.shortestDecimal k).significand / 10,
      (kind.shortestDecimal k).exponent + 1⟩ = (kind.shortestDecimal k).value := by
    unfold Decimal.value
    rw [zpow_add_one₀ (by norm_num)]
    nth_rewrite 2 [htenth]
    push_cast
    ring
  have hcoarser := exponent_le_shortestDecimal hpositive (ownsDecimal_of_value_eq howns hvalue)
  exact absurd hcoarser (not_le.mpr (lt_add_one _))

/-- Every decimal that rounds to a number has at least the digits of its shortest one. -/
theorem shortestDecimal_lt_of_owns (hpositive : 0 < k) (howns : kind.ownsDecimal k other)
    {digits : Nat} (hdigits : other.significand < 10 ^ digits) :
    (kind.shortestDecimal k).significand < 10 ^ digits := by
  have hself : kind.ownsDecimal k (kind.shortestDecimal k) := ownsDecimal_shortestDecimal hpositive
  have hcoarsest := fun d => @exponent_le_shortestDecimal kind k d hpositive
  generalize kind.shortestDecimal k = shortest at hself hcoarsest ⊢
  have hexponent := hcoarsest other howns
  by_contra hmore
  have hpower : Decimal.value ⟨1, digits + shortest.exponent⟩ =
      Decimal.value ⟨10 ^ digits, shortest.exponent⟩ := by
    unfold Decimal.value
    rw [zpow_add₀ (by norm_num)]
    push_cast
    rw [zpow_natCast, one_mul]
  have hbelow : other.value ≤ Decimal.value ⟨1, digits + shortest.exponent⟩ := by
    rw [hpower]
    calc
      other.value ≤ Decimal.value ⟨10 ^ digits, other.exponent⟩ := value_le_value hdigits.le _
      _ ≤ Decimal.value ⟨10 ^ digits, shortest.exponent⟩ := by
        apply mul_le_mul_of_nonneg_left _ (Nat.cast_nonneg _)
        exact zpow_le_zpow_right₀ (by norm_num) hexponent
  have habove : Decimal.value ⟨1, digits + shortest.exponent⟩ ≤ shortest.value := by
    rw [hpower]
    exact value_le_value (not_lt.mp hmore) _
  have hcoarser : digits + shortest.exponent ≤ shortest.exponent :=
    hcoarsest _ (ownsDecimal_of_between howns hself hbelow habove)
  have hnone : digits = 0 := by omega
  rw [hnone, Nat.pow_zero] at hdigits
  have hsome := significand_pos_of_ownsDecimal hpositive howns
  omega

end FloatKind

end DynamicValue
