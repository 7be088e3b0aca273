/-
# Rounded integers

An integer of up to 64 bits rounds to an integer again: below the point from which on a format has
integers only, the format has all of them, and rounding does not lead back across that point.
Rounding also keeps the order, so an integer stays between two numbers of the format that it lies
between. The ends of a range of integers are such numbers, where the range has an excluded upper
end.
-/

import DynamicValue.Proofs.Number.Wide

namespace DynamicValue

namespace Binary

variable {kind : FloatKind} {x y : Binary kind} {q : ℚ} {n : Int}

/-! ## Rounding and order -/

/-- What is nearest to the value of a number has this value. -/
theorem IsNearest.value_eq (hx : x.IsNearest q) (hy : y.isFinite) (hvalue : y.value = q) :
    x.value = q := by
  have hdistance := hx.nearest y hy
  rw [hvalue, sub_self, abs_zero] at hdistance
  exact sub_eq_zero.mp (abs_eq_zero.mp (le_antisymm hdistance (abs_nonneg _)))

/-- Rounding does not lead to the other side of a number below. -/
theorem IsNearest.le_value (hx : x.IsNearest q) (hy : y.isFinite) (hle : y.value ≤ q) :
    y.value ≤ x.value := by
  by_contra hless
  rw [not_le] at hless
  have hdistance := hx.nearest y hy
  rw [abs_of_nonpos (by linarith), abs_of_nonpos (by linarith)] at hdistance
  linarith

/-- Rounding does not lead to the other side of a number above. -/
theorem IsNearest.value_le (hx : x.IsNearest q) (hy : y.isFinite) (hle : q ≤ y.value) :
    x.value ≤ y.value := by
  by_contra hless
  rw [not_le] at hless
  have hdistance := hx.nearest y hy
  rw [abs_of_nonneg (by linarith), abs_of_nonneg (by linarith)] at hdistance
  linarith

/-! ## Integers of a format -/

/-- A significand that fits, times a power of two, is a number of the format. -/
theorem exists_value_eq_intCast (kind : FloatKind) {significand power : Nat}
    (hfits : significand ≤ 2 * kind.binade) (hsmall : significand * 2 ^ power ≤ 2 ^ 64)
    (hn : n.natAbs = significand * 2 ^ power) :
    ∃ y : Binary kind, y.isFinite ∧ y.value = n := by
  obtain ⟨k, hunits⟩ := kind.exists_units_eq hfits (power + kind.unitExponent)
  have hmultiple : kind.units k = n.natAbs * kind.one := by
    rw [hunits, hn, Nat.pow_add, ← Nat.mul_assoc]
    rfl
  have hroom : 2 ^ 64 * kind.one < kind.units kind.infinity := by
    cases kind <;> decide +kernel
  have hbelow : k < kind.infinity := by
    apply kind.units_strictMono.lt_iff_lt.mp
    rw [hmultiple, hn]
    exact Nat.lt_of_le_of_lt (Nat.mul_le_mul_right _ hsmall) hroom
  obtain ⟨y, hmagnitude, hnegative⟩ : ∃ y : Binary kind, y.magnitude = k ∧
      y.negative = decide (n < 0) :=
    ⟨ofOrdinal kind (decide (n < 0)) k, Nat.min_eq_left hbelow.le, rfl⟩
  refine ⟨y, decide_eq_true (by rwa [hmagnitude]), value_of_signedUnits ?_⟩
  rw [signedUnits_eq, hmagnitude, hmultiple, hnegative, Nat.cast_mul]
  by_cases hless : n < 0
  · rw [if_pos (decide_eq_true hless), ← neg_mul, Int.ofNat_natAbs_of_nonpos hless.le, neg_neg]
  · rw [if_neg (by simpa using hless), Int.natAbs_of_nonneg (not_lt.mp hless)]

/-- Small integers are numbers of the format. -/
theorem exists_value_eq_of_small (kind : FloatKind) (hsmall : n.natAbs ≤ 2 * kind.binade) :
    ∃ y : Binary kind, y.isFinite ∧ y.value = n := by
  have hbinade : 2 * kind.binade ≤ 2 ^ 64 := by cases kind <;> decide
  have hn : n.natAbs = n.natAbs * 2 ^ 0 := (Nat.mul_one _).symm
  exact exists_value_eq_intCast kind hsmall (by omega) hn

/-- Great numbers have no fraction: there is no room for one beside their whole part. -/
theorem isIntegral_of_le (hlarge : (2 * kind.binade : ℚ) ≤ |x.value|) : x.isIntegral := by
  rw [abs_value, le_div_iff₀ (cast_one_pos kind)] at hlarge
  have hunits : 2 * kind.binade * kind.one ≤ kind.units x.magnitude := by exact_mod_cast hlarge
  obtain ⟨significand, power, hfits, hself, -⟩ := kind.exists_units_succ_eq x.magnitude
  rw [hself] at hunits
  have hpower : kind.one < 2 ^ power ∨ kind.one = 2 ^ power := by
    rw [← le_iff_lt_or_eq]
    by_contra hless
    have hproduct : significand * 2 ^ power < 2 * kind.binade * kind.one :=
      Nat.mul_lt_mul'' hfits (not_le.mp hless)
    omega
  have hdivides : kind.one ∣ 2 ^ power := by
    apply Nat.pow_dvd_pow 2
    rw [← Nat.pow_le_pow_iff_right (by decide : 1 < 2)]
    exact hpower.elim le_of_lt le_of_eq
  have hmultiple : kind.one ∣ x.units := by
    show kind.one ∣ kind.units x.magnitude
    rw [hself]
    exact Dvd.dvd.mul_left hdivides significand
  exact decide_eq_true (Nat.mod_eq_zero_of_dvd hmultiple)

/-- An integer rounds to an integer. -/
theorem IsNearest.exists_value_eq (hx : x.IsNearest (n : ℚ)) : ∃ m : Int, x.value = m := by
  by_cases hsmall : n.natAbs ≤ 2 * kind.binade
  · obtain ⟨y, hy, hvalue⟩ := exists_value_eq_of_small kind hsmall
    exact ⟨n, hx.value_eq hy hvalue⟩
  · apply isIntegral_iff.mp
    apply isIntegral_of_le
    rcases le_total 0 n with hpositive | hnegative
    · obtain ⟨y, hy, hvalue⟩ :=
        exists_value_eq_of_small (n := (2 * kind.binade : Nat)) kind (Int.natAbs_natCast _).le
      have hle : ((2 * kind.binade : Nat) : Int) ≤ n := by omega
      have hbound := hx.le_value hy (by rw [hvalue]; exact_mod_cast hle)
      rw [hvalue] at hbound
      push_cast at hbound
      exact hbound.trans (le_abs_self _)
    · obtain ⟨y, hy, hvalue⟩ := exists_value_eq_of_small (n := -(2 * kind.binade : Nat)) kind
        ((Int.natAbs_neg _).trans (Int.natAbs_natCast _)).le
      have hle : n ≤ -((2 * kind.binade : Nat) : Int) := by omega
      have hbound := hx.value_le hy (by rw [hvalue]; exact_mod_cast hle)
      rw [hvalue] at hbound
      push_cast at hbound
      exact (le_neg.mp hbound).trans (neg_le_abs _)

end Binary

namespace IntKind

/-- The ends of a range of integers, the upper one excluded, are zero or powers of two. -/
theorem ends_eq (source : IntKind) :
    (∃ significand power, significand ≤ 1 ∧ significand * 2 ^ power ≤ 2 ^ 64 ∧
      source.least.natAbs = significand * 2 ^ power) ∧
    ∃ significand power, significand ≤ 1 ∧ significand * 2 ^ power ≤ 2 ^ 64 ∧
      (source.greatest + 1).natAbs = significand * 2 ^ power := by
  obtain ⟨signed, width⟩ := source
  cases signed with
  | true =>
      refine ⟨⟨1, width.bits - 1, le_rfl, ?_, ?_⟩, ⟨1, width.bits - 1, le_rfl, ?_, ?_⟩⟩ <;>
        cases width <;> decide
  | false =>
      refine ⟨⟨0, 0, by decide, by decide, rfl⟩, ⟨1, width.bits, le_rfl, ?_, ?_⟩⟩ <;>
        cases width <;> decide

end IntKind

namespace Binary

variable {kind : FloatKind} {x : Binary kind} {source : IntKind} {n : source.Value} {m : Int}

/-- An integer of a kind does not round to less than the least one of the kind, and at most to the
one behind the greatest. -/
theorem IsNearest.le_and_le (hx : x.IsNearest (n.val : ℚ)) (hvalue : x.value = m) :
    source.least ≤ m ∧ m ≤ source.greatest + 1 := by
  have hone : 1 ≤ 2 * kind.binade := by cases kind <;> decide
  obtain ⟨⟨low, power, hlow, hsmall, hleast⟩, ⟨high, power', hhigh, hsmall', hgreatest⟩⟩ :=
    source.ends_eq
  obtain ⟨least, hfinite, hleastValue⟩ :=
    exists_value_eq_intCast kind (hlow.trans hone) hsmall hleast
  obtain ⟨greatest, hfinite', hgreatestValue⟩ :=
    exists_value_eq_intCast kind (hhigh.trans hone) hsmall' hgreatest
  have hbelow := hx.le_value hfinite (by rw [hleastValue]; exact_mod_cast n.property.1)
  have habove := hx.value_le hfinite' (by
    rw [hgreatestValue]
    exact_mod_cast n.property.2.trans (Int.le_add_one le_rfl))
  rw [hvalue, hleastValue] at hbelow
  rw [hvalue, hgreatestValue] at habove
  exact ⟨by exact_mod_cast hbelow, by exact_mod_cast habove⟩

/-- The greatest integers of 64 bits round to the ones behind them. -/
theorem ofInt_greatest_value (kind : FloatKind) (hwide : source.width.bits = 64) :
    (ofInt kind source.greatest).value = ((source.greatest + 1 : Int) : ℚ) := by
  apply value_of_signedUnits
  obtain ⟨signed, width⟩ := source
  have hcases : (⟨signed, width⟩ : IntKind).greatest = 2 ^ 63 - 1 ∨
      (⟨signed, width⟩ : IntKind).greatest = 2 ^ 64 - 1 := by
    cases signed <;> cases width <;> first | exact absurd hwide (by decide) | decide
  rcases hcases with heq | heq <;> rw [heq] <;> cases kind <;> decide +kernel

end Binary

end DynamicValue
