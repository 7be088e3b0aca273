/-
# Through the wide integers

The test whether a number is beyond the wide integers compares it with two numbers that are rounded,
but what it decides is exact: it holds of the numbers below minus two to the power of 127 and of
those from two to this power on. No integer kind contains any of these, and of all other numbers
without a fraction the wide integer part is the number itself.
-/

import DynamicValue.Number.Wide
import DynamicValue.Proofs.Number.Value

namespace DynamicValue.Binary

variable {kind : FloatKind} {x y : Binary kind}

/-! ## Comparisons -/

theorem isNaN_of_isFinite (hfinite : x.isFinite) : x.isNaN = false := by
  have hbound : x.magnitude < kind.infinity := of_decide_eq_true hfinite
  exact decide_eq_false (by omega)

section Comparing

variable (hx : x.isFinite) (hy : y.isFinite)
include hx hy

/-- Finite numbers are compared by their values. -/
theorem less_iff : x.less y ↔ x.value < y.value := by
  rw [value_lt_iff]
  simp [less, isNaN_of_isFinite hx, isNaN_of_isFinite hy]

theorem atMost_iff : x.atMost y ↔ x.value ≤ y.value := by
  rw [← not_lt, value_lt_iff, not_lt]
  simp [atMost, isNaN_of_isFinite hx, isNaN_of_isFinite hy]

end Comparing

/-! ## The ends of the wide integers -/

theorem value_of_signedUnits {n : Int} (hunits : x.signedUnits = n * kind.one) :
    x.value = (n : ℚ) := by
  unfold value
  rw [hunits, Int.cast_mul, Int.cast_natCast, mul_div_cancel_right₀ _ (cast_one_pos kind).ne']

/-- The lower end is a number of both formats. -/
theorem ofInt_least (kind : FloatKind) :
    (ofInt kind Wide.least).isFinite ∧ (ofInt kind Wide.least).value = -2 ^ 127 := by
  have hunits : (ofInt kind Wide.least).signedUnits = (-2 ^ 127 : Int) * kind.one := by
    cases kind <;> decide +kernel
  refine ⟨by cases kind <;> decide +kernel, ?_⟩
  rw [value_of_signedUnits hunits]
  norm_num

/-- The upper end is not, and becomes the integer after it. -/
theorem ofInt_greatest (kind : FloatKind) :
    (ofInt kind Wide.greatest).isFinite ∧ (ofInt kind Wide.greatest).value = 2 ^ 127 := by
  have hunits : (ofInt kind Wide.greatest).signedUnits = (2 ^ 127 : Int) * kind.one := by
    cases kind <;> decide +kernel
  refine ⟨by cases kind <;> decide +kernel, ?_⟩
  rw [value_of_signedUnits hunits]
  norm_num

section Finite

variable (hfinite : x.isFinite)
include hfinite

/-- What the test for being beyond the wide integers decides. -/
theorem isBeyondWide_iff : x.isBeyondWide ↔ x.value < -2 ^ 127 ∨ 2 ^ 127 ≤ x.value := by
  obtain ⟨hleast, hlower⟩ := ofInt_least kind
  obtain ⟨hgreatest, hupper⟩ := ofInt_greatest kind
  unfold isBeyondWide
  rw [Bool.or_eq_true, less_iff hfinite hleast, atMost_iff hgreatest hfinite, hlower, hupper]

/-- No integer kind contains a number that is beyond the wide integers. -/
theorem value_ne_of_isBeyondWide (hbeyond : x.isBeyondWide) {dest : IntKind} (n : dest.Value) :
    x.value ≠ (n.val : ℚ) := by
  intro hvalue
  have hbound := IntKind.natAbs_le n
  rw [isBeyondWide_iff hfinite, hvalue] at hbeyond
  rcases hbeyond with hbelow | habove
  · have hless : n.val < -2 ^ 127 := by exact_mod_cast hbelow
    omega
  · have hmore : 2 ^ 127 ≤ n.val := by exact_mod_cast habove
    omega

/-- A number without a fraction that is not beyond the wide integers becomes itself as one. -/
theorem saturated_eq_truncated (hintegral : x.isIntegral) (hwithin : ¬ x.isBeyondWide) :
    x.saturated = x.truncated := by
  have hvalue := value_eq_truncated hintegral
  rw [isBeyondWide_iff hfinite, hvalue, not_or, not_lt, not_le] at hwithin
  have hlower : -2 ^ 127 ≤ x.truncated := by exact_mod_cast hwithin.1
  have hupper : x.truncated < 2 ^ 127 := by exact_mod_cast hwithin.2
  have hleast : Wide.least = -2 ^ 127 := by decide
  have hgreatest : Wide.greatest = 2 ^ 127 - 1 := by decide
  unfold saturated
  rw [isNaN_of_isFinite hfinite, hleast, hgreatest]
  simp only [Bool.false_eq_true, if_false]
  omega

end Finite

/-! ## Fractions -/

/-- A number has no fraction if its value is an integer. -/
theorem isIntegral_iff : x.isIntegral ↔ ∃ n : Int, x.value = (n : ℚ) := by
  constructor
  · intro hintegral
    exact ⟨x.truncated, value_eq_truncated hintegral⟩
  · rintro ⟨n, hvalue⟩
    unfold value at hvalue
    rw [div_eq_iff (cast_one_pos kind).ne'] at hvalue
    have hunits : x.signedUnits = n * kind.one := by exact_mod_cast hvalue
    have hdivides : kind.one ∣ kind.units x.magnitude := by
      rw [← natAbs_signedUnits, hunits, Int.natAbs_mul, Int.natAbs_natCast]
      exact Nat.dvd_mul_left _ _
    exact decide_eq_true (Nat.mod_eq_zero_of_dvd hdivides)

/-! ## Widening -/

/-- A number of double width is its own double width. -/
theorem widen_double {x : Binary .double} (hnumber : x.isNaN = false) : x.widen = x := by
  have hordinal := ofOrdinal_magnitude hnumber
  unfold widen convert
  rw [if_neg (Bool.eq_false_iff.mp hnumber)]
  by_cases hinfinite : x.isInfinite
  · have hmagnitude : x.magnitude = FloatKind.double.infinity := of_decide_eq_true hinfinite
    rw [if_pos hinfinite, infinite, ← hmagnitude, hordinal]
  · have hexact : FloatKind.double.nearestOrdinal (x.units * FloatKind.double.one)
        FloatKind.double.one = x.magnitude :=
      FloatKind.nearestOrdinal_eq_of_owns FloatKind.double.one_pos
        (FloatKind.owns_of_eq FloatKind.double.one_pos rfl)
    rw [if_neg hinfinite, nearest, hexact, hordinal]

/-- A number without a value keeps this at double width. -/
theorem widen_of_not_isFinite (hinfinite : ¬ x.isFinite) : ¬ x.widen.isFinite := by
  have hbound : kind.infinity ≤ x.magnitude := not_lt.mp (mt (fun h => decide_eq_true h) hinfinite)
  unfold widen convert
  by_cases hnan : x.isNaN
  · rw [if_pos hnan]
    decide
  · have hnot : ¬ kind.infinity < x.magnitude := mt (fun h => decide_eq_true h) hnan
    have heq : x.isInfinite := decide_eq_true (by omega)
    rw [if_neg hnan, if_pos heq]
    cases x.negative <;> decide

/-- Whatever the format of a finite number is, it keeps its value at double width. -/
theorem widen_value_of_isFinite {source : FloatKind} {x : Binary source} (hfinite : x.isFinite) :
    x.widen.isFinite ∧ x.widen.value = x.value := by
  cases source with
  | single => exact widen_value hfinite
  | double =>
      rw [widen_double (isNaN_of_isFinite hfinite)]
      exact ⟨hfinite, rfl⟩

end DynamicValue.Binary
