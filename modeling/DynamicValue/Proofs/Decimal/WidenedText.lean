/-
# Texts of widened numbers

A number of single width that is written at double width is read back to itself at its own width.
The text is the shortest decimal of the wide number, so it lies in the interval that this number
owns. This interval is inside of the one that the narrow number owns: the ends of the latter are
half-way between two neighbours of single width, and there are numbers of double width at these
points, which own their surroundings themselves.
-/

import DynamicValue.Proofs.Decimal.Reading

namespace DynamicValue

namespace FloatKind

section Widened

/- A narrow and a wide ordinal of the same value, and a fraction in units of either format. -/
variable {k wide numerator wideNumerator denominator : Nat}
  (hvalue : double.units wide * single.one = single.units k * double.one)
  (hfraction : wideNumerator * single.one = numerator * double.one)
  (hpositive : 0 < denominator) (howns : double.owns wide wideNumerator denominator)
include hvalue hfraction hpositive howns

/-- What the wide number owns is above the lower end of the interval of the narrow one. -/
theorem lt_of_owns_widened (hk : 0 < k) :
    (single.units (k - 1) + single.units k) * denominator < 2 * numerator := by
  obtain ⟨middle, hmiddle⟩ := exists_double_midpoint (k - 1)
  rw [Nat.sub_add_cancel hk] at hmiddle
  have hbelow : middle < wide := by
    apply double.units_strictMono.lt_iff_lt.mp
    apply Nat.lt_of_mul_lt_mul_right (a := single.one)
    have hhalf : single.units (k - 1) + single.units k < 2 * single.units k := by
      have hless : single.units (k - 1) < single.units k := single.units_strictMono (by omega)
      omega
    have hscaled := Nat.mul_lt_mul_of_pos_right hhalf double.one_pos
    rw [← hmiddle, Nat.mul_assoc, Nat.mul_assoc, ← hvalue] at hscaled
    omega
  -- The point half-way is a wide number below this one, so it is not above its lower neighbour.
  have hends : 2 * double.units middle < double.units (wide - 1) + double.units wide := by
    have hself := double.units_strictMono hbelow
    have hprevious : double.units middle ≤ double.units (wide - 1) :=
      double.units_strictMono.monotone (by omega)
    omega
  apply Nat.lt_of_mul_lt_mul_right (a := double.one)
  calc
    (single.units (k - 1) + single.units k) * denominator * double.one =
        2 * double.units middle * denominator * single.one := by
      rw [Nat.mul_right_comm, ← hmiddle, Nat.mul_right_comm]
    _ < (double.units (wide - 1) + double.units wide) * denominator * single.one :=
      Nat.mul_lt_mul_of_pos_right (Nat.mul_lt_mul_of_pos_right hends hpositive) single.one_pos
    _ ≤ 2 * wideNumerator * single.one := Nat.mul_le_mul_right _ (owns_iff.mp howns).1
    _ = 2 * numerator * double.one := by rw [Nat.mul_assoc, hfraction, ← Nat.mul_assoc]

/-- What the wide number owns is below the upper end of the interval of the narrow one. -/
theorem gt_of_owns_widened :
    2 * numerator < (single.units k + single.units (k + 1)) * denominator := by
  obtain ⟨middle, hmiddle⟩ := exists_double_midpoint k
  have habove : wide < middle := by
    apply double.units_strictMono.lt_iff_lt.mp
    apply Nat.lt_of_mul_lt_mul_right (a := single.one)
    have hhalf : 2 * single.units k < single.units k + single.units (k + 1) := by
      have hless := single.units_lt_succ k
      omega
    have hscaled := Nat.mul_lt_mul_of_pos_right hhalf double.one_pos
    rw [← hmiddle, Nat.mul_assoc, Nat.mul_assoc, ← hvalue] at hscaled
    omega
  have hends : double.units wide + double.units (wide + 1) < 2 * double.units middle := by
    have hself := double.units_strictMono habove
    have hnext : double.units (wide + 1) ≤ double.units middle :=
      double.units_strictMono.monotone habove
    omega
  apply Nat.lt_of_mul_lt_mul_right (a := double.one)
  calc
    2 * numerator * double.one = 2 * wideNumerator * single.one := by
      rw [Nat.mul_assoc, ← hfraction, ← Nat.mul_assoc]
    _ ≤ (double.units wide + double.units (wide + 1)) * denominator * single.one :=
      Nat.mul_le_mul_right _ (owns_iff.mp howns).2.1
    _ < 2 * double.units middle * denominator * single.one :=
      Nat.mul_lt_mul_of_pos_right (Nat.mul_lt_mul_of_pos_right hends hpositive) single.one_pos
    _ = (single.units k + single.units (k + 1)) * denominator * double.one := by
      rw [Nat.mul_right_comm, hmiddle, Nat.mul_right_comm]

/-- What the wide number owns, the narrow one owns as well. -/
theorem owns_of_owns_widened : single.owns k numerator denominator := by
  have hbelow := gt_of_owns_widened hvalue hfraction hpositive howns
  rcases Nat.eq_zero_or_pos k with rfl | hk
  · rw [owns_iff]
    refine ⟨?_, hbelow.le, fun hodd => absurd hodd (by decide)⟩
    rw [Nat.zero_sub, units_zero, Nat.add_zero, Nat.zero_mul]
    exact Nat.zero_le _
  · have habove := lt_of_owns_widened hvalue hfraction hpositive howns hk
    exact owns_iff.mpr ⟨habove.le, hbelow.le, fun _ => ⟨habove, hbelow⟩⟩

end Widened

/-- A decimal that rounds to a wide number rounds to the narrow one of the same value. -/
theorem ownsDecimal_of_widened {k wide : Nat} {d : Decimal}
    (hvalue : double.units wide * single.one = single.units k * double.one)
    (howns : double.ownsDecimal wide d) : single.ownsDecimal k d := by
  have hfraction : (d.inUnits double).1 * single.one = (d.inUnits single).1 * double.one ∧
      (d.inUnits double).2 = (d.inUnits single).2 := by
    unfold Decimal.inUnits
    split
    · exact ⟨Nat.mul_right_comm _ _ _, rfl⟩
    · exact ⟨Nat.mul_right_comm _ _ _, rfl⟩
  unfold ownsDecimal at howns ⊢
  simp only [hfraction.2] at howns ⊢
  exact owns_of_owns_widened hvalue hfraction.1 (d.inUnits_pos single) howns

end FloatKind

namespace Binary

variable {x : Binary .single}

/-- What is written for a number of single width at double width is read back to the number. -/
theorem read?_text_widen (hnumber : x.isNaN = false) : read? .single x.widen.text = some x := by
  have hbound : x.magnitude ≤ FloatKind.single.infinity := not_lt.mp (of_decide_eq_false hnumber)
  rcases hbound.lt_or_eq with hfinite | hinfinite
  · obtain ⟨wide, hbelow, hwidened, hunits⟩ := exists_widen_eq (decide_eq_true hfinite)
    have hmagnitude : x.widen.magnitude = wide := by
      rw [hwidened]
      exact Nat.min_eq_left hbelow.le
    have hsign : x.widen.negative = x.negative := by
      rw [hwidened]
      rfl
    have howns := x.widen.ownsDecimal_shortest
    rw [hmagnitude] at howns
    have hspelling := text_spelling_of_isFinite (x := x.widen)
      (decide_eq_true (hmagnitude ▸ hbelow))
    rw [read?_of_rational hspelling, hsign,
      Decimal.round_of_ownsDecimal (FloatKind.ownsDecimal_of_widened hunits howns),
      ofOrdinal_magnitude hnumber]
  · have hwidened : x.widen = infinite .double x.negative := by
      have hinfinity : x.isInfinite := decide_eq_true hinfinite
      unfold widen convert
      rw [if_neg (Bool.eq_false_iff.mp hnumber), if_pos hinfinity]
    have hspelling := text_spelling_of_isInfinite (x := infinite .double x.negative) rfl
    rw [hwidened, read?_of_infinity hspelling]
    show some (infinite .single x.negative) = some x
    rw [infinite, ← hinfinite, ofOrdinal_magnitude hnumber]

/-- What is not a number stays so at double width, and its text is read as such. -/
theorem read?_text_widen_of_isNaN (hnan : x.isNaN) :
    read? .single x.widen.text = some (notANumber .single) := by
  have hwidened : x.widen = notANumber .double := if_pos hnan
  rw [hwidened]
  exact read?_of_notANumber (text_spelling_of_isNaN (notANumber_isNaN .double))

end Binary

end DynamicValue
