/-
# Integers in texts

A text that denotes an integer is a sign and a row of digits, and it denotes a floating-point number
as well: the one nearest to that integer. The text of an integer denotes it in every kind that
contains it and in no other kind, and it denotes the same floating-point number that the integer
becomes.
-/

import DynamicValue.Proofs.Decimal.Reading
import DynamicValue.Proofs.Number.Value

namespace DynamicValue

namespace Decimal

/-- The text of an integer is its sign and the digits of its absolute value. -/
theorem splitSign_integerText (n : Int) :
    splitSign (integerText n).toList = (decide (n < 0), naturalDigits n.natAbs) := by
  unfold integerText
  rw [String.toList_ofList]
  by_cases hnegative : n < 0
  · rw [if_pos hnegative, decide_eq_true hnegative]
    rfl
  · obtain ⟨c, rest, hcons, hdigit⟩ :=
      exists_digit_of_ne_nil (naturalDigits_isDigit n.natAbs) (naturalDigits_ne_nil _)
    rw [if_neg hnegative, decide_eq_false hnegative, hcons, splitSign_of_isDigit hdigit]

theorem withSign_natAbs (n : Int) : withSign (decide (n < 0)) n.natAbs = n := by
  unfold withSign
  by_cases hnegative : n < 0
  · rw [if_pos (decide_eq_true hnegative)]
    omega
  · rw [if_neg (by simpa using hnegative)]
    omega

/-- A row of digits is rounded like the integer that it denotes. -/
theorem round_natural (kind : FloatKind) (negative : Bool) (n : Nat) :
    round kind negative ⟨n, 0⟩ = .nearest kind negative (n * kind.one) 1 := by
  have hunits : inUnits kind ⟨n, 0⟩ = (n * kind.one, 1) := by
    rw [inUnits_of_nonneg kind (le_refl 0)]
    show (n * 10 ^ 0 * _, 1) = _
    rw [Nat.pow_zero, Nat.mul_one]
    rfl
  rw [round_eq_nearest, hunits]

end Decimal

namespace IntKind

/-- An integer is read as its sign and its digits; only signed kinds take a minus. -/
theorem read?_eq (kind : IntKind) (text : String) :
    kind.read? text =
      if (Decimal.splitSign text.toList).1 = true ∧ kind.signed = false then none
      else (Decimal.natural? (Decimal.splitSign text.toList).2).bind fun n =>
        kind.ofInt? (Decimal.withSign (Decimal.splitSign text.toList).1 n) := by
  unfold read?
  generalize text.toList = cs
  split
  · rename_i digits
    rw [readDigits?_eq]
    cases hsigned : kind.signed
    · rfl
    · rfl
  · rw [readDigits?_eq]
    rfl
  · rename_i digits hminus hplus
    rw [Decimal.splitSign_of_ne hminus hplus, readDigits?_eq]
    rfl

/-- The text of an integer denotes it in each kind that contains it. -/
theorem read?_integerText_eq (kind : IntKind) (n : Int) :
    kind.read? (Decimal.integerText n) = kind.ofInt? n := by
  rw [read?_eq, Decimal.splitSign_integerText]
  simp only [Decimal.natural?_naturalDigits, Option.bind_some, Decimal.withSign_natAbs,
    decide_eq_true_eq]
  split
  · rename_i hunsigned
    have hout : ¬ kind.Contains n := by
      intro hcontains
      have hleast : kind.least = 0 := by
        unfold least
        rw [hunsigned.2]
        rfl
      have hrange := hcontains.1
      omega
    unfold ofInt?
    rw [dif_neg hout]
  · rfl

/-- A text that denotes an integer is a sign and its digits. -/
theorem exists_digits_of_read? {kind : IntKind} {text : String} {n : kind.Value}
    (hread : kind.read? text = some n) :
    ∃ magnitude, Decimal.natural? (Decimal.splitSign text.toList).2 = some magnitude ∧
      Decimal.withSign (Decimal.splitSign text.toList).1 magnitude = n.val := by
  rw [read?_eq] at hread
  split at hread
  · cases hread
  · obtain ⟨magnitude, hdigits, hvalue⟩ := Option.bind_eq_some_iff.mp hread
    exact ⟨magnitude, hdigits, (ofInt?_eq_some_iff.mp hvalue).symm⟩

end IntKind

namespace Binary

/-- A sign and a row of digits denote the number nearest to the integer that they denote. -/
theorem read?_of_digits (kind : FloatKind) (text : String) {magnitude : Nat}
    (hdigits : Decimal.natural? (Decimal.splitSign text.toList).2 = some magnitude) :
    read? kind text =
      some (nearest kind (Decimal.splitSign text.toList).1 (magnitude * kind.one) 1) := by
  have hspelling : Decimal.Spelling (Decimal.splitSign text.toList).2
      (Decimal.value ⟨magnitude, 0⟩) := by
    have hinteger := Decimal.Spelling.integer (Decimal.natural?_eq_some_iff.mp hdigits) .absent
    rw [List.append_nil] at hinteger
    exact hinteger
  rw [read?_of_rational (.rational (Decimal.signed_splitSign _) hspelling), Decimal.round_natural]

/-- The text of an integer denotes the number that the integer becomes. -/
theorem read?_integerText {source : IntKind} (kind : FloatKind) (n : source.Value) :
    read? kind (Decimal.integerText n.val) = some (ofInt kind n.val) := by
  have hsign := Decimal.splitSign_integerText n.val
  have hdigits : Decimal.natural? (Decimal.splitSign (Decimal.integerText n.val).toList).2 =
      some n.val.natAbs := by
    rw [hsign]
    exact Decimal.natural?_naturalDigits _
  rw [read?_of_digits kind _ hdigits, hsign]
  rfl

/-- A text that denotes an integer denotes the number nearest to it. -/
theorem exists_read?_isNearest {source : IntKind} (kind : FloatKind) {text : String}
    {n : source.Value} (hread : source.read? text = some n) :
    ∃ x, read? kind text = some x ∧ x.IsNearest (n.val : ℚ) := by
  obtain ⟨magnitude, hdigits, hvalue⟩ := IntKind.exists_digits_of_read? hread
  have hsmall : magnitude ≤ 2 ^ 64 := by
    have hbound := IntKind.natAbs_le n
    unfold Decimal.withSign at hvalue
    split at hvalue <;> omega
  refine ⟨_, read?_of_digits kind text hdigits, ?_⟩
  have hnearest := nearest_isNearest_integer kind (Decimal.splitSign text.toList).1 hsmall
  rw [← hvalue]
  exact hnearest

end Binary

end DynamicValue
