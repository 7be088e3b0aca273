/-
# Changing the width

A number of one format becomes the nearest number of the other one and keeps its sign. It overflows
exactly from the point half-way behind the greatest finite number on, because this is where rounding
reaches infinity. The wide format has every number of the narrow one, so widening keeps the value,
and the way back gives the number again. A wide number survives the way through the narrow format
exactly if it is one of its numbers.
-/

import DynamicValue.Proofs.Decimal.Rounding
import DynamicValue.Proofs.Number.Integers

namespace DynamicValue.Binary

variable {source target kind : FloatKind} {x : Binary source} {q : ℚ}

/-! ## Signs and absolute values -/

theorem isInfinite_or_isFinite (hnumber : x.isNaN = false) : x.isInfinite ∨ x.isFinite := by
  have hbound : x.magnitude ≤ source.infinity := not_lt.mp (of_decide_eq_false hnumber)
  rcases hbound.lt_or_eq with hfinite | hinfinite
  · exact .inr (decide_eq_true hfinite)
  · exact .inl (decide_eq_true hinfinite)

theorem not_isInfinite_of_isFinite (hfinite : x.isFinite) : ¬ x.isInfinite := by
  have hbelow : x.magnitude < source.infinity := of_decide_eq_true hfinite
  intro hinfinite
  have heq : x.magnitude = source.infinity := of_decide_eq_true hinfinite
  omega

theorem isNaN_of_isInfinite (hinfinite : x.isInfinite) : x.isNaN = false := by
  have heq : x.magnitude = source.infinity := of_decide_eq_true hinfinite
  exact decide_eq_false (by omega)

/-- There is one infinity for each sign. -/
theorem eq_infinite (hinfinite : x.isInfinite) : x = infinite source x.negative := by
  have heq : x.magnitude = source.infinity := of_decide_eq_true hinfinite
  exact Binary.ext rfl (heq.trans (Nat.min_self _).symm)

theorem infinite_isInfinite (kind : FloatKind) (negative : Bool) :
    (infinite kind negative).isInfinite :=
  decide_eq_true (Nat.min_self _)

/-- A value is its absolute value with the sign of the number. -/
theorem signed_abs_value (x : Binary source) :
    (if x.negative then -|x.value| else |x.value|) = x.value := by
  rw [abs_value, value, signedUnits_eq]
  cases x.negative with
  | false => rfl
  | true =>
      rw [if_pos rfl, if_pos rfl, Int.cast_neg, neg_div]
      rfl

/-- Finite numbers are below the value from which on rounding overflows. -/
theorem abs_value_lt_overflow (hfinite : x.isFinite) : |x.value| < source.overflow := by
  have hbelow : x.magnitude < source.infinity := of_decide_eq_true hfinite
  have hone := cast_one_pos source
  have hself : source.units x.magnitude ≤ source.units (source.infinity - 1) :=
    source.units_strictMono.monotone (by omega)
  have hinfinity : source.units (source.infinity - 1) < source.units source.infinity :=
    source.units_strictMono (by omega)
  have hsum : 2 * source.units x.magnitude <
      source.units (source.infinity - 1) + source.units source.infinity := by omega
  have hcast : (2 * source.units x.magnitude : ℚ) <
      ((source.units (source.infinity - 1) + source.units source.infinity : Nat) : ℚ) := by
    exact_mod_cast hsum
  rw [← source.overflow_mul_one] at hcast
  rw [abs_value, div_lt_iff₀ hone]
  linarith

/-! ## Conversion -/

theorem convert_of_isNaN (hnan : x.isNaN) : x.convert target = notANumber target := if_pos hnan

theorem convert_of_isInfinite (hinfinite : x.isInfinite) :
    x.convert target = infinite target x.negative := by
  rw [convert, if_neg (Bool.eq_false_iff.mp (isNaN_of_isInfinite hinfinite)), if_pos hinfinite]

/-- The sign of a number is kept. -/
theorem convert_negative (hnumber : x.isNaN = false) :
    (x.convert target).negative = x.negative := by
  rw [convert, if_neg (Bool.eq_false_iff.mp hnumber)]
  split
  · rfl
  · rfl

section Finite

variable (hfinite : x.isFinite)
include hfinite

/-- The value of a finite number is rounded once. -/
theorem convert_rounds (target : FloatKind) :
    (x.convert target).Rounds x.negative |x.value| := by
  have hone := (cast_one_pos source).ne'
  have htarget := (cast_one_pos target).ne'
  have hvalue : |x.value| =
      ((x.units * target.one : Nat) : ℚ) / (source.one * target.one) := by
    rw [abs_value, Nat.cast_mul, mul_div_mul_right _ _ htarget]
    rfl
  rw [convert, if_neg (Bool.eq_false_iff.mp (isNaN_of_isFinite hfinite)),
    if_neg (not_isInfinite_of_isFinite hfinite), hvalue]
  exact nearest_rounds x.negative source.one_pos

theorem convert_isNearest (hbelow : |x.value| < target.overflow) :
    (x.convert target).IsNearest x.value := by
  have hnearest := (convert_rounds hfinite target).nearest hbelow
  rwa [signed_abs_value] at hnearest

theorem convert_isInfinite_iff :
    (x.convert target).isInfinite ↔ target.overflow ≤ |x.value| := by
  constructor
  · intro hinfinite
    by_contra hbelow
    have hnearest := convert_isNearest hfinite (not_le.mp hbelow)
    exact not_isInfinite_of_isFinite hnearest.finite hinfinite
  · exact (convert_rounds hfinite target).infinite

/-- A value that the other format has is not changed. -/
theorem convert_value (hrepresentable : ∃ y : Binary target, y.isFinite ∧ y.value = x.value) :
    (x.convert target).isFinite ∧ (x.convert target).value = x.value := by
  obtain ⟨y, hy, hvalue⟩ := hrepresentable
  have hbelow := abs_value_lt_overflow hy
  rw [hvalue] at hbelow
  have hnearest := convert_isNearest hfinite hbelow
  exact ⟨hnearest.finite, hnearest.value_eq hy hvalue⟩

end Finite

/-! ## There and back -/

/-- Whether a number of double width is one of single width. -/
def IsSingle (v : Binary .double) : Prop :=
  v.isInfinite ∨ v.isFinite ∧ ∃ x : Binary .single, x.isFinite ∧ x.value = v.value

/-- A number of single width comes back from double width. -/
theorem narrow_widen {x : Binary .single} (hnumber : x.isNaN = false) :
    x.widen.convert .single = x := by
  unfold widen
  rcases isInfinite_or_isFinite hnumber with hinfinite | hfinite
  · rw [convert_of_isInfinite hinfinite, convert_of_isInfinite (infinite_isInfinite _ _)]
    exact (eq_infinite hinfinite).symm
  · obtain ⟨hwide, hvalue⟩ := widen_value hfinite
    obtain ⟨-, hback⟩ := convert_value hwide ⟨x, hfinite, hvalue.symm⟩
    apply eq_of_value_eq (hback.trans hvalue)
    exact (convert_negative (isNaN_of_isFinite hwide)).trans (convert_negative hnumber)

variable {v : Binary .double}

/-- A number of single width at double width is not beyond the overflow. -/
theorem IsSingle.lt_overflow (hsingle : v.IsSingle) (hfinite : v.isFinite) :
    |v.value| < FloatKind.single.overflow := by
  rcases hsingle with hinfinite | ⟨-, x, hx, hvalue⟩
  · exact absurd hinfinite (not_isInfinite_of_isFinite hfinite)
  · rw [← hvalue]
    exact abs_value_lt_overflow hx

/-- A number of double width comes back from single width exactly if it is one of single width. -/
theorem widen_narrow_eq_iff (hnumber : v.isNaN = false)
    (hbelow : v.isFinite → |v.value| < FloatKind.single.overflow) :
    (v.convert .single).widen = v ↔ v.IsSingle := by
  rcases isInfinite_or_isFinite hnumber with hinfinite | hfinite
  · apply iff_of_true _ (.inl hinfinite)
    unfold widen
    rw [convert_of_isInfinite hinfinite, convert_of_isInfinite (infinite_isInfinite _ _)]
    exact (eq_infinite hinfinite).symm
  · have hnarrow := (convert_isNearest hfinite (hbelow hfinite)).finite
    obtain ⟨-, hwide⟩ := widen_value hnarrow
    constructor
    · intro hsame
      rw [hsame] at hwide
      exact .inr ⟨hfinite, _, hnarrow, hwide.symm⟩
    · rintro (hinfinite | ⟨-, hrepresentable⟩)
      · exact absurd hinfinite (not_isInfinite_of_isFinite hfinite)
      · apply eq_of_value_eq (hwide.trans (convert_value hfinite hrepresentable).2)
        exact (convert_negative (isNaN_of_isFinite hnarrow)).trans (convert_negative hnumber)

end DynamicValue.Binary
