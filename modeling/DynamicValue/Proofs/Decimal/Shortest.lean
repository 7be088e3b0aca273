/-
# The shortest decimal of a number rounds to it

The search for a shortest decimal goes through decimal grids, but whatever it finds lies in the
interval that the number owns; and if it finds nothing, the number itself does. So the decimal is
rounded to the number.
-/

import DynamicValue.Proofs.Number.Nearest

namespace DynamicValue

namespace FloatKind

variable {kind : FloatKind} {k : Nat}

/-! ## The search -/

/-- The value of a number other than zero lies in its own interval. -/
theorem ownsDecimal_exactDecimal (hpositive : 0 < k) :
    kind.ownsDecimal k (kind.exactDecimal k) := by
  have hbelow : kind.units (k - 1) < kind.units k := kind.units_strictMono (by omega)
  have habove := kind.units_lt_succ k
  have hexponent : ¬ (0 : Int) ≤ -(kind.unitExponent : Int) := by
    cases kind <;> decide
  have hpower : Nat.pow 10 kind.unitExponent =
      Nat.pow 5 kind.unitExponent * Nat.pow 2 kind.unitExponent := by
    rw [Nat.pow_eq, Nat.pow_eq, Nat.pow_eq, ← Nat.mul_pow]
  have hscale : 0 < Nat.pow 10 kind.unitExponent := Nat.pow_pos (by decide)
  have hunits : (kind.exactDecimal k).inUnits kind =
      (kind.units k * Nat.pow 10 kind.unitExponent, Nat.pow 10 kind.unitExponent) := by
    unfold Decimal.inUnits
    rw [exactDecimal, if_neg hexponent]
    show (kind.units k * Nat.pow 5 kind.unitExponent * Nat.pow 2 kind.unitExponent,
      Nat.pow 10 (- -(kind.unitExponent : Int)).toNat) = _
    rw [neg_neg, Int.toNat_natCast, hpower, Nat.mul_assoc]
  have hleast := Nat.mul_lt_mul_of_pos_right hbelow hscale
  have hgreatest := Nat.mul_lt_mul_of_pos_right habove hscale
  unfold ownsDecimal
  rw [hunits]
  show kind.owns k (kind.units k * Nat.pow 10 kind.unitExponent)
    (Nat.pow 10 kind.unitExponent) = true
  rw [owns_iff, Nat.add_mul, Nat.add_mul]
  omega

/-- A point of a grid that stands for a number lies in the interval of the number. -/
theorem ownsDecimal_of_onGrid? {exponent : Int} {d : Decimal}
    (hfound : kind.onGrid? k exponent = some d) : kind.ownsDecimal k d := by
  unfold onGrid? at hfound
  simp only [] at hfound
  split at hfound
  · rename_i hbelow habove
    rw [← Option.some.inj hfound]
    split
    · exact hbelow
    · exact habove
  · rename_i hbelow _
    rwa [← Option.some.inj hfound]
  · rename_i _ habove
    rwa [← Option.some.inj hfound]
  · cases hfound

theorem ownsDecimal_searchGrids (hpositive : 0 < k) (steps : Nat) (exponent : Int) :
    kind.ownsDecimal k (kind.searchGrids k steps exponent) := by
  induction steps generalizing exponent with
  | zero => exact ownsDecimal_exactDecimal hpositive
  | succ steps ih =>
      unfold searchGrids
      cases hfound : kind.onGrid? k exponent with
      | none => exact ih (exponent - 1)
      | some d => exact ownsDecimal_of_onGrid? hfound

/-- The shortest decimal of a number lies in the interval of the number. -/
theorem ownsDecimal_shortestDecimal (hpositive : 0 < k) :
    kind.ownsDecimal k (kind.shortestDecimal k) :=
  ownsDecimal_searchGrids hpositive _ _

end FloatKind

end DynamicValue
