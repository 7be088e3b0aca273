/-
# Rounding is to the nearest number

The finite numbers of a format grow with their ordinals. Each of them owns the fractions that are
nearer to it than to any other one, and of the fractions half-way between two numbers the ones next
to an even ordinal. So a fraction has one owner at most, and rounding finds it, over all binades and
among the subnormal numbers as well.
-/

import DynamicValue.Number.Rounding
import DynamicValue.Decimal.Shortest
import Mathlib.Order.Monotone.Basic
import Mathlib.Tactic.Ring

namespace DynamicValue

/-! ## Rounding to an integer -/

section Integers

variable {numerator denominator : Nat}

/-- The rounded integer is at most half away, and exactly half only if it is even. -/
theorem roundHalfEven_spec (hpositive : 0 < denominator) :
    let rounded := roundHalfEven numerator denominator
    2 * (rounded * denominator) ≤ 2 * numerator + denominator ∧
      2 * numerator ≤ 2 * (rounded * denominator) + denominator ∧
      (rounded % 2 = 1 → 2 * (rounded * denominator) < 2 * numerator + denominator ∧
        2 * numerator < 2 * (rounded * denominator) + denominator) := by
  intro rounded
  have hdivision := Nat.div_add_mod numerator denominator
  have hremainder := Nat.mod_lt numerator hpositive
  rw [Nat.mul_comm] at hdivision
  have hnext : (numerator / denominator + 1) * denominator =
      numerator / denominator * denominator + denominator := Nat.succ_mul _ _
  by_cases hbelow : 2 * (numerator % denominator) < denominator
  · have hrounded : rounded = numerator / denominator := if_pos hbelow
    rw [hrounded]
    omega
  · by_cases htie : 2 * (numerator % denominator) = denominator
    · have hrounded : rounded = numerator / denominator + numerator / denominator % 2 :=
        (if_neg hbelow).trans (if_pos htie)
      rw [hrounded]
      rcases Nat.mod_two_eq_zero_or_one (numerator / denominator) with heven | hodd
      · rw [heven, Nat.add_zero]
        omega
      · rw [hodd, hnext]
        omega
    · have hrounded : rounded = numerator / denominator + 1 :=
        (if_neg hbelow).trans (if_neg htie)
      rw [hrounded, hnext]
      omega

end Integers

namespace FloatKind

variable {kind : FloatKind} {k other : Nat} {numerator denominator : Nat}

theorem binade_pos (kind : FloatKind) : 0 < kind.binade := Nat.two_pow_pos _

/-- A binade has an even number of ordinals. -/
theorem binade_even (kind : FloatKind) : kind.binade % 2 = 0 := by
  cases kind <;> rfl

/-! ## The values of ordinals -/

theorem units_of_lt (hsmall : k < kind.binade) : kind.units k = k := if_pos hsmall

/-- The numbers of a binade of normal numbers are equally far apart. -/
theorem units_normal {step offset : Nat} (hoffset : offset < kind.binade) :
    kind.units ((step + 1) * kind.binade + offset) = (kind.binade + offset) * 2 ^ step := by
  have hlarge : ¬ (step + 1) * kind.binade + offset < kind.binade := by
    rw [Nat.succ_mul]
    omega
  have hquotient : ((step + 1) * kind.binade + offset) / kind.binade = step + 1 := by
    rw [Nat.mul_comm, Nat.mul_add_div kind.binade_pos, Nat.div_eq_of_lt hoffset, Nat.add_zero]
  have hremainder : ((step + 1) * kind.binade + offset) % kind.binade = offset := by
    rw [Nat.mul_comm, Nat.mul_add_mod, Nat.mod_eq_of_lt hoffset]
  unfold units
  rw [if_neg hlarge, hquotient, hremainder]
  rfl

/-- An ordinal is subnormal or has its place in a binade of normal numbers. -/
theorem ordinal_cases (kind : FloatKind) (k : Nat) :
    k < kind.binade ∨ ∃ step offset, offset < kind.binade ∧
      k = (step + 1) * kind.binade + offset := by
  by_cases hsmall : k < kind.binade
  · exact Or.inl hsmall
  · have hpositive : 0 < k / kind.binade := Nat.div_pos (not_lt.mp hsmall) kind.binade_pos
    refine Or.inr ⟨k / kind.binade - 1, k % kind.binade, Nat.mod_lt k kind.binade_pos, ?_⟩
    rw [Nat.sub_add_cancel hpositive, Nat.mul_comm]
    exact (Nat.div_add_mod k kind.binade).symm

theorem units_first (step : Nat) :
    kind.units ((step + 1) * kind.binade) = kind.binade * 2 ^ step :=
  units_normal kind.binade_pos

theorem units_lt_succ (kind : FloatKind) (k : Nat) : kind.units k < kind.units (k + 1) := by
  rcases kind.ordinal_cases k with hsmall | ⟨step, offset, hoffset, rfl⟩
  · rw [units_of_lt hsmall]
    by_cases hnext : k + 1 < kind.binade
    · rw [units_of_lt hnext]
      omega
    · have hlast : k + 1 = (0 + 1) * kind.binade := by omega
      rw [hlast, units_first]
      omega
  · rw [units_normal hoffset]
    have hpower : 0 < 2 ^ step := Nat.two_pow_pos step
    by_cases hnext : offset + 1 < kind.binade
    · rw [Nat.add_assoc, units_normal hnext]
      exact Nat.mul_lt_mul_of_pos_right (by omega) hpower
    · have hlast : (step + 1) * kind.binade + offset + 1 = (step + 1 + 1) * kind.binade := by
        rw [Nat.succ_mul (step + 1)]
        omega
      rw [hlast, units_first, Nat.pow_succ, Nat.mul_comm (2 ^ step), ← Nat.mul_assoc]
      exact Nat.mul_lt_mul_of_pos_right (by omega) hpower

/-- Greater ordinals have greater values. -/
theorem units_strictMono (kind : FloatKind) : StrictMono kind.units :=
  strictMono_nat_of_lt_succ kind.units_lt_succ

/-- A significand that fits, with the number of bits that were dropped for it, is the value of the
ordinal that rounding makes of them. A significand that was rounded up to a power of two belongs to
the next binade. -/
theorem units_of_significand {dropped significand : Nat}
    (hupper : significand ≤ 2 * kind.binade) (hlower : dropped = 0 ∨ kind.binade ≤ significand) :
    kind.units (dropped * kind.binade + significand) = significand * 2 ^ dropped := by
  by_cases hsmall : significand < kind.binade
  · have hzero : dropped = 0 := by omega
    rw [hzero, Nat.zero_mul, Nat.zero_add, units_of_lt hsmall, Nat.pow_zero, Nat.mul_one]
  · by_cases hcarry : significand = 2 * kind.binade
    · have hordinal : dropped * kind.binade + significand = (dropped + 1 + 1) * kind.binade := by
        rw [hcarry]
        ring
      rw [hordinal, units_first, hcarry]
      ring
    · have hordinal : dropped * kind.binade + significand =
          (dropped + 1) * kind.binade + (significand - kind.binade) := by
        rw [Nat.succ_mul]
        omega
      have hoffset : significand - kind.binade < kind.binade := by omega
      rw [hordinal, units_normal hoffset, Nat.add_sub_cancel' (not_lt.mp hsmall)]

/-- The number after such a significand is at least one step greater. -/
theorem le_units_succ_of_significand {dropped significand : Nat}
    (hupper : significand ≤ 2 * kind.binade) (hlower : dropped = 0 ∨ kind.binade ≤ significand) :
    (significand + 1) * 2 ^ dropped ≤ kind.units (dropped * kind.binade + significand + 1) := by
  by_cases hcarry : significand = 2 * kind.binade
  · have hordinal : dropped * kind.binade + significand + 1 =
        (dropped + 1 + 1) * kind.binade + 1 := by
      rw [hcarry]
      ring
    have hone : 1 < kind.binade := by cases kind <;> decide
    rw [hordinal, units_normal hone, hcarry, Nat.pow_succ, Nat.mul_comm (2 ^ dropped),
      ← Nat.mul_assoc]
    apply Nat.mul_le_mul_right
    omega
  · have hnext : significand + 1 ≤ 2 * kind.binade := by omega
    rw [Nat.add_assoc, units_of_significand hnext (hlower.imp_right Nat.le_succ_of_le)]

/-! ## Owners -/

/-- A number owns the fractions between the two points half-way to its neighbours, and these points
only if its ordinal is even. -/
theorem owns_iff :
    kind.owns k numerator denominator ↔
      (kind.units (k - 1) + kind.units k) * denominator ≤ 2 * numerator ∧
      2 * numerator ≤ (kind.units k + kind.units (k + 1)) * denominator ∧
      (k % 2 = 1 → (kind.units (k - 1) + kind.units k) * denominator < 2 * numerator ∧
        2 * numerator < (kind.units k + kind.units (k + 1)) * denominator) := by
  unfold owns
  by_cases heven : k % 2 = 0
  · simp only [heven, if_true, Bool.and_eq_true, decide_eq_true_eq]
    omega
  · simp only [heven, if_false, Bool.and_eq_true, decide_eq_true_eq]
    omega

/-- Two numbers do not own the same fraction. -/
theorem not_owns_of_lt (hpositive : 0 < denominator) (hlt : k < other)
    (howns : kind.owns k numerator denominator) (hother : kind.owns other numerator denominator) :
    False := by
  obtain ⟨-, hupper, hstrict⟩ := owns_iff.mp howns
  obtain ⟨hlower, -, hstrict'⟩ := owns_iff.mp hother
  by_cases hnext : other = k + 1
  · rw [hnext, Nat.add_sub_cancel] at hlower hstrict'
    omega
  · have hgap : kind.units k < kind.units (other - 1) := kind.units_strictMono (by omega)
    have hbelow : kind.units (k + 1) ≤ kind.units other := kind.units_strictMono.monotone hlt
    have hapart : (kind.units k + kind.units (k + 1)) * denominator <
        (kind.units (other - 1) + kind.units other) * denominator :=
      Nat.mul_lt_mul_of_pos_right (by omega) hpositive
    omega

/-- A fraction has at most one owner. -/
theorem owns_unique (hpositive : 0 < denominator) (howns : kind.owns k numerator denominator)
    (hother : kind.owns other numerator denominator) : k = other := by
  rcases Nat.lt_trichotomy k other with hlt | heq | hgt
  · exact (not_owns_of_lt hpositive hlt howns hother).elim
  · exact heq
  · exact (not_owns_of_lt hpositive hgt hother howns).elim

/-! ## The owner is found -/

section Finding

/-- What is dropped leaves a significand of at most the bits that the format has. -/
theorem lt_of_droppedBits (kind : FloatKind) (numerator : Nat) (hpositive : 0 < denominator) :
    numerator < 2 * kind.binade *
      (denominator * 2 ^ kind.droppedBits (numerator / denominator)) := by
  have hlog : (numerator / denominator).log2 + 1 ≤
      1 + kind.fractionBits + kind.droppedBits (numerator / denominator) := by
    unfold droppedBits
    omega
  have hwhole : numerator / denominator <
      2 ^ (1 + kind.fractionBits + kind.droppedBits (numerator / denominator)) :=
    Nat.lt_of_lt_of_le Nat.lt_log2_self (Nat.pow_le_pow_right (by decide) hlog)
  rw [Nat.div_lt_iff_lt_mul hpositive, Nat.pow_add, Nat.pow_add, Nat.pow_one] at hwhole
  calc
    numerator < 2 * 2 ^ kind.fractionBits * 2 ^ kind.droppedBits (numerator / denominator) *
        denominator := hwhole
    _ = 2 * kind.binade * (denominator * 2 ^ kind.droppedBits (numerator / denominator)) := by
        rw [binade, Nat.pow_eq]
        ring

/-- Bits are dropped only as long as the significand has all the bits that the format has. -/
theorem le_of_droppedBits (hdropped : kind.droppedBits (numerator / denominator) ≠ 0) :
    kind.binade * (denominator * 2 ^ kind.droppedBits (numerator / denominator)) ≤ numerator := by
  have hlog : kind.fractionBits + kind.droppedBits (numerator / denominator) =
      (numerator / denominator).log2 := by
    unfold droppedBits at hdropped ⊢
    omega
  have hwhole : numerator / denominator ≠ 0 := by
    intro hzero
    rw [hzero] at hdropped
    apply hdropped
    unfold droppedBits
    rw [Nat.log2_zero, Nat.zero_sub]
  have hpower := Nat.log2_self_le hwhole
  rw [← hlog, Nat.pow_add] at hpower
  calc
    kind.binade * (denominator * 2 ^ kind.droppedBits (numerator / denominator)) =
        2 ^ kind.fractionBits * 2 ^ kind.droppedBits (numerator / denominator) * denominator := by
      rw [binade, Nat.pow_eq]
      ring
    _ ≤ numerator / denominator * denominator := Nat.mul_le_mul_right _ hpower
    _ ≤ numerator := Nat.div_mul_le_self numerator denominator

/-- A significand that is the rounded number of steps, and that the format has room for, makes an
ordinal that owns the fraction. -/
theorem owns_of_significand {dropped significand : Nat}
    (hupper : significand ≤ 2 * kind.binade) (hlower : dropped = 0 ∨ kind.binade ≤ significand)
    (hnormal : dropped ≠ 0 → kind.binade * (denominator * 2 ^ dropped) ≤ numerator)
    (habove : 2 * (significand * (denominator * 2 ^ dropped)) ≤
      2 * numerator + denominator * 2 ^ dropped)
    (hbelow : 2 * numerator ≤
      2 * (significand * (denominator * 2 ^ dropped)) + denominator * 2 ^ dropped)
    (hodd : significand % 2 = 1 →
      2 * (significand * (denominator * 2 ^ dropped)) < 2 * numerator + denominator * 2 ^ dropped ∧
      2 * numerator < 2 * (significand * (denominator * 2 ^ dropped)) + denominator * 2 ^ dropped) :
    kind.owns (dropped * kind.binade + significand) numerator denominator := by
  have hparity : (dropped * kind.binade + significand) % 2 = significand % 2 := by
    rw [Nat.add_mod, Nat.mul_mod, kind.binade_even, Nat.mul_zero, Nat.zero_mod, Nat.zero_add,
      Nat.mod_mod]
  have hvalue : kind.units (dropped * kind.binade + significand) * denominator =
      significand * (denominator * 2 ^ dropped) := by
    rw [units_of_significand hupper hlower]
    ring
  have hnext : significand * (denominator * 2 ^ dropped) + denominator * 2 ^ dropped ≤
      kind.units (dropped * kind.binade + significand + 1) * denominator := by
    calc
      significand * (denominator * 2 ^ dropped) + denominator * 2 ^ dropped =
          (significand + 1) * 2 ^ dropped * denominator := by ring
      _ ≤ _ := Nat.mul_le_mul_right _ (le_units_succ_of_significand hupper hlower)
  have hprevious : kind.units (dropped * kind.binade + significand - 1) * denominator +
        denominator * 2 ^ dropped ≤ significand * (denominator * 2 ^ dropped) ∨
      significand % 2 = 0 ∧ significand * (denominator * 2 ^ dropped) ≤ numerator := by
    by_cases hzero : significand = 0
    · rw [hzero, Nat.zero_mul]
      exact Or.inr ⟨rfl, Nat.zero_le _⟩
    · by_cases hinside : dropped = 0 ∨ kind.binade ≤ significand - 1
      · left
        have hordinal : dropped * kind.binade + significand - 1 =
            dropped * kind.binade + (significand - 1) := by omega
        have hstep : significand = significand - 1 + 1 := by omega
        rw [hordinal, units_of_significand (by omega) hinside]
        nth_rewrite 2 [hstep]
        apply le_of_eq
        ring
      · right
        have hfirst : significand = kind.binade := by omega
        rw [hfirst]
        exact ⟨kind.binade_even, hnormal (by omega)⟩
  have hmonotone : kind.units (dropped * kind.binade + significand - 1) * denominator ≤
      kind.units (dropped * kind.binade + significand) * denominator :=
    Nat.mul_le_mul_right _ (kind.units_strictMono.monotone (Nat.sub_le _ _))
  rw [owns_iff, Nat.add_mul, Nat.add_mul, hparity]
  rw [hvalue] at hmonotone ⊢
  omega

/-- The ordinal that rounding gives owns the fraction. -/
theorem nearestOrdinal_owns (kind : FloatKind) (numerator : Nat) (hpositive : 0 < denominator) :
    kind.owns (kind.nearestOrdinal numerator denominator) numerator denominator := by
  have hupper := kind.lt_of_droppedBits numerator hpositive
  have hlower := @le_of_droppedBits kind numerator denominator
  unfold nearestOrdinal
  generalize kind.droppedBits (numerator / denominator) = dropped at hupper hlower ⊢
  have hscale : 0 < denominator * 2 ^ dropped := Nat.mul_pos hpositive (Nat.two_pow_pos dropped)
  obtain ⟨habove, hbelow, hodd⟩ := @roundHalfEven_spec numerator _ hscale
  simp only [Nat.pow_eq]
  apply owns_of_significand ?_ ?_ hlower habove hbelow hodd
  · by_contra hlarge
    have hmore := Nat.mul_le_mul_right (denominator * 2 ^ dropped) (not_le.mp hlarge)
    rw [Nat.succ_mul] at hmore
    omega
  · by_contra hsmall
    have hdropped : dropped ≠ 0 := by omega
    have hless : roundHalfEven numerator (denominator * 2 ^ dropped) + 1 ≤ kind.binade := by omega
    have hmore := Nat.mul_le_mul_right (denominator * 2 ^ dropped) hless
    have hnormal := hlower hdropped
    rw [Nat.succ_mul] at hmore
    omega

/-- Rounding finds the owner of a fraction. -/
theorem nearestOrdinal_eq_of_owns (hpositive : 0 < denominator)
    (howns : kind.owns k numerator denominator) :
    kind.nearestOrdinal numerator denominator = k :=
  owns_unique hpositive (kind.nearestOrdinal_owns numerator hpositive) howns

/-- Rounding stays below an even ordinal exactly before the point half-way to it. -/
theorem nearestOrdinal_lt_iff (hpositive : 0 < denominator) (heven : k % 2 = 0) (hk : 0 < k) :
    kind.nearestOrdinal numerator denominator < k ↔
      2 * numerator < (kind.units (k - 1) + kind.units k) * denominator := by
  obtain ⟨hlower, hupper, hodd⟩ := owns_iff.mp (kind.nearestOrdinal_owns numerator hpositive)
  generalize kind.nearestOrdinal numerator denominator = owner at hlower hupper hodd ⊢
  constructor
  · intro hbelow
    by_cases hlast : owner = k - 1
    · have hnext : owner + 1 = k := by omega
      rw [hnext, hlast] at hodd
      exact (hodd (by omega)).2
    · have hself : kind.units owner < kind.units (k - 1) := kind.units_strictMono (by omega)
      have hnext : kind.units (owner + 1) ≤ kind.units k := kind.units_strictMono.monotone hbelow
      have hapart : (kind.units owner + kind.units (owner + 1)) * denominator <
          (kind.units (k - 1) + kind.units k) * denominator :=
        Nat.mul_lt_mul_of_pos_right (by omega) hpositive
      omega
  · intro hbefore
    by_contra habove
    have hprevious := kind.units_strictMono.monotone (Nat.sub_le_sub_right (not_lt.mp habove) 1)
    have hself := kind.units_strictMono.monotone (not_lt.mp habove)
    have hboth := Nat.mul_le_mul_right denominator (Nat.add_le_add hprevious hself)
    omega

end Finding

end FloatKind

end DynamicValue
