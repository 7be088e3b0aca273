/-
# The values of floating-point numbers

A finite number stands for a rational number: its units, with its sign. Rounding goes to the finite
number whose value is nearest to what is rounded, and of two that are equally near to the one with
the even ordinal. So an integer becomes the nearest number of a format, and a number of the narrow
format keeps its value in the wide one.

The statements are about values; they do not tell the two zeros apart.
-/

import DynamicValue.Proofs.Number.Nearest
import Mathlib.Algebra.Order.Field.Basic
import Mathlib.Data.Rat.Cast.Order
import Mathlib.Tactic.FieldSimp
import Mathlib.Tactic.Linarith
import Mathlib.Tactic.Positivity

namespace DynamicValue

namespace FloatKind

variable {kind : FloatKind} {k : Nat} {numerator denominator : Nat}

/-! ## Distances from an ordinal -/

theorem one_pos (kind : FloatKind) : 0 < kind.one := Nat.two_pow_pos _

theorem units_zero (kind : FloatKind) : kind.units 0 = 0 := units_of_lt kind.binade_pos

theorem units_pos (kind : FloatKind) (hpositive : 0 < k) : 0 < kind.units k :=
  Nat.zero_lt_of_lt (kind.units_strictMono hpositive)

/-- A value of either sign is that of an ordinal, or at least as far away as one of its neighbours;
beside zero there is only what is below it. -/
theorem value_cases (k : Nat) {value : Int} {other : Nat}
    (hvalue : value.natAbs = kind.units other) :
    value = kind.units k ∨ (kind.units (k + 1) : Int) ≤ value ∨
      0 < k ∧ value ≤ kind.units (k - 1) ∨ k = 0 ∧ value ≤ 0 := by
  by_cases hnegative : value < 0
  · by_cases hzero : k = 0
    · exact .inr (.inr (.inr ⟨hzero, hnegative.le⟩))
    · exact .inr (.inr (.inl ⟨Nat.pos_of_ne_zero hzero, by omega⟩))
  · have hunits : value = kind.units other := by omega
    rw [hunits]
    rcases Nat.lt_trichotomy other k with hbelow | rfl | habove
    · have hprevious : kind.units other ≤ kind.units (k - 1) :=
        kind.units_strictMono.monotone (by omega)
      exact .inr (.inr (.inl ⟨by omega, by omega⟩))
    · exact .inl rfl
    · have hnext : kind.units (k + 1) ≤ kind.units other := kind.units_strictMono.monotone habove
      exact .inr (.inl (by omega))

/-- A point that is not beyond the middle between two others is not nearer to the second. -/
theorem abs_sub_le_abs_sub (own other point : Int)
    (hside : own < other ∧ 2 * point ≤ own + other ∨ other < own ∧ own + other ≤ 2 * point) :
    |own - point| ≤ |other - point| ∧ (|other - point| = |own - point| →
      2 * point = own + other) := by
  rcases abs_cases (own - point) with ⟨hown, _⟩ | ⟨hown, _⟩ <;>
    rcases abs_cases (other - point) with ⟨hother, _⟩ | ⟨hother, _⟩ <;>
    rw [hown, hother] <;> omega

/-- The owner of a fraction is at least as near to it as any other number, of either sign, and if
another one is as near, the ordinal of the owner is even. -/
theorem nearest_of_owns (hpositive : 0 < denominator) (howns : kind.owns k numerator denominator)
    {value : Int} {other : Nat} (hvalue : value.natAbs = kind.units other) :
    |(kind.units k * denominator - numerator : Int)| ≤ |value * denominator - numerator| ∧
      (value ≠ kind.units k →
        |value * denominator - numerator| = |(kind.units k * denominator - numerator : Int)| →
        k % 2 = 0) := by
  obtain ⟨hlower, hupper, hodd⟩ := owns_iff.mp howns
  have hscale : (0 : Int) < denominator := by exact_mod_cast hpositive
  rw [Nat.add_mul, Nat.add_mul] at hodd
  rw [Nat.add_mul] at hlower hupper
  rcases value_cases k hvalue with rfl | habove | ⟨hk, hbelow⟩ | ⟨rfl, hbelow⟩
  · exact ⟨le_rfl, fun hne => absurd rfl hne⟩
  · have hself := Nat.mul_lt_mul_of_pos_right (kind.units_lt_succ k) hpositive
    have hfar := mul_le_mul_of_nonneg_right habove hscale.le
    obtain ⟨hle, htie⟩ := abs_sub_le_abs_sub (kind.units k * denominator) (value * denominator)
      numerator (.inl ⟨by omega, by omega⟩)
    exact ⟨hle, fun _ heq => by have := htie heq; omega⟩
  · have hself : kind.units (k - 1) * denominator < kind.units k * denominator :=
      Nat.mul_lt_mul_of_pos_right (kind.units_strictMono (by omega)) hpositive
    have hfar := mul_le_mul_of_nonneg_right hbelow hscale.le
    obtain ⟨hle, htie⟩ := abs_sub_le_abs_sub (kind.units k * denominator) (value * denominator)
      numerator (.inr ⟨by omega, by omega⟩)
    exact ⟨hle, fun _ heq => by have := htie heq; omega⟩
  · refine ⟨?_, fun _ _ => rfl⟩
    have hfar := mul_le_mul_of_nonneg_right hbelow hscale.le
    rw [units_zero, Nat.cast_zero, zero_mul, zero_sub, abs_neg, Nat.abs_cast]
    rw [zero_mul] at hfar
    rw [abs_of_nonpos (by omega)]
    omega

/-! ## Exact values -/

/-- A fraction that is the value of an ordinal belongs to it. -/
theorem owns_of_eq (hpositive : 0 < denominator)
    (hvalue : kind.units k * denominator = numerator) : kind.owns k numerator denominator := by
  have hprevious : kind.units (k - 1) * denominator ≤ kind.units k * denominator :=
    Nat.mul_le_mul_right _ (kind.units_strictMono.monotone (Nat.sub_le k 1))
  have hnext := Nat.mul_lt_mul_of_pos_right (kind.units_lt_succ k) hpositive
  rw [owns_iff, Nat.add_mul, Nat.add_mul]
  refine ⟨by omega, by omega, fun hodd => ?_⟩
  have hbelow : kind.units (k - 1) * denominator < kind.units k * denominator :=
    Nat.mul_lt_mul_of_pos_right (kind.units_strictMono (by omega)) hpositive
  omega

/-- A significand that fits, times any power of two, is the value of an ordinal. -/
theorem exists_units_eq {significand : Nat} (hfits : significand ≤ 2 * kind.binade)
    (exponent : Nat) : ∃ k, kind.units k = significand * 2 ^ exponent := by
  induction exponent generalizing significand with
  | zero => exact ⟨_, units_of_significand hfits (.inl rfl)⟩
  | succ exponent ih =>
      by_cases hnormal : kind.binade ≤ significand
      · exact ⟨_, units_of_significand hfits (.inr hnormal)⟩
      · obtain ⟨k, hvalue⟩ := @ih (2 * significand) (by omega)
        refine ⟨k, hvalue.trans ?_⟩
        rw [Nat.pow_succ]
        ring

/-- Two neighbours are two significands next to each other, times the same power of two. -/
theorem exists_units_succ_eq (k : Nat) :
    ∃ significand exponent, significand < 2 * kind.binade ∧
      kind.units k = significand * 2 ^ exponent ∧
      kind.units (k + 1) = (significand + 1) * 2 ^ exponent := by
  rcases kind.ordinal_cases k with hsmall | ⟨step, offset, hoffset, rfl⟩
  · have hself := @units_of_significand kind 0 k (by omega) (.inl rfl)
    have hnext := @units_of_significand kind 0 (k + 1) (by omega) (.inl rfl)
    rw [Nat.zero_mul, Nat.zero_add] at hself hnext
    exact ⟨k, 0, by omega, hself, hnext⟩
  · have hordinal : (step + 1) * kind.binade + offset =
        step * kind.binade + (kind.binade + offset) := by
      rw [Nat.succ_mul, Nat.add_assoc]
    rw [hordinal]
    have hself := @units_of_significand kind step (kind.binade + offset) (by omega)
      (.inr (by omega))
    have hnext := @units_of_significand kind step (kind.binade + offset + 1) (by omega)
      (.inr (by omega))
    exact ⟨kind.binade + offset, step, by omega, hself, hnext⟩

/-- The unit of the wide format goes into half of the narrow one. -/
theorem exists_double_one_eq : ∃ gap, double.one = 2 * 2 ^ gap * single.one :=
  ⟨924, by decide +kernel⟩

/-- Every value of the narrow format is one of the wide format. -/
theorem exists_double_units_eq (k : Nat) :
    ∃ wide, double.units wide * single.one = single.units k * double.one := by
  obtain ⟨gap, hones⟩ := exists_double_one_eq
  obtain ⟨significand, exponent, hfits, hvalue, -⟩ := single.exists_units_succ_eq k
  have hbinades : 2 * single.binade ≤ 2 * double.binade := by decide
  obtain ⟨wide, hunits⟩ := exists_units_eq (hfits.le.trans hbinades) (exponent + gap + 1)
  refine ⟨wide, ?_⟩
  rw [hunits, hvalue, hones]
  ring

/-- The point half-way between two neighbours of the narrow format is a value of the wide format. -/
theorem exists_double_midpoint (k : Nat) :
    ∃ middle, 2 * double.units middle * single.one =
      (single.units k + single.units (k + 1)) * double.one := by
  obtain ⟨gap, hones⟩ := exists_double_one_eq
  obtain ⟨significand, exponent, hfits, hvalue, hnext⟩ := single.exists_units_succ_eq k
  have hbinades : 2 * (2 * single.binade) ≤ 2 * double.binade := by decide
  obtain ⟨middle, hunits⟩ := @exists_units_eq double (2 * significand + 1) (by omega)
    (exponent + gap)
  refine ⟨middle, ?_⟩
  rw [hunits, hvalue, hnext, hones]
  ring

end FloatKind

namespace Binary

variable {kind : FloatKind} {negative : Bool} {numerator denominator : Nat}

/-! ## Nearest numbers -/

/-- The units of a finite number, with its sign. -/
def signedUnits (x : Binary kind) : Int := if x.negative then -(x.units : Int) else x.units

/-- The value of a finite number. -/
def value (x : Binary kind) : ℚ := x.signedUnits / kind.one

/-- A finite number is nearest to a rational number if no other finite number is nearer, and if its
ordinal is even whenever another value is as near. -/
structure IsNearest (x : Binary kind) (q : ℚ) : Prop where
  finite : x.isFinite
  nearest : ∀ y : Binary kind, y.isFinite → |x.value - q| ≤ |y.value - q|
  even : ∀ y : Binary kind, y.isFinite → y.value ≠ x.value → |y.value - q| = |x.value - q| →
    x.magnitude % 2 = 0

theorem cast_one_pos (kind : FloatKind) : (0 : ℚ) < kind.one := by
  exact_mod_cast kind.one_pos

theorem natAbs_signedUnits (x : Binary kind) : x.signedUnits.natAbs = kind.units x.magnitude := by
  unfold signedUnits
  cases x.negative
  · exact Int.natAbs_natCast _
  · exact (Int.natAbs_neg _).trans (Int.natAbs_natCast _)

theorem abs_value (x : Binary kind) : |x.value| = kind.units x.magnitude / kind.one := by
  unfold value
  rw [abs_div, abs_of_pos (cast_one_pos kind), ← natAbs_signedUnits, Nat.cast_natAbs, Int.cast_abs]

/-- A number that has the value itself is nearest to it. -/
theorem IsNearest.of_value_eq {x : Binary kind} {q : ℚ} (hfinite : x.isFinite)
    (hvalue : x.value = q) : x.IsNearest q where
  finite := hfinite
  nearest y _ := by
    rw [hvalue, sub_self, abs_zero]
    exact abs_nonneg _
  even y _ hne heq := by
    rw [hvalue, sub_self, abs_zero, abs_eq_zero, sub_eq_zero] at heq
    exact absurd (heq.trans hvalue.symm) hne

/-- A number that is not above infinity is the one with its sign and its ordinal. -/
theorem ofOrdinal_magnitude {x : Binary kind} (hnumber : x.isNaN = false) :
    ofOrdinal kind x.negative x.magnitude = x :=
  Binary.ext rfl (Nat.min_eq_left (not_lt.mp (of_decide_eq_false hnumber)))

/-! ## Order -/

theorem signedUnits_eq (x : Binary kind) :
    x.signedUnits = if x.negative then -(kind.units x.magnitude : Int)
      else kind.units x.magnitude := rfl

/-- The order of the ordinals is that of the values. -/
theorem signedUnits_lt_iff {x y : Binary kind} :
    x.signedUnits < y.signedUnits ↔ x.signedOrdinal < y.signedOrdinal := by
  have hstrict := kind.units_strictMono
  have hbelow := hstrict.lt_iff_lt (a := x.magnitude) (b := y.magnitude)
  have habove := hstrict.lt_iff_lt (a := y.magnitude) (b := x.magnitude)
  have hzero : ∀ k, kind.units k = 0 ↔ k = 0 := fun k => by
    simpa only [kind.units_zero] using hstrict.injective.eq_iff (a := k) (b := 0)
  have hx := hzero x.magnitude
  have hy := hzero y.magnitude
  unfold signedOrdinal
  rw [signedUnits_eq, signedUnits_eq]
  cases x.negative <;> cases y.negative <;>
    simp only [Bool.false_eq_true, if_false, if_true] <;> omega

theorem value_lt_iff {x y : Binary kind} :
    x.value < y.value ↔ x.signedOrdinal < y.signedOrdinal := by
  unfold value
  rw [div_lt_div_iff_of_pos_right (cast_one_pos kind), Int.cast_lt, signedUnits_lt_iff]

/-- Numbers of the same value are equal up to their sign. -/
theorem magnitude_eq_of_value_eq {x y : Binary kind} (hvalue : y.value = x.value) :
    y.magnitude = x.magnitude := by
  unfold value at hvalue
  rw [div_left_inj' (cast_one_pos kind).ne', Int.cast_inj] at hvalue
  have hunits : kind.units y.magnitude = kind.units x.magnitude := by
    rw [← natAbs_signedUnits, ← natAbs_signedUnits, hvalue]
  exact kind.units_strictMono.injective hunits

/-- Numbers of the same value and the same sign are equal. -/
theorem eq_of_value_eq {x y : Binary kind} (hvalue : y.value = x.value)
    (hsign : y.negative = x.negative) : y = x :=
  Binary.ext hsign (magnitude_eq_of_value_eq hvalue)

/-- What is strictly between two equally distant points is nearer than they are. -/
theorem abs_sub_lt_of_between {first second between q : ℚ} (hsame : |first - q| = |second - q|)
    (hbetween : first < between ∧ between < second ∨ second < between ∧ between < first) :
    |between - q| < |first - q| := by
  rw [abs_lt]
  rcases hbetween with ⟨hfirst, hsecond⟩ | ⟨hsecond, hfirst⟩
  · have hbelow := neg_abs_le (first - q)
    have habove := le_abs_self (second - q)
    constructor <;> linarith
  · have habove := le_abs_self (first - q)
    have hbelow := neg_abs_le (second - q)
    constructor <;> linarith

/-- Two numbers of one sign are not both nearest to the same rational number: if they were equally
near, both ordinals would be even, and there would be a nearer number between them. -/
theorem IsNearest.not_lt {x y : Binary kind} {q : ℚ} (hx : x.IsNearest q) (hy : y.IsNearest q)
    (hsign : x.negative = y.negative) : ¬ x.magnitude < y.magnitude := by
  intro hless
  have hfinite : y.magnitude < kind.infinity := of_decide_eq_true hy.finite
  have hdistinct : x.value < y.value ∨ y.value < x.value := by
    simp only [value_lt_iff, signedOrdinal, ← hsign]
    cases x.negative <;> simp only [Bool.false_eq_true, if_false, if_true] <;> omega
  have hsame : |x.value - q| = |y.value - q| :=
    le_antisymm (hx.nearest y hy.finite) (hy.nearest x hx.finite)
  have hne : x.value ≠ y.value := hdistinct.elim ne_of_lt ne_of_gt
  have hxeven := hx.even y hy.finite hne.symm hsame.symm
  have hyeven := hy.even x hx.finite hne hsame
  obtain ⟨between, hordinal, hbetween⟩ : ∃ z : Binary kind, z.magnitude = x.magnitude + 1 ∧
      z.negative = x.negative :=
    ⟨ofOrdinal kind x.negative (x.magnitude + 1), Nat.min_eq_left (by omega), rfl⟩
  have hinside : x.value < between.value ∧ between.value < y.value ∨
      y.value < between.value ∧ between.value < x.value := by
    simp only [value_lt_iff, signedOrdinal, ← hsign, hbetween, hordinal]
    cases x.negative <;> simp only [Bool.false_eq_true, if_false, if_true] <;> omega
  have hnearer := abs_sub_lt_of_between hsame hinside
  exact absurd (hx.nearest between (decide_eq_true (by omega))) (not_le.mpr hnearer)

/-- There is one number at most of a given sign that is nearest to a rational number. -/
theorem IsNearest.unique {x y : Binary kind} {q : ℚ} (hx : x.IsNearest q) (hy : y.IsNearest q)
    (hsign : x.negative = y.negative) : x = y := by
  have hbelow := hx.not_lt hy hsign
  have habove := hy.not_lt hx hsign.symm
  exact Binary.ext hsign (by omega)

section Rounding

variable (hpositive : 0 < denominator)
include hpositive

/-- How far a number is from a signed fraction of units. -/
theorem abs_value_sub (x : Binary kind) (signed : Int) :
    |x.value - signed / (denominator * kind.one)| =
      |(x.signedUnits * denominator - signed : Int)| / (denominator * kind.one) := by
  have hone := cast_one_pos kind
  have hscale : (0 : ℚ) < denominator := by exact_mod_cast hpositive
  have hdifference : x.value - signed / (denominator * kind.one) =
      ((x.signedUnits * denominator - signed : Int) : ℚ) / (denominator * kind.one) := by
    unfold value
    push_cast
    field_simp
  rw [hdifference, abs_div, abs_of_pos (mul_pos hscale hone), Int.cast_abs]

/-- The number that owns a fraction, with a sign, is at least as near to the signed fraction as any
other one. -/
theorem nearest_of_owns {x : Binary kind}
    (howns : kind.owns x.magnitude numerator denominator) (y : Binary kind) :
    let signed : Int := if x.negative then -(numerator : Int) else numerator
    |x.signedUnits * denominator - signed| ≤ |y.signedUnits * denominator - signed| ∧
      (y.signedUnits ≠ x.signedUnits →
        |y.signedUnits * denominator - signed| = |x.signedUnits * denominator - signed| →
        x.magnitude % 2 = 0) := by
  have hmirror : ∀ units : Int, |-units * denominator - -(numerator : Int)| =
      |units * denominator - numerator| := by
    intro units
    rw [← abs_neg]
    ring_nf
  rw [signedUnits_eq x]
  cases x.negative with
  | false => exact FloatKind.nearest_of_owns hpositive howns (natAbs_signedUnits y)
  | true =>
      have hvalue : (-y.signedUnits).natAbs = kind.units y.magnitude :=
        (Int.natAbs_neg _).trans (natAbs_signedUnits y)
      obtain ⟨hle, heven⟩ := FloatKind.nearest_of_owns hpositive howns hvalue
      rw [← hmirror (kind.units x.magnitude), ← hmirror (-y.signedUnits), neg_neg] at hle heven
      exact ⟨hle, fun hne => heven fun heq => hne (neg_eq_iff_eq_neg.mp heq)⟩

/-- Rounding a signed fraction of units gives the number that is nearest to it, if it gives a finite
one. -/
theorem nearest_isNearest (hfinite : (nearest kind negative numerator denominator).isFinite) :
    (nearest kind negative numerator denominator).IsNearest
      (((if negative then -(numerator : Int) else numerator : Int) : ℚ) /
        (denominator * kind.one)) := by
  have hscale : (0 : ℚ) < denominator * kind.one :=
    mul_pos (by exact_mod_cast hpositive) (cast_one_pos kind)
  have hmagnitude : (nearest kind negative numerator denominator).magnitude =
      kind.nearestOrdinal numerator denominator := by
    have hbelow : min (kind.nearestOrdinal numerator denominator) kind.infinity <
        kind.infinity := of_decide_eq_true hfinite
    exact Nat.min_eq_left (by omega)
  have howns := kind.nearestOrdinal_owns numerator hpositive
  rw [← hmagnitude] at howns
  have hspec := nearest_of_owns hpositive howns
  refine ⟨hfinite, fun y _ => ?_, fun y _ hne heq => ?_⟩
  · rw [abs_value_sub hpositive, abs_value_sub hpositive]
    apply div_le_div_of_nonneg_right ?_ hscale.le
    exact_mod_cast (hspec y).1
  · rw [abs_value_sub hpositive, abs_value_sub hpositive, div_left_inj' hscale.ne'] at heq
    refine (hspec y).2 (fun hunits => hne ?_) (by exact_mod_cast heq)
    unfold value
    rw [hunits]

end Rounding

/-! ## Integers -/

/-- Integers of up to 64 bits round to finite numbers. -/
theorem nearest_isFinite (kind : FloatKind) (negative : Bool) {n : Nat} (hsmall : n ≤ 2 ^ 64) :
    (nearest kind negative (n * kind.one) 1).isFinite := by
  have hroom : 2 * (2 ^ 64 * kind.one) < kind.units kind.infinity := by
    cases kind <;> decide +kernel
  have hnumerator : n * kind.one ≤ 2 ^ 64 * kind.one := Nat.mul_le_mul_right _ hsmall
  have hleast := (FloatKind.owns_iff.mp (kind.nearestOrdinal_owns (n * kind.one) Nat.one_pos)).1
  have hbelow : kind.nearestOrdinal (n * kind.one) 1 < kind.infinity := by
    apply kind.units_strictMono.lt_iff_lt.mp
    omega
  exact decide_eq_true (Nat.lt_of_le_of_lt (Nat.min_le_left _ _) hbelow)

/-- An integer of up to 64 bits rounds to the number that is nearest to it. -/
theorem nearest_isNearest_integer (kind : FloatKind) (negative : Bool) {n : Nat}
    (hsmall : n ≤ 2 ^ 64) :
    (nearest kind negative (n * kind.one) 1).IsNearest
      ((if negative then -(n : Int) else n : Int) : ℚ) := by
  have hnearest := nearest_isNearest Nat.one_pos (nearest_isFinite kind negative hsmall)
  have hone := (cast_one_pos kind).ne'
  have hvalue : ((if negative then -((n * kind.one : Nat) : Int) else (n * kind.one : Nat) : Int) :
      ℚ) / ((1 : Nat) * kind.one) = ((if negative then -(n : Int) else n : Int) : ℚ) := by
    cases negative
    · simp [hone]
    · simp [hone, neg_div]
  rwa [hvalue] at hnearest

end Binary

namespace IntKind

/-- An integer of any kind has at most 64 bits. -/
theorem natAbs_le {kind : IntKind} (n : kind.Value) : n.val.natAbs ≤ 2 ^ 64 := by
  obtain ⟨signed, width⟩ := kind
  obtain ⟨n, hleast, hgreatest⟩ := n
  have hwidth : (width.patterns : Int) ≤ 2 ^ 64 ∧ (width.halfPatterns : Int) ≤ 2 ^ 64 := by
    cases width <;> decide
  unfold least at hleast
  unfold greatest at hgreatest
  cases signed <;> simp at hleast hgreatest ⊢ <;> omega

end IntKind

namespace Binary

variable {kind : FloatKind} {x : Binary kind}

/-- An integer becomes the number that is nearest to it. -/
theorem ofInt_isNearest {source : IntKind} (kind : FloatKind) (n : source.Value) :
    (ofInt kind n.val).IsNearest (n.val : ℚ) := by
  have hnearest := nearest_isNearest_integer kind (n.val < 0) (IntKind.natAbs_le n)
  have hsigned : (if decide (n.val < 0) = true then -(n.val.natAbs : Int) else n.val.natAbs) =
      n.val := by
    split
    · rename_i hnegative
      have := of_decide_eq_true hnegative
      omega
    · rename_i hnegative
      have := of_decide_eq_false (Bool.eq_false_iff.mpr hnegative)
      omega
  rwa [hsigned] at hnearest

/-- A truth value becomes the number that is its integer. -/
theorem ofBool_isNearest (kind : FloatKind) (source : IntKind) (b : Bool) :
    (ofBool kind b).IsNearest ((source.ofBool b).val : ℚ) := by
  have hvalue : (if b then 1 else 0) = (source.ofBool b).val := by cases b <;> rfl
  unfold ofBool
  rw [hvalue]
  exact ofInt_isNearest kind _

/-- A number without a fraction has the value of its integer part. -/
theorem value_eq_truncated (hintegral : x.isIntegral) : x.value = (x.truncated : ℚ) := by
  have hwhole : (x.units : Int) = (x.units / kind.one : Nat) * kind.one := by
    have hdivides := Nat.dvd_of_mod_eq_zero (of_decide_eq_true hintegral)
    exact_mod_cast (Nat.div_mul_cancel hdivides).symm
  have hsigned : x.signedUnits = x.truncated * kind.one := by
    unfold signedUnits truncated
    cases x.negative with
    | false => exact hwhole
    | true => exact (congrArg Neg.neg hwhole).trans (neg_mul _ _).symm
  unfold value
  rw [hsigned, Int.cast_mul, Int.cast_natCast, mul_div_cancel_right₀ _ (cast_one_pos kind).ne']

section Widening

variable {x : Binary .single} (hfinite : x.isFinite)
include hfinite

/-- A finite number of the narrow format becomes the finite number of the wide one whose units are
the same multiple of one. -/
theorem exists_widen_eq :
    ∃ wide, wide < FloatKind.double.infinity ∧ x.widen = ofOrdinal .double x.negative wide ∧
      FloatKind.double.units wide * FloatKind.single.one =
        FloatKind.single.units x.magnitude * FloatKind.double.one := by
  have hmagnitude : x.magnitude < FloatKind.single.infinity := of_decide_eq_true hfinite
  obtain ⟨wide, hwide⟩ := FloatKind.exists_double_units_eq x.magnitude
  have hordinal : FloatKind.double.nearestOrdinal (x.units * FloatKind.double.one)
      FloatKind.single.one = wide :=
    FloatKind.nearestOrdinal_eq_of_owns FloatKind.single.one_pos
      (FloatKind.owns_of_eq FloatKind.single.one_pos hwide)
  refine ⟨wide, ?_, ?_, hwide⟩
  · have hroom : FloatKind.single.units FloatKind.single.infinity * FloatKind.double.one ≤
        FloatKind.double.units FloatKind.double.infinity * FloatKind.single.one := by
      decide +kernel
    have hunits := FloatKind.single.units_strictMono hmagnitude
    have hscaled := Nat.mul_lt_mul_of_pos_right hunits FloatKind.double.one_pos
    apply FloatKind.double.units_strictMono.lt_iff_lt.mp
    apply Nat.lt_of_mul_lt_mul_right (a := FloatKind.single.one)
    omega
  · unfold widen convert
    rw [if_neg, if_neg]
    · exact congrArg (ofOrdinal .double x.negative) hordinal
    · simp only [isInfinite, decide_eq_true_eq]
      omega
    · simp only [isNaN, decide_eq_true_eq]
      omega

/-- A finite number of the narrow format keeps its value in the wide one. -/
theorem widen_value : x.widen.isFinite ∧ x.widen.value = x.value := by
  obtain ⟨wide, hbelow, hwidened, hunits⟩ := exists_widen_eq hfinite
  have hmagnitude : x.widen.magnitude = wide := by
    rw [hwidened]
    exact Nat.min_eq_left hbelow.le
  have hnegative : x.widen.negative = x.negative := by
    rw [hwidened]
    rfl
  have hratio : (FloatKind.double.units wide : ℚ) / FloatKind.double.one =
      FloatKind.single.units x.magnitude / FloatKind.single.one := by
    rw [div_eq_div_iff (cast_one_pos _).ne' (cast_one_pos _).ne']
    exact_mod_cast hunits
  refine ⟨decide_eq_true (by rwa [hmagnitude]), ?_⟩
  unfold value signedUnits units
  rw [hmagnitude, hnegative]
  cases x.negative with
  | false => exact hratio
  | true =>
      simp only [if_true, Int.cast_neg, Int.cast_natCast, neg_div]
      rw [hratio]

end Widening

end Binary

end DynamicValue
