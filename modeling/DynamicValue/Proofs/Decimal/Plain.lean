/-
# Plain notation

A decimal in plain notation has digits in front of an optional point and behind it, and no exponent.
No digit is superfluous: the whole part begins with a zero only if it is nothing else, the fraction
does not end with one, and there is no point without a fraction.

The zeros that hold the places between the digits of a decimal and its point are not significant. If
a significand does not end with a zero, all its own digits are.
-/

import DynamicValue.Proofs.Decimal.Reading
import Mathlib.Data.List.DropRight

namespace DynamicValue.Decimal

/-- The digits in front of a point and behind it, none of them superfluous. -/
structure IsPlain (whole fraction : List Char) : Prop where
  whole_ne_nil : whole ≠ []
  whole_isDigit : ∀ c ∈ whole, c.isDigit
  fraction_isDigit : ∀ c ∈ fraction, c.isDigit
  noLeadingZero : whole.head? = some '0' → whole = ['0']
  noTrailingZero : fraction.getLast? ≠ some '0'

/-- Digits with a point among them, or without one if there is no fraction. -/
def withPoint (whole fraction : List Char) : List Char :=
  if fraction = [] then whole else whole ++ '.' :: fraction

/-- The number of digits of a text that are left without the zeros at both ends. A sign and a point
do not count. -/
def significantDigits (cs : List Char) : Nat :=
  (((cs.filter Char.isDigit).dropWhile (· == '0')).rdropWhile (· == '0')).length

variable {n count : Nat} {cs whole fraction : List Char} {d : Decimal}

/-! ## The digits of a number -/

theorem digitCharacter_ne_zero (hpositive : 0 < n) (hsmall : n < 10) : digitCharacter n ≠ '0' := by
  have hall : ∀ m : Fin 10, 0 < m.val → digitCharacter m.val ≠ '0' := by decide
  exact hall ⟨n, hsmall⟩ hpositive

theorem naturalDigits_of_lt (hsmall : n < 10) : naturalDigits n = [digitCharacter n] := by
  rw [naturalDigits, if_pos hsmall]

theorem naturalDigits_of_ge (hlarge : ¬ n < 10) :
    naturalDigits n = naturalDigits (n / 10) ++ [digitCharacter (n % 10)] := by
  rw [naturalDigits, if_neg hlarge]

/-- The digits of a positive number do not begin with a zero. -/
theorem head?_naturalDigits_ne (hpositive : 0 < n) : (naturalDigits n).head? ≠ some '0' := by
  induction n using Nat.strongRecOn with
  | ind n ih =>
      by_cases hsmall : n < 10
      · rw [naturalDigits_of_lt hsmall, List.head?_singleton]
        exact fun heq => digitCharacter_ne_zero hpositive hsmall (Option.some.inj heq)
      · rw [naturalDigits_of_ge hsmall, List.head?_append_of_ne_nil _ (naturalDigits_ne_nil _)]
        exact ih (n / 10) (by omega) (by omega)

/-- The digits of a number end with a zero only if it is a multiple of ten. -/
theorem getLast?_naturalDigits_ne (hdigit : n % 10 ≠ 0) :
    (naturalDigits n).getLast? ≠ some '0' := by
  by_cases hsmall : n < 10
  · rw [naturalDigits_of_lt hsmall, List.getLast?_singleton]
    exact fun heq => digitCharacter_ne_zero (by omega) hsmall (Option.some.inj heq)
  · rw [naturalDigits_of_ge hsmall, List.getLast?_concat]
    exact fun heq => digitCharacter_ne_zero (by omega) (by omega) (Option.some.inj heq)

theorem lt_pow_length_naturalDigits (n : Nat) : n < 10 ^ (naturalDigits n).length := by
  induction n using Nat.strongRecOn with
  | ind n ih =>
      by_cases hsmall : n < 10
      · rw [naturalDigits_of_lt hsmall]
        exact hsmall
      · have hfront := ih (n / 10) (by omega)
        rw [naturalDigits_of_ge hsmall, List.length_append, List.length_singleton, Nat.pow_succ]
        omega

/-- A positive number has no more digits than are needed for it. -/
theorem length_naturalDigits_le (hpositive : 0 < n) (hbound : n < 10 ^ count) :
    (naturalDigits n).length ≤ count := by
  induction n using Nat.strongRecOn generalizing count with
  | ind n ih =>
      cases count with
      | zero =>
          rw [Nat.pow_zero] at hbound
          omega
      | succ count =>
          by_cases hsmall : n < 10
          · rw [naturalDigits_of_lt hsmall, List.length_singleton]
            exact Nat.succ_pos count
          · rw [Nat.pow_succ] at hbound
            rw [naturalDigits_of_ge hsmall, List.length_append, List.length_singleton]
            exact Nat.succ_le_succ (ih (n / 10) (by omega) (by omega) (by omega))

/-! ## Significant digits -/

/-- Neither a point nor a sign is a significant digit. -/
theorem significantDigits_withPoint (whole fraction : List Char) (negative : Bool) :
    significantDigits ((if negative then ['-'] else []) ++ withPoint whole fraction) =
      significantDigits (whole ++ fraction) := by
  have hsign : (if negative then ['-'] else []).filter Char.isDigit = [] := by
    cases negative <;> rfl
  have hpoint : (withPoint whole fraction).filter Char.isDigit =
      (whole ++ fraction).filter Char.isDigit := by
    unfold withPoint
    split
    · rename_i hnone
      rw [hnone, List.append_nil]
    · rw [List.filter_append, List.filter_append, List.filter_cons_of_neg (by decide)]
  unfold significantDigits
  rw [List.filter_append, hsign, hpoint, List.nil_append]

section Zeros

variable (hdigits : ∀ c ∈ cs, c.isDigit) (hfirst : cs.head? ≠ some '0')
  (hlast : cs.getLast? ≠ some '0') (hne : cs ≠ [])
include hdigits hfirst hlast hne

/-- Zeros around digits that neither begin nor end with one are not significant. -/
theorem significantDigits_of_zeros (front back : Nat) :
    significantDigits (List.replicate front '0' ++ (cs ++ List.replicate back '0')) =
      cs.length := by
  have hend : (cs ++ List.replicate back '0').rdropWhile (· == '0') = cs := by
    induction back with
    | zero =>
        rw [List.replicate_zero, List.append_nil, List.rdropWhile_eq_self_iff]
        intro hnil hzero
        apply hlast
        rw [List.getLast?_eq_some_getLast hnil, eq_of_beq hzero]
    | succ back ih =>
        rw [List.replicate_succ', ← List.append_assoc, List.rdropWhile_concat_pos _ _ _ (by rfl)]
        exact ih
  have hstart : (cs ++ List.replicate back '0').dropWhile (· == '0') =
      cs ++ List.replicate back '0' := by
    cases cs with
    | nil => exact absurd rfl hne
    | cons c rest =>
        rw [List.cons_append]
        apply List.dropWhile_cons_of_neg
        intro hzero
        exact hfirst (congrArg some (eq_of_beq hzero))
  have hall : ∀ c ∈ List.replicate front '0' ++ (cs ++ List.replicate back '0'), c.isDigit := by
    intro c hmem
    rw [List.mem_append, List.mem_append] at hmem
    rcases hmem with hzero | hinside | hzero
    · exact replicate_zero_isDigit front c hzero
    · exact hdigits c hinside
    · exact replicate_zero_isDigit back c hzero
  have hzeros : ∀ c ∈ List.replicate front '0', (c == '0') = true := by
    intro c hmem
    rw [List.eq_of_mem_replicate hmem]
    rfl
  unfold significantDigits
  rw [List.filter_eq_self.mpr hall, List.dropWhile_append_of_pos hzeros, hstart, hend]

end Zeros

/-! ## The notation of a decimal -/

/-- What the plain notation of a decimal is made of: it has a fraction exactly if the last digit of
the decimal stands behind the point, and only the digits of the decimal are significant. -/
structure LaidOut (d : Decimal) (whole fraction : List Char) : Prop where
  text : d.plain = withPoint whole fraction
  plain : IsPlain whole fraction
  point : fraction = [] ↔ 0 ≤ d.exponent
  digits : significantDigits (whole ++ fraction) = (naturalDigits d.significand).length

section Layout

variable (hpositive : 0 < d.significand) (hdigit : d.significand % 10 ≠ 0)
include hpositive hdigit

/-- A multiple of one is written with zeros up to the place of the ones. -/
theorem laidOut_of_nonneg (hexponent : 0 ≤ d.exponent) :
    d.LaidOut (naturalDigits d.significand ++ List.replicate d.exponent.toNat '0') [] where
  text := if_pos hexponent
  plain :=
    { whole_ne_nil := List.append_ne_nil_of_left_ne_nil (naturalDigits_ne_nil _) _
      whole_isDigit := by
        intro c hmem
        rcases List.mem_append.mp hmem with hfront | hback
        · exact naturalDigits_isDigit _ c hfront
        · exact replicate_zero_isDigit _ c hback
      fraction_isDigit := fun c hmem => absurd hmem List.not_mem_nil
      noLeadingZero := by
        rw [List.head?_append_of_ne_nil _ (naturalDigits_ne_nil _)]
        exact fun hzero => absurd hzero (head?_naturalDigits_ne hpositive)
      noTrailingZero := fun hzero => by cases hzero }
  point := iff_of_true rfl hexponent
  digits := by
    rw [List.append_nil]
    exact significantDigits_of_zeros (naturalDigits_isDigit _) (head?_naturalDigits_ne hpositive)
      (getLast?_naturalDigits_ne hdigit) (naturalDigits_ne_nil _) 0 _

/-- A decimal below one is written with zeros behind the point. -/
theorem laidOut_of_short (hexponent : ¬ 0 ≤ d.exponent)
    (hshort : (naturalDigits d.significand).length ≤ (-d.exponent).toNat) :
    d.LaidOut ['0'] (List.replicate
      ((-d.exponent).toNat - (naturalDigits d.significand).length) '0' ++
        naturalDigits d.significand) := by
  have hne := naturalDigits_ne_nil d.significand
  have hsome := List.append_ne_nil_of_right_ne_nil (List.replicate
    ((-d.exponent).toNat - (naturalDigits d.significand).length) '0') hne
  refine ⟨?_, ⟨List.cons_ne_nil _ _, replicate_zero_isDigit 1, ?_, fun _ => rfl, ?_⟩,
    iff_of_false hsome hexponent, ?_⟩
  · unfold plain withPoint
    simp only [if_neg hexponent, if_pos hshort, if_neg hsome]
    rfl
  · intro c hmem
    rcases List.mem_append.mp hmem with hfront | hback
    · exact replicate_zero_isDigit _ c hfront
    · exact naturalDigits_isDigit _ c hback
  · rw [List.getLast?_append_of_ne_nil _ hne]
    exact getLast?_naturalDigits_ne hdigit
  · have hdigits := significantDigits_of_zeros (naturalDigits_isDigit _)
      (head?_naturalDigits_ne hpositive) (getLast?_naturalDigits_ne hdigit) hne
      (1 + ((-d.exponent).toNat - (naturalDigits d.significand).length)) 0
    rw [List.replicate_add, List.replicate_zero, List.append_nil, List.append_assoc] at hdigits
    exact hdigits

/-- Any other decimal is written with the point among its digits. -/
theorem laidOut_of_long (hexponent : ¬ 0 ≤ d.exponent)
    (hlong : ¬ (naturalDigits d.significand).length ≤ (-d.exponent).toNat) :
    let places := (naturalDigits d.significand).length - (-d.exponent).toNat
    d.LaidOut ((naturalDigits d.significand).take places)
      ((naturalDigits d.significand).drop places) := by
  intro places
  have htake : (naturalDigits d.significand).take places ≠ [] := by
    rw [Ne, List.take_eq_nil_iff, not_or]
    exact ⟨by omega, naturalDigits_ne_nil _⟩
  have hdrop : (naturalDigits d.significand).drop places ≠ [] := by
    rw [Ne, List.drop_eq_nil_iff]
    omega
  have hjoined := List.take_append_drop places (naturalDigits d.significand)
  refine ⟨?_, ⟨htake, fun c hmem => naturalDigits_isDigit _ c (List.mem_of_mem_take hmem),
    fun c hmem => naturalDigits_isDigit _ c (List.mem_of_mem_drop hmem), ?_, ?_⟩,
    iff_of_false hdrop hexponent, ?_⟩
  · unfold plain withPoint
    simp only [if_neg hexponent, if_neg hlong, if_neg hdrop]
    rfl
  · rw [← List.head?_append_of_ne_nil _ htake, hjoined]
    exact fun hzero => absurd hzero (head?_naturalDigits_ne hpositive)
  · rw [← List.getLast?_append_of_ne_nil _ hdrop, hjoined]
    exact getLast?_naturalDigits_ne hdigit
  · have hdigits := significantDigits_of_zeros (naturalDigits_isDigit _)
      (head?_naturalDigits_ne hpositive) (getLast?_naturalDigits_ne hdigit)
      (naturalDigits_ne_nil _) 0 0
    rw [List.replicate_zero, List.nil_append, List.append_nil] at hdigits
    rw [hjoined, hdigits]

/-- A decimal whose significand does not end with a zero has a plain notation without superfluous
digits. -/
theorem exists_laidOut : ∃ whole fraction, d.LaidOut whole fraction := by
  by_cases hexponent : 0 ≤ d.exponent
  · exact ⟨_, _, laidOut_of_nonneg hpositive hdigit hexponent⟩
  · by_cases hshort : (naturalDigits d.significand).length ≤ (-d.exponent).toNat
    · exact ⟨_, _, laidOut_of_short hpositive hdigit hexponent hshort⟩
    · exact ⟨_, _, laidOut_of_long hpositive hdigit hexponent hshort⟩

end Layout

/-- The value of a decimal that does not end with a zero is integral exactly if it is a multiple of
one. -/
theorem exists_value_eq_natCast_iff (hdigit : d.significand % 10 ≠ 0) :
    (∃ n : Nat, d.value = n) ↔ 0 ≤ d.exponent := by
  unfold value
  constructor
  · rintro ⟨n, hvalue⟩
    by_contra hexponent
    obtain ⟨places, hplaces⟩ : ∃ places : Nat, d.exponent = -((places + 1 : Nat) : Int) :=
      ⟨(-d.exponent).toNat - 1, by omega⟩
    rw [hplaces, zpow_neg, zpow_natCast, ← div_eq_mul_inv,
      div_eq_iff (pow_ne_zero _ (by norm_num))] at hvalue
    have hmultiple : d.significand = n * 10 ^ (places + 1) := by exact_mod_cast hvalue
    rw [Nat.pow_succ, ← Nat.mul_assoc] at hmultiple
    omega
  · intro hexponent
    refine ⟨d.significand * 10 ^ d.exponent.toNat, ?_⟩
    rw [Nat.cast_mul, Nat.cast_pow, Nat.cast_ofNat, ← zpow_natCast, Int.toNat_of_nonneg hexponent]

end DynamicValue.Decimal
