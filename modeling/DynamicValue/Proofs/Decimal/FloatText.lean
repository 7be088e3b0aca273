/-
# The text of a floating-point number

A finite number is written in plain notation, with a minus sign exactly if its sign bit is set. The
text is read back to the same bit pattern, and no decimal with fewer significant digits is read back
to a number of the same value. That holds at either width, for normal and subnormal numbers, and on
both sides of a power of two, where the neighbours are not equally far away.
-/

import DynamicValue.Payload.Text
import DynamicValue.Proofs.Decimal.Minimal
import DynamicValue.Proofs.Decimal.Plain
import DynamicValue.Proofs.Number.Wide

namespace DynamicValue

namespace Binary

variable {kind : FloatKind} {x y : Binary kind}

/-! ## Decimals of a value -/

/-- A finite number that a decimal is rounded to owns the decimal. -/
theorem ownsDecimal_of_round {negative : Bool} {d : Decimal}
    (hfinite : (Decimal.round kind negative d).isFinite) :
    kind.ownsDecimal (Decimal.round kind negative d).magnitude d := by
  have howns := kind.nearestOrdinal_owns (d.inUnits kind).1 (d.inUnits_pos kind)
  rw [Decimal.round_eq_nearest] at hfinite ⊢
  have hbelow : min (kind.nearestOrdinal (d.inUnits kind).1 (d.inUnits kind).2) kind.infinity <
      kind.infinity := of_decide_eq_true hfinite
  have hmagnitude : (nearest kind negative (d.inUnits kind).1 (d.inUnits kind).2).magnitude =
      kind.nearestOrdinal (d.inUnits kind).1 (d.inUnits kind).2 := Nat.min_eq_left (by omega)
  rw [hmagnitude]
  exact howns

/-! ## The text -/

/-- The text of a number is the text of its absolute value behind its sign. -/
theorem text_toList (hnumber : x.isNaN = false) :
    x.text.toList = (if x.negative then ['-'] else []) ++ x.magnitudeText := by
  rw [text, if_neg (Bool.eq_false_iff.mp hnumber), String.toList_ofList]
  cases x.negative with
  | false => rfl
  | true => rfl

/-- What the text of a finite number is, what it denotes, and which decimals it is compared with:
the text has the fewest significant digits of all decimals that are read as a number of the same
value. -/
structure WrittenMinimally (x : Binary kind) (text : String) (whole fraction : List Char) (q : ℚ) :
    Prop where
  text_eq : text.toList =
    (if x.negative then ['-'] else []) ++ Decimal.withPoint whole fraction
  plain : Decimal.IsPlain whole fraction
  spelling : Numeral.Spelling text.toList (.rational x.negative q)
  integral : fraction = [] ↔ ∃ n : Nat, q = n
  readBack : read? kind text = some x
  rounded : ∀ y : Binary kind, y.Rounds x.negative q ↔ y = x
  digits : ∃ (n : Nat) (exponent : Int), q = n * 10 ^ exponent ∧
    n < 10 ^ Decimal.significantDigits text.toList
  minimal : ∀ (other : String) (negative : Bool) (n : Nat) (exponent : Int) (count : Nat)
    (y : Binary kind), Numeral.Spelling other.toList (.rational negative (n * 10 ^ exponent)) →
    n < 10 ^ count → read? kind other = some y → y.isFinite → y.value = x.value →
    Decimal.significantDigits text.toList ≤ count

/-- The layout of the decimal that is written for a number, zero included. -/
theorem exists_layout (x : Binary kind) :
    ∃ whole fraction, x.shortest.plain = Decimal.withPoint whole fraction ∧
      Decimal.IsPlain whole fraction ∧
      (fraction = [] ↔ ∃ n : Nat, x.shortest.value = n) ∧
      x.shortest.significand < 10 ^ Decimal.significantDigits (whole ++ fraction) ∧
      ∀ d count, kind.ownsDecimal x.magnitude d → d.significand < 10 ^ count →
        Decimal.significantDigits (whole ++ fraction) ≤ count := by
  by_cases hzero : x.magnitude = 0
  · have hshortest : x.shortest = ⟨0, 0⟩ := if_pos hzero
    refine ⟨['0'], [], ?_, ⟨List.cons_ne_nil _ _, Decimal.replicate_zero_isDigit 1,
      fun c hmem => absurd hmem List.not_mem_nil, fun _ => rfl, fun heq => by cases heq⟩, ?_, ?_,
      fun d count howns hcount => Nat.zero_le count⟩
    · rw [hshortest]
      show Decimal.naturalDigits 0 ++ [] = ['0']
      rw [Decimal.naturalDigits_of_lt (by decide)]
      rfl
    · refine iff_of_true rfl ⟨0, ?_⟩
      rw [hshortest, Decimal.value, Nat.cast_zero, zero_mul]
    · rw [hshortest]
      exact Nat.one_pos
  · have hpositive := Nat.pos_of_ne_zero hzero
    have hshortest : x.shortest = kind.shortestDecimal x.magnitude := if_neg hzero
    have hsignificand := @FloatKind.shortestDecimal_significand_pos kind _ hpositive
    have hdigit := @FloatKind.shortestDecimal_mod_ten kind _ hpositive
    obtain ⟨whole, fraction, hlaid⟩ := Decimal.exists_laidOut hsignificand hdigit
    rw [hshortest]
    refine ⟨whole, fraction, hlaid.text, hlaid.plain,
      hlaid.point.trans (Decimal.exists_value_eq_natCast_iff hdigit).symm, ?_,
      fun d count howns hcount => ?_⟩
    · rw [hlaid.digits]
      exact Decimal.lt_pow_length_naturalDigits _
    · rw [hlaid.digits]
      exact Decimal.length_naturalDigits_le hsignificand
        (FloatKind.shortestDecimal_lt_of_owns hpositive howns hcount)

/-- Every finite number of either width is written in plain notation, with the fewest digits that
are read back to it. -/
theorem finite_numbers_are_written_minimally (x : Binary kind) (hfinite : x.isFinite) :
    ∃ whole fraction q,
      x.WrittenMinimally ((ValueType.float kind).textOf x) whole fraction q := by
  have hnumber := isNaN_of_isFinite hfinite
  obtain ⟨whole, fraction, hlayout, hplain, hintegral, hdigits, hminimal⟩ := x.exists_layout
  have htext : ((ValueType.float kind).textOf x).toList =
      (if x.negative then ['-'] else []) ++ Decimal.withPoint whole fraction := by
    rw [← hlayout, ← magnitudeText_eq_plain hfinite]
    exact text_toList hnumber
  have hcount : Decimal.significantDigits ((ValueType.float kind).textOf x).toList =
      Decimal.significantDigits (whole ++ fraction) := by
    rw [htext, Decimal.significantDigits_withPoint]
  have hspelling := text_spelling_of_isFinite hfinite
  have hread : read? kind x.text = some x := read?_text hnumber
  rw [← hcount] at hdigits hminimal
  refine ⟨whole, fraction, x.shortest.value, htext, hplain, hspelling, hintegral, hread,
    fun y => ?_, ⟨_, _, rfl, hdigits⟩, ?_⟩
  · obtain ⟨z, hz, hrounds⟩ := exists_read?_of_rational hspelling
    rw [hread] at hz
    cases hz
    exact ⟨fun hother => hother.unique hrounds, fun heq => heq ▸ hrounds⟩
  · intro other negative n exponent count y hother hbound hy hfiniteY hvalue
    have hround : read? kind other = some (Decimal.round kind negative ⟨n, exponent⟩) :=
      read?_of_rational hother
    rw [hround] at hy
    cases hy
    have howns := ownsDecimal_of_round hfiniteY
    rw [magnitude_eq_of_value_eq hvalue] at howns
    exact hminimal ⟨n, exponent⟩ count howns hbound

/-- Two to the power of minus 44: the number below it is only half as far away as the one above. -/
def binadeStart : Binary .double := .ofBits .double 0x3D30000000000000

theorem binade_start_is_written_minimally :
    (ValueType.float .double).textOf binadeStart = "0.00000000000005684341886080802" ∧
    read? .double "0.00000000000005684341886080802" = some binadeStart ∧
    ∀ (other : String) (negative : Bool) (n : Nat) (exponent : Int) (y : Binary .double),
      Numeral.Spelling other.toList (.rational negative (n * 10 ^ exponent)) → n < 10 ^ 15 →
      read? .double other = some y → y.isFinite → y.value ≠ binadeStart.value := by
  have htext : (ValueType.float .double).textOf binadeStart =
      "0.00000000000005684341886080802" := by decide +kernel
  obtain ⟨whole, fraction, q, hwritten⟩ :=
    finite_numbers_are_written_minimally binadeStart (by decide +kernel)
  rw [htext] at hwritten
  refine ⟨htext, hwritten.readBack, fun other negative n exponent y hother hbound hy hfinite => ?_⟩
  intro hvalue
  have hcount := hwritten.minimal other negative n exponent 15 y hother hbound hy hfinite hvalue
  exact absurd hcount (by decide)

end Binary

end DynamicValue
