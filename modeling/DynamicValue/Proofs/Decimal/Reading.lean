/-
# Written numbers are read back

The text of an integer is read back to it in every kind that contains it. The plain notation of a
decimal is read back to a decimal of the same value, be it written as an integer, with zeros behind
the point or with the point among its digits; so the text of a floating-point number is read back to
the same bit pattern, but for what is not a number.
-/

import DynamicValue.Decimal.Written
import DynamicValue.Proofs.Decimal.Numeral
import DynamicValue.Proofs.Decimal.Shortest

namespace DynamicValue

namespace Decimal

variable {n count : Nat} {c : Char} {cs whole fraction : List Char} {d : Decimal}

/-! ## Digits -/

theorem isDigit_digitCharacter (hsmall : n < 10) : (digitCharacter n).isDigit := by
  have hall : ∀ m : Fin 10, (digitCharacter m.val).isDigit := by decide
  exact hall ⟨n, hsmall⟩

theorem naturalDigits_isDigit (n : Nat) : ∀ c ∈ naturalDigits n, c.isDigit := by
  induction n using Nat.strongRecOn with
  | ind n ih =>
      intro c hmem
      unfold naturalDigits at hmem
      by_cases hsmall : n < 10
      · rw [if_pos hsmall, List.mem_singleton] at hmem
        rw [hmem]
        exact isDigit_digitCharacter hsmall
      · rw [if_neg hsmall, List.mem_append, List.mem_singleton] at hmem
        rcases hmem with hfront | hlast
        · exact ih (n / 10) (by omega) c hfront
        · rw [hlast]
          exact isDigit_digitCharacter (Nat.mod_lt n (by decide))

theorem naturalDigits_ne_nil (n : Nat) : naturalDigits n ≠ [] := by
  unfold naturalDigits
  by_cases hsmall : n < 10
  · rw [if_pos hsmall]
    exact List.cons_ne_nil _ _
  · rw [if_neg hsmall]
    exact List.append_ne_nil_of_right_ne_nil _ (List.cons_ne_nil _ _)

/-- The digits of a number are read back to it. -/
theorem natural?_naturalDigits (n : Nat) : natural? (naturalDigits n) = some n := by
  have hdigits : naturalDigits n ≠ [] ∧ (naturalDigits n).all Char.isDigit :=
    ⟨naturalDigits_ne_nil n, List.all_eq_true.mpr (naturalDigits_isDigit n)⟩
  unfold natural?
  rw [if_pos hdigits, digitsValue_naturalDigits]

theorem replicate_zero_isDigit (count : Nat) : ∀ c ∈ List.replicate count '0', c.isDigit := by
  intro c hmem
  rw [List.eq_of_mem_replicate hmem]
  decide

/-- Zeros behind the digits of a number multiply it by a power of ten. -/
theorem digitsValue_append_zeros (cs : List Char) (count : Nat) :
    digitsValue (cs ++ List.replicate count '0') = digitsValue cs * 10 ^ count := by
  induction count with
  | zero => rw [List.replicate_zero, List.append_nil, Nat.pow_zero, Nat.mul_one]
  | succ count ih =>
      have hzero : digitValue '0' = 0 := by decide
      rw [List.replicate_succ', ← List.append_assoc, digitsValue_append_singleton, ih, hzero]
      ring

/-- Zeros in front of the digits of a number do not change it. -/
theorem digitsValue_zeros_append (count : Nat) (cs : List Char) :
    digitsValue (List.replicate count '0' ++ cs) = digitsValue cs := by
  induction count with
  | zero => rw [List.replicate_zero, List.nil_append]
  | succ count ih => exact ih

/-! ## Plain notation -/

/-- The notation of a multiple of one: its digits, and zeros up to the place of the ones. -/
theorem plain_of_nonneg (hexponent : 0 ≤ d.exponent) :
    Row d.plain (d.significand * 10 ^ d.exponent.toNat) := by
  have hplain : d.plain = naturalDigits d.significand ++ List.replicate d.exponent.toNat '0' :=
    if_pos hexponent
  rw [hplain]
  refine ⟨List.append_ne_nil_of_left_ne_nil (naturalDigits_ne_nil _) _, ?_, ?_⟩
  · intro c hmem
    rcases List.mem_append.mp hmem with hfront | hback
    · exact naturalDigits_isDigit _ c hfront
    · exact replicate_zero_isDigit _ c hback
  · rw [← digitsValue_eq_rowValue, digitsValue_append_zeros, digitsValue_naturalDigits]

/-- The notation of any other decimal: the digits of its significand, filled up with zeros in front,
with a point among them. -/
theorem plain_of_neg (hexponent : ¬ 0 ≤ d.exponent) :
    ∃ whole fraction, d.plain = whole ++ '.' :: fraction ∧
      Row (whole ++ fraction) d.significand ∧ fraction.length = (-d.exponent).toNat := by
  have hdigits := naturalDigits_isDigit d.significand
  have hvalue := digitsValue_naturalDigits d.significand
  have hne := naturalDigits_ne_nil d.significand
  unfold plain
  simp only [if_neg hexponent]
  generalize naturalDigits d.significand = digits at hdigits hvalue hne ⊢
  by_cases hshort : digits.length ≤ (-d.exponent).toNat
  · rw [if_pos hshort]
    refine ⟨['0'], List.replicate ((-d.exponent).toNat - digits.length) '0' ++ digits, rfl,
      ⟨List.cons_ne_nil _ _, ?_, ?_⟩, ?_⟩
    · intro c hmem
      rcases List.mem_append.mp hmem with hfirst | hmem
      · exact replicate_zero_isDigit 1 c hfirst
      · exact (List.mem_append.mp hmem).elim (replicate_zero_isDigit _ c) (hdigits c)
    · rw [← digitsValue_eq_rowValue]
      show digitsValue (List.replicate 1 '0' ++ _) = _
      rw [digitsValue_zeros_append, digitsValue_zeros_append, hvalue]
    · rw [List.length_append, List.length_replicate]
      omega
  · rw [if_neg hshort]
    refine ⟨digits.take (digits.length - (-d.exponent).toNat),
      digits.drop (digits.length - (-d.exponent).toNat), rfl, ?_, ?_⟩
    · rw [List.take_append_drop, ← hvalue, digitsValue_eq_rowValue]
      exact ⟨hne, hdigits, rfl⟩
    · rw [List.length_drop]
      omega

/-- The plain notation of a decimal spells its value. -/
theorem plain_spelling (d : Decimal) : Spelling d.plain d.value := by
  unfold value
  by_cases hexponent : 0 ≤ d.exponent
  · have hspelling := Spelling.integer (plain_of_nonneg hexponent) .absent
    have hpower : (10 : ℚ) ^ d.exponent = 10 ^ d.exponent.toNat := by
      rw [← zpow_natCast, Int.toNat_of_nonneg hexponent]
    rw [List.append_nil, zpow_zero, mul_one, Nat.cast_mul, Nat.cast_pow, Nat.cast_ofNat,
      ← hpower] at hspelling
    exact hspelling
  · obtain ⟨whole, fraction, hplain, hrow, hlength⟩ := plain_of_neg hexponent
    have hspelling := Spelling.point hrow .absent
    have hplaces : 0 - (fraction.length : Int) = d.exponent := by omega
    rw [List.append_nil, ← hplain, hplaces] at hspelling
    exact hspelling

end Decimal

/-! ## Integers -/

/-- The text of an integer is read back to it in its kind. -/
theorem IntKind.read?_integerText {kind : IntKind} (n : kind.Value) :
    kind.read? (Decimal.integerText n.val) = some n := by
  have hdigits : Decimal.Row (Decimal.naturalDigits n.val.natAbs) n.val.natAbs :=
    Decimal.natural?_eq_some_iff.mp (Decimal.natural?_naturalDigits _)
  unfold read? Decimal.integerText
  rw [String.toList_ofList]
  by_cases hnegative : n.val < 0
  · rw [if_pos hnegative]
    have hsigned : kind.signed = true := by
      by_contra hunsigned
      have hleast : kind.least = 0 := if_neg hunsigned
      have hrange := n.property.1
      omega
    have habs : n.val = Decimal.withSign true n.val.natAbs := by
      show n.val = -(n.val.natAbs : Int)
      omega
    simp only [if_pos hsigned, readDigits?_eq_some_iff.mpr ⟨_, hdigits, habs⟩]
  · rw [if_neg hnegative]
    have habs : n.val = Decimal.withSign false n.val.natAbs := by
      show n.val = (n.val.natAbs : Int)
      omega
    obtain ⟨c, rest, hcons, hdigit⟩ := Decimal.exists_digit_of_ne_nil
      (Decimal.naturalDigits_isDigit n.val.natAbs) (Decimal.naturalDigits_ne_nil _)
    obtain ⟨-, -, hminus, hplus⟩ := Decimal.isDigit_ne hdigit
    have hread : kind.readDigits? false (c :: rest) = some n :=
      readDigits?_eq_some_iff.mpr ⟨_, hcons ▸ hdigits, habs⟩
    rw [hcons]
    split
    · rename_i heq
      exact absurd (List.cons.inj heq).1 hminus
    · rename_i heq
      exact absurd (List.cons.inj heq).1 hplus
    · exact hread

/-! ## Floating-point numbers -/

namespace Binary

variable {kind : FloatKind} {x : Binary kind}

/-- The decimal that is written for the absolute value of a finite number. -/
def shortest (x : Binary kind) : Decimal :=
  if x.magnitude = 0 then ⟨0, 0⟩ else kind.shortestDecimal x.magnitude

/-- A finite number owns the decimal that is written for it. -/
theorem ownsDecimal_shortest (x : Binary kind) : kind.ownsDecimal x.magnitude x.shortest := by
  unfold shortest
  split
  · rename_i hzero
    rw [hzero]
    cases kind <;> decide +kernel
  · rename_i hnonzero
    exact FloatKind.ownsDecimal_shortestDecimal (Nat.pos_of_ne_zero hnonzero)

/-- The text of a number is its sign and the text of its absolute value. -/
theorem text_signed (hnumber : x.isNaN = false) :
    Decimal.Signed x.negative x.magnitudeText x.text.toList := by
  unfold text
  rw [if_neg (Bool.eq_false_iff.mp hnumber), String.toList_ofList]
  cases x.negative with
  | false => exact .bare
  | true => exact .minus

theorem text_spelling_of_isNaN (hnan : x.isNaN) : Numeral.Spelling x.text.toList .notANumber := by
  unfold text
  rw [if_pos hnan]
  exact .notANumber .bare ((map_toLower_eq_iff (by decide)).mp (by decide))

theorem text_spelling_of_isInfinite (hinfinite : x.isInfinite) :
    Numeral.Spelling x.text.toList (.infinity x.negative) := by
  have hmagnitude : x.magnitude = kind.infinity := of_decide_eq_true hinfinite
  have hnumber : x.isNaN = false := decide_eq_false (by omega)
  have hword : x.magnitudeText = "inf".toList := if_pos hinfinite
  exact .infinity (text_signed hnumber)
    (.inl ((map_toLower_eq_iff (by decide)).mp (by rw [hword]; decide)))

/-- A finite number is written as its decimal in plain notation. -/
theorem magnitudeText_eq_plain (hfinite : x.isFinite) : x.magnitudeText = x.shortest.plain := by
  have hmagnitude : x.magnitude < kind.infinity := of_decide_eq_true hfinite
  have hinfinite : ¬ x.isInfinite = true := fun h => by
    have heq : x.magnitude = kind.infinity := of_decide_eq_true h
    omega
  unfold magnitudeText shortest
  rw [if_neg hinfinite]
  split
  · show ['0'] = Decimal.naturalDigits 0 ++ []
    rw [Decimal.naturalDigits]
    rfl
  · rfl

/-- The text of a finite number spells the value of the decimal that is written for it. -/
theorem text_spelling_of_isFinite (hfinite : x.isFinite) :
    Numeral.Spelling x.text.toList (.rational x.negative x.shortest.value) := by
  have hmagnitude : x.magnitude < kind.infinity := of_decide_eq_true hfinite
  have hnumber : x.isNaN = false := decide_eq_false (by omega)
  exact .rational (text_signed hnumber)
    (magnitudeText_eq_plain hfinite ▸ Decimal.plain_spelling x.shortest)

/-- The text of what is not a number is read back to something that is not a number. -/
theorem read?_text_of_isNaN (hnan : x.isNaN) : read? kind x.text = some (notANumber kind) :=
  read?_of_notANumber (text_spelling_of_isNaN hnan)

/-- The text of a floating-point number is read back to its bit pattern. -/
theorem read?_text (hnumber : x.isNaN = false) : read? kind x.text = some x := by
  have hbound : x.magnitude ≤ kind.infinity := not_lt.mp (of_decide_eq_false hnumber)
  rcases hbound.lt_or_eq with hfinite | hinfinite
  · rw [read?_of_rational (text_spelling_of_isFinite (decide_eq_true hfinite)),
      Decimal.round_of_ownsDecimal x.ownsDecimal_shortest, ofOrdinal_magnitude hnumber]
  · rw [read?_of_infinity (text_spelling_of_isInfinite (decide_eq_true hinfinite)), infinite,
      ← hinfinite, ofOrdinal_magnitude hnumber]

theorem notANumber_isNaN (kind : FloatKind) : (notANumber kind).isNaN :=
  decide_eq_true (Nat.lt_succ_self kind.infinity)

end Binary

end DynamicValue
