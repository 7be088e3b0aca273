/-
# The grammar of decimals

A decimal has digits on at least one side of an optional point, and an optional exponent behind
them. Its value is a rational number, without any rounding.

Reading follows the grammar. It takes the longest row of digits wherever the grammar allows one;
since neither a point nor the letter of an exponent is a digit, no other division of a text is
possible.
-/

import DynamicValue.Proofs.Decimal.Rounding
import DynamicValue.Proofs.Decimal.Row
import Mathlib.Data.List.TakeWhile

namespace DynamicValue

namespace Decimal

/-- A text with a sign, or without one, in front of the rest. -/
inductive Signed : Bool → List Char → List Char → Prop
  | bare {rest : List Char} : Signed false rest rest
  | plus {rest : List Char} : Signed false rest ('+' :: rest)
  | minus {rest : List Char} : Signed true rest ('-' :: rest)

/-- The texts that spell an exponent of ten. -/
inductive ExponentSpelling : List Char → Int → Prop
  | absent : ExponentSpelling [] 0
  | present {letter : Char} {negative : Bool} {digits cs : List Char} {n : Nat}
      (hletter : letter = 'e' ∨ letter = 'E') (hsign : Signed negative digits cs)
      (hrow : Row digits n) : ExponentSpelling (letter :: cs) (withSign negative n)

/-- The texts that spell a decimal without a sign, with its value. -/
inductive Spelling : List Char → ℚ → Prop
  | integer {whole tail : List Char} {n : Nat} {exponent : Int} (hrow : Row whole n)
      (hexponent : ExponentSpelling tail exponent) : Spelling (whole ++ tail) (n * 10 ^ exponent)
  | point {whole fraction tail : List Char} {n : Nat} {exponent : Int}
      (hrow : Row (whole ++ fraction) n) (hexponent : ExponentSpelling tail exponent) :
      Spelling (whole ++ '.' :: (fraction ++ tail)) (n * 10 ^ (exponent - fraction.length))

variable {n : Nat} {c : Char} {cs rest whole fraction tail : List Char} {negative : Bool}
  {exponent : Int} {d : Decimal}

/-! ## Signs -/

/-- A digit is none of the letters and signs that a number may begin with. -/
theorem isDigit_ne (hdigit : c.isDigit) :
    c.toLower ≠ 'i' ∧ c.toLower ≠ 'n' ∧ c ≠ '-' ∧ c ≠ '+' := by
  unfold Char.isDigit at hdigit
  rw [Bool.and_eq_true, decide_eq_true_eq, decide_eq_true_eq] at hdigit
  have hlower : c.toLower = c := by
    unfold Char.toLower
    rw [dif_neg]
    intro hupper
    exact absurd (UInt32.le_trans hupper.1 hdigit.2) (by decide)
  rw [hlower]
  refine ⟨?_, ?_, ?_, ?_⟩ <;> rintro rfl <;> revert hdigit <;> decide

theorem exists_digit_of_ne_nil (hdigits : ∀ c ∈ cs, c.isDigit) (hne : cs ≠ []) :
    ∃ c rest, cs = c :: rest ∧ c.isDigit := by
  cases cs with
  | nil => exact absurd rfl hne
  | cons c rest => exact ⟨c, rest, rfl, hdigits c List.mem_cons_self⟩

theorem splitSign_of_ne (hminus : ∀ rest, cs ≠ '-' :: rest) (hplus : ∀ rest, cs ≠ '+' :: rest) :
    splitSign cs = (false, cs) := by
  unfold splitSign
  split
  · exact absurd rfl (hminus _)
  · exact absurd rfl (hplus _)
  · rfl

theorem splitSign_of_isDigit (hdigit : c.isDigit) :
    splitSign (c :: rest) = (false, c :: rest) := by
  obtain ⟨-, -, hminus, hplus⟩ := isDigit_ne hdigit
  exact splitSign_of_ne (fun _ heq => hminus (List.cons.inj heq).1)
    (fun _ heq => hplus (List.cons.inj heq).1)

theorem Row.splitSign_eq (hrow : Row cs n) : splitSign cs = (false, cs) := by
  obtain ⟨c, rest, rfl, hdigit⟩ := exists_digit_of_ne_nil hrow.isDigit hrow.ne_nil
  exact splitSign_of_isDigit hdigit

theorem signed_splitSign (cs : List Char) : Signed (splitSign cs).1 (splitSign cs).2 cs := by
  unfold splitSign
  split
  · exact .minus
  · exact .plus
  · exact .bare

/-- A sign is split off what does not begin with another one. -/
theorem Signed.splitSign_eq (hsign : Signed negative rest cs)
    (hrest : splitSign rest = (false, rest)) : splitSign cs = (negative, rest) := by
  cases hsign with
  | bare => exact hrest
  | plus => rfl
  | minus => rfl

/-! ## Exponents -/

/-- Exactly the spelled exponents are read. -/
theorem exponent?_eq_some_iff : exponent? cs = some exponent ↔ ExponentSpelling cs exponent := by
  constructor
  · intro hread
    cases cs with
    | nil =>
        cases hread
        exact .absent
    | cons letter signed =>
        simp only [exponent?] at hread
        split at hread
        · rename_i hletter
          obtain ⟨n, hdigits, rfl⟩ := Option.map_eq_some_iff.mp hread
          exact .present hletter (signed_splitSign signed) (natural?_eq_some_iff.mp hdigits)
        · cases hread
  · intro hspelling
    cases hspelling with
    | absent => rfl
    | present hletter hsign hrow =>
        simp only [exponent?, if_pos hletter, hsign.splitSign_eq hrow.splitSign_eq,
          natural?_eq_some_iff.mpr hrow, Option.map_some]

/-- An exponent does not begin with a digit. -/
theorem ExponentSpelling.not_isDigit (hspelling : ExponentSpelling cs exponent) :
    ∀ c ∈ cs.head?, ¬ c.isDigit := by
  cases hspelling with
  | absent =>
      intro c hmem
      cases hmem
  | present hletter =>
      intro c hmem
      cases hmem
      rcases hletter with rfl | rfl <;> decide

/-! ## Decimals -/

/-- A row of digits ends where something else begins. -/
theorem span_digits (hdigits : ∀ c ∈ cs, c.isDigit) (hrest : ∀ c ∈ rest.head?, ¬ c.isDigit) :
    (cs ++ rest).takeWhile Char.isDigit = cs ∧ (cs ++ rest).dropWhile Char.isDigit = rest := by
  rw [List.takeWhile_append_of_pos hdigits, List.dropWhile_append_of_pos hdigits]
  cases rest with
  | nil => exact ⟨List.append_nil cs, rfl⟩
  | cons c rest =>
      have hother := hrest c rfl
      rw [List.takeWhile_cons_of_neg hother, List.dropWhile_cons_of_neg hother]
      exact ⟨List.append_nil cs, rfl⟩

/-- Digits without a point are read as an integer, times the power of ten behind them. -/
theorem unsigned?_integer (hrow : Row whole n) (hexponent : ExponentSpelling tail exponent) :
    unsigned? (whole ++ tail) = some ⟨n, exponent⟩ := by
  obtain ⟨htake, hdrop⟩ := span_digits hrow.isDigit hexponent.not_isDigit
  have hpoint : splitFraction tail = ([], tail) := by
    cases hexponent with
    | absent => rfl
    | present hletter => rcases hletter with rfl | rfl <;> rfl
  unfold unsigned?
  rw [htake, hdrop, hpoint]
  simp only [hrow.ne_nil, false_and, if_false, exponent?_eq_some_iff.mpr hexponent,
    Option.map_some, List.append_nil, digitsValue_eq_rowValue, hrow.value, List.length_nil,
    Nat.cast_zero, Int.sub_zero]

/-- Digits around a point are read as one number, with as many places as there are behind it. -/
theorem unsigned?_point (hrow : Row (whole ++ fraction) n)
    (hexponent : ExponentSpelling tail exponent) :
    unsigned? (whole ++ '.' :: (fraction ++ tail)) =
      some ⟨n, exponent - fraction.length⟩ := by
  have hwhole : ∀ c ∈ whole, c.isDigit := fun c hmem =>
    hrow.isDigit c (List.mem_append_left _ hmem)
  have hfraction : ∀ c ∈ fraction, c.isDigit := fun c hmem =>
    hrow.isDigit c (List.mem_append_right _ hmem)
  have hpoint : ∀ c ∈ ('.' :: (fraction ++ tail)).head?, ¬ c.isDigit := by
    intro c hmem
    cases hmem
    decide
  obtain ⟨htake, hdrop⟩ := span_digits hwhole hpoint
  obtain ⟨htake', hdrop'⟩ := span_digits hfraction hexponent.not_isDigit
  have hsplit : splitFraction ('.' :: (fraction ++ tail)) = (fraction, tail) :=
    congrArg₂ Prod.mk htake' hdrop'
  have hsome : ¬ (whole = [] ∧ fraction = []) := fun hnone =>
    hrow.ne_nil (List.append_eq_nil_iff.mpr hnone)
  unfold unsigned?
  rw [htake, hdrop, hsplit]
  simp only [hsome, if_false, exponent?_eq_some_iff.mpr hexponent, Option.map_some,
    digitsValue_eq_rowValue, hrow.value]

/-- What is read as a decimal spells it. -/
theorem spelling_of_unsigned? (hread : unsigned? cs = some d) : Spelling cs d.value := by
  have hcs : cs.takeWhile Char.isDigit ++ cs.dropWhile Char.isDigit = cs :=
    List.takeWhile_append_dropWhile
  have hwhole : ∀ c ∈ cs.takeWhile Char.isDigit, c.isDigit := fun _ => List.mem_takeWhile_imp
  unfold unsigned? at hread
  generalize cs.takeWhile Char.isDigit = whole at hcs hwhole hread
  generalize cs.dropWhile Char.isDigit = behind at hcs hread
  subst hcs
  simp only [] at hread
  split at hread
  · cases hread
  · rename_i hdigits
    obtain ⟨exponent, hexponent, rfl⟩ := Option.map_eq_some_iff.mp hread
    rw [exponent?_eq_some_iff] at hexponent
    rw [digitsValue_eq_rowValue]
    -- Behind the first digits there is a point with more of them, or the exponent already.
    unfold splitFraction at hdigits hexponent ⊢
    split at hdigits
    · rename_i behind
      simp only [] at hexponent hdigits ⊢
      have hbehind : behind.takeWhile Char.isDigit ++ behind.dropWhile Char.isDigit = behind :=
        List.takeWhile_append_dropWhile
      have hfraction : ∀ c ∈ behind.takeWhile Char.isDigit, c.isDigit := fun _ =>
        List.mem_takeWhile_imp
      nth_rewrite 1 [← hbehind]
      refine .point ⟨mt List.append_eq_nil_iff.mp hdigits, ?_, rfl⟩ hexponent
      intro c hmem
      exact (List.mem_append.mp hmem).elim (hwhole c) (hfraction c)
    · simp only [] at hexponent hdigits ⊢
      rw [List.append_nil, List.length_nil, Nat.cast_zero, Int.sub_zero]
      exact .integer ⟨fun hnil => hdigits ⟨hnil, trivial⟩, hwhole, rfl⟩ hexponent

/-- Exactly the spelled decimals are read, with their value. -/
theorem exists_unsigned?_iff {q : ℚ} :
    (∃ d, unsigned? cs = some d ∧ d.value = q) ↔ Spelling cs q := by
  constructor
  · rintro ⟨d, hread, rfl⟩
    exact spelling_of_unsigned? hread
  · intro hspelling
    cases hspelling with
    | integer hrow hexponent => exact ⟨_, unsigned?_integer hrow hexponent, rfl⟩
    | point hrow hexponent => exact ⟨_, unsigned?_point hrow hexponent, rfl⟩

/-- A decimal begins with a digit or with its point. -/
theorem Spelling.eq_cons {q : ℚ} (hspelling : Spelling cs q) :
    ∃ c rest, cs = c :: rest ∧ (c.isDigit ∨ c = '.') := by
  have hdigits : ∀ {digits rest : List Char}, (∀ c ∈ digits, c.isDigit) → digits ≠ [] →
      ∃ c front, digits ++ rest = c :: front ∧ (c.isDigit ∨ c = '.') := by
    intro digits rest hall hne
    obtain ⟨c, front, rfl, hdigit⟩ := exists_digit_of_ne_nil hall hne
    exact ⟨c, front ++ rest, rfl, .inl hdigit⟩
  cases hspelling with
  | integer hrow hexponent => exact hdigits hrow.isDigit hrow.ne_nil
  | @point whole fraction tail n exponent hrow hexponent =>
      by_cases hnil : whole = []
      · exact ⟨'.', fraction ++ tail, by rw [hnil, List.nil_append], .inr rfl⟩
      · exact hdigits (fun c hmem => hrow.isDigit c (List.mem_append_left _ hmem)) hnil

/-- A decimal does not begin with a sign. -/
theorem Spelling.splitSign_eq {q : ℚ} (hspelling : Spelling cs q) :
    splitSign cs = (false, cs) := by
  obtain ⟨c, rest, rfl, hdigit | rfl⟩ := hspelling.eq_cons
  · exact splitSign_of_isDigit hdigit
  · rfl

end Decimal

end DynamicValue
