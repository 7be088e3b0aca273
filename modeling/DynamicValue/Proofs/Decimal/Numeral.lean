/-
# The grammar of numerals

A floating-point number is spelled as a word in any letter case or as a decimal, with a sign in
front if one likes. Reading takes the texts that spell a numeral and no others: no word is a decimal
as well, and neither begins with another sign. A rational number is rounded to the format once.
-/

import DynamicValue.Proofs.Decimal.Spelling

namespace DynamicValue

/-! ## Words -/

/-- A word, each of its letters in lower or in upper case. -/
def InAnyCase (word cs : List Char) : Prop :=
  List.Forall₂ (fun letter c => c = letter ∨ c = letter.toUpper) word cs

section Words

variable {c letter : Char} {word cs : List Char}

/-- A small letter is what itself and its capital become in lower case. -/
theorem toLower_eq_iff (hsmall : letter.isLower) :
    c.toLower = letter ↔ c = letter ∨ c = letter.toUpper := by
  unfold Char.isLower at hsmall
  rw [Bool.and_eq_true, decide_eq_true_eq, decide_eq_true_eq] at hsmall
  have hupper : letter.toUpper.val = letter.val + ('A'.val - 'a'.val) := by
    unfold Char.toUpper
    rw [dif_pos hsmall]
  have hlower : c.toLower.val =
      if 'A'.val ≤ c.val ∧ c.val ≤ 'Z'.val then c.val + ('a'.val - 'A'.val) else c.val := by
    unfold Char.toLower
    split <;> rfl
  have hbounds : 'a'.val.toNat = 97 ∧ 'z'.val.toNat = 122 ∧ 'A'.val.toNat = 65 ∧
      'Z'.val.toNat = 90 ∧ ('A'.val - 'a'.val).toNat = 2 ^ 32 - 32 ∧
      ('a'.val - 'A'.val).toNat = 32 := by decide
  -- The cases of a letter are 32 apart; the way to the capital wraps around the 32 bits of a code.
  rw [Char.ext_iff, Char.ext_iff, Char.ext_iff, hupper, hlower]
  simp only [UInt32.le_iff_toNat_le, ← UInt32.toNat_inj, UInt32.toNat_add,
    apply_ite UInt32.toNat] at hsmall ⊢
  split <;> omega

/-- A text in lower case is a word exactly if the text is the word in any case. -/
theorem map_toLower_eq_iff (hsmall : word.all Char.isLower) :
    cs.map Char.toLower = word ↔ InAnyCase word cs := by
  unfold InAnyCase
  induction word generalizing cs with
  | nil => rw [List.map_eq_nil_iff, List.forall₂_nil_left_iff]
  | cons letter word ih =>
      rw [List.all_cons, Bool.and_eq_true] at hsmall
      obtain ⟨hletter, hrest⟩ := hsmall
      cases cs with
      | nil => simp
      | cons c cs =>
          rw [List.map_cons, List.cons.injEq, List.forall₂_cons, ih hrest,
            toLower_eq_iff hletter]

/-- A word does not begin with a sign. -/
theorem InAnyCase.splitSign_eq {letter : Char} (hword : InAnyCase (letter :: word) cs)
    (hsmall : letter.isLower) : Decimal.splitSign cs = (false, cs) := by
  cases hword with
  | cons hletter hrest =>
      rw [← (toLower_eq_iff hsmall).mpr hletter] at hsmall
      apply Decimal.splitSign_of_ne
      · intro rest heq
        rw [(List.cons.inj heq).1] at hsmall
        exact absurd hsmall (by decide)
      · intro rest heq
        rw [(List.cons.inj heq).1] at hsmall
        exact absurd hsmall (by decide)

end Words

/-! ## Numerals -/

/-- What a text can spell: an infinity, what is not a number, or a rational number with a sign. -/
inductive Numeral
  | infinity (negative : Bool)
  | notANumber
  | rational (negative : Bool) (magnitude : ℚ)

/-- The texts that spell a numeral. -/
inductive Numeral.Spelling : List Char → Numeral → Prop
  | infinity {negative : Bool} {word cs : List Char} (hsign : Decimal.Signed negative word cs)
      (hword : InAnyCase "inf".toList word ∨ InAnyCase "infinity".toList word) :
      Numeral.Spelling cs (.infinity negative)
  | notANumber {negative : Bool} {word cs : List Char} (hsign : Decimal.Signed negative word cs)
      (hword : InAnyCase "nan".toList word) : Numeral.Spelling cs .notANumber
  | rational {negative : Bool} {unsigned cs : List Char} {magnitude : ℚ}
      (hsign : Decimal.Signed negative unsigned cs)
      (hdecimal : Decimal.Spelling unsigned magnitude) :
      Numeral.Spelling cs (.rational negative magnitude)

namespace Binary

variable {kind : FloatKind} {negative : Bool} {cs word : List Char} {text : String}

theorem infinityWords_contains_iff :
    infinityWords.contains (cs.map Char.toLower) ↔
      InAnyCase "inf".toList cs ∨ InAnyCase "infinity".toList cs := by
  rw [← map_toLower_eq_iff (by decide), ← map_toLower_eq_iff (by decide), List.contains_iff_mem]
  exact List.mem_pair

theorem eq_notANumberWord_iff :
    cs.map Char.toLower = notANumberWord ↔ InAnyCase "nan".toList cs :=
  map_toLower_eq_iff (by decide)

theorem unsigned?_of_infinity
    (hword : InAnyCase "inf".toList cs ∨ InAnyCase "infinity".toList cs) :
    unsigned? kind negative cs = some (infinite kind negative) :=
  if_pos (infinityWords_contains_iff.mpr hword)

theorem unsigned?_of_notANumber (hword : InAnyCase "nan".toList cs) :
    unsigned? kind negative cs = some (notANumber kind) := by
  have hlower := eq_notANumberWord_iff.mpr hword
  unfold unsigned?
  simp only [hlower]
  rfl

/-- What spells a decimal is not one of the words, and is read as the decimal. -/
theorem unsigned?_of_decimal {d : Decimal} (hspelling : Decimal.Spelling cs d.value) :
    unsigned? kind negative cs = some (Decimal.round kind negative d) := by
  obtain ⟨read, hread, hvalue⟩ := Decimal.exists_unsigned?_iff.mpr hspelling
  obtain ⟨c, rest, rfl, hfirst⟩ := hspelling.eq_cons
  have hletters : c.toLower ≠ 'i' ∧ c.toLower ≠ 'n' := by
    rcases hfirst with hdigit | rfl
    · exact ⟨(Decimal.isDigit_ne hdigit).1, (Decimal.isDigit_ne hdigit).2.1⟩
    · decide
  have hinfinity : ¬ infinityWords.contains ((c :: rest).map Char.toLower) = true := by
    intro hword
    rcases List.mem_pair.mp (List.contains_iff_mem.mp hword) with heq | heq
    · exact hletters.1 (List.cons.inj heq).1
    · exact hletters.1 (List.cons.inj heq).1
  have hnan : ¬ (c :: rest).map Char.toLower = notANumberWord := fun heq =>
    hletters.2 (List.cons.inj heq).1
  unfold unsigned?
  rw [if_neg hinfinity, if_neg hnan, hread, Option.map_some, Decimal.round_eq_of_value_eq hvalue]

/-! ## Reading numerals -/

theorem read?_of_signed {rest : List Char} (hsign : Decimal.Signed negative rest text.toList)
    (hrest : Decimal.splitSign rest = (false, rest)) :
    read? kind text = unsigned? kind negative rest := by
  simp only [read?, hsign.splitSign_eq hrest]

theorem read?_of_infinity (hspelling : Numeral.Spelling text.toList (.infinity negative)) :
    read? kind text = some (infinite kind negative) := by
  cases hspelling with
  | infinity hsign hword =>
      have hfirst := hword.elim (·.splitSign_eq (by decide)) (·.splitSign_eq (by decide))
      rw [read?_of_signed hsign hfirst, unsigned?_of_infinity hword]

theorem read?_of_notANumber (hspelling : Numeral.Spelling text.toList .notANumber) :
    read? kind text = some (notANumber kind) := by
  cases hspelling with
  | notANumber hsign hword =>
      rw [read?_of_signed hsign (hword.splitSign_eq (by decide)),
        unsigned?_of_notANumber hword]

theorem read?_of_rational {d : Decimal}
    (hspelling : Numeral.Spelling text.toList (.rational negative d.value)) :
    read? kind text = some (Decimal.round kind negative d) := by
  cases hspelling with
  | rational hsign hdecimal =>
      rw [read?_of_signed hsign hdecimal.splitSign_eq, unsigned?_of_decimal hdecimal]

/-- A rational number that is spelled is read as the number that it is rounded to. -/
theorem exists_read?_of_rational {q : ℚ}
    (hspelling : Numeral.Spelling text.toList (.rational negative q)) :
    ∃ x, read? kind text = some x ∧ x.Rounds negative q := by
  have hdecimal : ∃ d : Decimal, d.value = q := by
    cases hspelling with
    | rational hsign hdecimal =>
        obtain ⟨d, -, hvalue⟩ := Decimal.exists_unsigned?_iff.mpr hdecimal
        exact ⟨d, hvalue⟩
  obtain ⟨d, rfl⟩ := hdecimal
  exact ⟨_, read?_of_rational hspelling, Decimal.round_rounds kind negative d⟩

/-- Exactly the texts that spell no numeral are not read. -/
theorem read?_eq_none_iff :
    read? kind text = none ↔ ∀ numeral, ¬ Numeral.Spelling text.toList numeral := by
  constructor
  · intro hnone numeral hspelling
    have hread : ∃ x, read? kind text = some x := by
      cases numeral with
      | infinity negative => exact ⟨_, read?_of_infinity hspelling⟩
      | notANumber => exact ⟨_, read?_of_notANumber hspelling⟩
      | rational negative q =>
          obtain ⟨x, hread, -⟩ := exists_read?_of_rational hspelling
          exact ⟨x, hread⟩
    obtain ⟨x, hread⟩ := hread
    rw [hnone] at hread
    cases hread
  · intro hunspelled
    by_contra hread
    obtain ⟨x, hread⟩ := Option.ne_none_iff_exists'.mp hread
    have hsign := Decimal.signed_splitSign text.toList
    simp only [read?, unsigned?] at hread
    split at hread
    · rename_i hword
      exact hunspelled _ (.infinity hsign (infinityWords_contains_iff.mp hword))
    · split at hread
      · rename_i hword
        exact hunspelled _ (.notANumber hsign (eq_notANumberWord_iff.mp hword))
      · obtain ⟨d, hdecimal, -⟩ := Option.map_eq_some_iff.mp hread
        exact hunspelled _ (.rational hsign (Decimal.spelling_of_unsigned? hdecimal))

end Binary

end DynamicValue
