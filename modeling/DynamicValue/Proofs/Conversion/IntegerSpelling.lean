/-
# Texts as integers

A registry with the built-in conversions reads an integer from a text exactly if the text spells it:
as a non-empty row of ASCII digits, behind a plus if one likes, or behind a minus in a signed kind.
Leading zeros do not matter, and neither does the length of the row. Any other text is refused as it
is, and so is one that spells an integer outside of the kind.
-/

import DynamicValue.Proofs.Conversion.IntegerText

namespace DynamicValue

namespace IntKind

/-- The texts that spell an integer for a kind: a row of digits with a sign or without one, where
the minus is for signed kinds only. -/
inductive Spelling (kind : IntKind) : List Char → Int → Prop
  | number {negative : Bool} {digits cs : List Char} {n : Nat}
      (hsign : Decimal.Signed negative digits cs) (hsigned : negative → kind.signed)
      (hrow : Decimal.Row digits n) : kind.Spelling cs (Decimal.withSign negative n)

variable {kind : IntKind} {text : String} {n : kind.Value}

/-- A kind reads a text as an integer exactly if the text spells it. -/
theorem read?_eq_some_iff : kind.read? text = some n ↔ kind.Spelling text.toList n.val := by
  rw [read?_eq]
  constructor
  · intro hread
    split at hread
    · cases hread
    · rename_i hallowed
      rw [not_and, Bool.not_eq_false] at hallowed
      obtain ⟨m, hdigits, hvalue⟩ := Option.bind_eq_some_iff.mp hread
      rw [ofInt?_eq_some_iff.mp hvalue]
      exact .number (Decimal.signed_splitSign text.toList) hallowed
        (Decimal.natural?_eq_some_iff.mp hdigits)
  · generalize hn : n.val = value
    rintro ⟨hsign, hsigned, hrow⟩
    simp only [hsign.splitSign_eq hrow.splitSign_eq, Decimal.natural?_eq_some_iff.mpr hrow,
      Option.bind_some]
    rw [if_neg (by simpa using hsigned), ofInt?_eq_some_iff.mpr hn]

/-- An unsigned kind does not read a minus, not even in front of zero. -/
example : read? ⟨false, .bits8⟩ "-0" = none := by decide

end IntKind

/-- Which texts become which integers of a kind, what becomes of all others, and that reading the
digits on the way does not wrap around: the value at any time is the number of the digits read so
far, and it is given up only when the kind does not contain this number. -/
structure Registry.ReadsIntegers (registry : Registry) (machine : Machine) (cell : Cell)
    (text : String) (dest : IntKind) : Prop where
  spelled : ∀ n : dest.Value, ((registry.coerce cell (.integer dest)).run machine).1 =
    .ok (.ok n) ↔ dest.Spelling text.toList n.val
  refused : (∀ n : dest.Value, ¬ dest.Spelling text.toList n.val) →
    ∃ identity, machine.identity? (.integer dest) = some identity ∧
      ((registry.coerce cell (.integer dest)).run machine).1 =
        .ok (.error (.invalidText text identity))
  digits : ∀ (negative : Bool) (digits : List Char) (value : dest.Value),
    dest.appendDigits? negative dest.zero digits = some value ↔
      (∀ c ∈ digits, c.isDigit) ∧
        value.val = Decimal.withSign negative (Decimal.rowValue digits)

/-- A registry with the built-in conversions reads exactly the texts that spell an integer of a
kind, whichever of the two kinds of text they are. -/
theorem texts_become_integers_by_spelling {machine : Machine} {registry : Registry} {cell : Cell}
    {text : String} (hreached : Registry.Reached BuiltIn.registrations machine registry)
    (hcarries : cell.Carries machine ⟨.text, text⟩ ∨ cell.Carries machine ⟨.literal, text⟩)
    (dest : IntKind) : registry.ReadsIntegers machine cell text dest := by
  have hsubset := BuiltIn.texts_integer_subset dest
  obtain ⟨identity, hidentity, -⟩ := Registry.exists_identity hreached.follows hreached.follows
    (BuiltIn.readText_mem hsubset)
  have hrun := Registry.coerce_text hreached.follows hsubset rfl hidentity hcarries
  unfold Rule.readInteger at hrun
  refine ⟨fun n => ?_, fun hunspelled => ⟨identity, hidentity, ?_⟩,
    fun _ _ _ => IntKind.appendDigits?_eq_some_iff⟩
  · rw [hrun, ← IntKind.read?_eq_some_iff]
    cases dest.read? text <;> simp [Refusal.unlessSome, Except.mapError]
  · have hnone : dest.read? text = none :=
      Option.eq_none_iff_forall_ne_some.mpr fun n hread =>
        hunspelled n (IntKind.read?_eq_some_iff.mp hread)
    rw [hrun, hnone]
    rfl

theorem least_byte_is_read_by_spelling :
    ∃ machine registry cell, Registry.Reached BuiltIn.registrations machine registry ∧
      Cell.Carries cell machine ⟨.literal, "-000128"⟩ ∧
      ((registry.coerce cell (.integer ⟨true, .bits8⟩)).run machine).1 =
        .ok (.ok ⟨-128, by decide⟩) ∧
      ∃ identity, machine.identity? (.integer ⟨false, .bits8⟩) = some identity ∧
        ((registry.coerce cell (.integer ⟨false, .bits8⟩)).run machine).1 =
          .ok (.error (.invalidText "-000128" identity)) := by
  obtain ⟨machine, registry, cell, hreached, hcarries⟩ :=
    Registry.exists_reached_carrying ⟨.literal, "-000128"⟩
  have hrow : Decimal.Row "000128".toList 128 :=
    ⟨by decide, List.all_eq_true.mp (by decide), by decide⟩
  have hsigned := texts_become_integers_by_spelling hreached (.inr hcarries) ⟨true, .bits8⟩
  have hunsigned := texts_become_integers_by_spelling hreached (.inr hcarries) ⟨false, .bits8⟩
  refine ⟨machine, registry, cell, hreached, hcarries, ?_, ?_⟩
  · exact (hsigned.spelled ⟨-128, by decide⟩).mpr (.number .minus (fun _ => rfl) hrow)
  · apply hunsigned.refused
    intro n hspelling
    rw [← IntKind.read?_eq_some_iff] at hspelling
    cases hspelling

end DynamicValue
