/-
# Texts as floating-point numbers

A registry with the built-in conversions reads a floating-point number from a text exactly if the
text spells one. A word gives its own number. A decimal gives the number that its exact value is
rounded to, directly to the width of the destination, however many digits it has and however great
its exponent is; the sign is kept, also in front of zero. Any other text is refused as it is.
-/

import DynamicValue.Proofs.Conversion.IntegerText
import DynamicValue.Proofs.Decimal.Numeral

namespace DynamicValue

/-- Which texts become which numbers of a format, and what becomes of all others. There is exactly
one number that a rational number is rounded to. -/
structure Registry.ReadsFloats (registry : Registry) (machine : Machine) (cell : Cell)
    (text : String) (dest : FloatKind) : Prop where
  infinity : ∀ negative, Numeral.Spelling text.toList (.infinity negative) →
    ((registry.coerce cell (.float dest)).run machine).1 = .ok (.ok (.infinite dest negative))
  notANumber : Numeral.Spelling text.toList .notANumber → ∃ x : Binary dest, x.isNaN ∧
    ((registry.coerce cell (.float dest)).run machine).1 = .ok (.ok x)
  rational : ∀ negative q, Numeral.Spelling text.toList (.rational negative q) →
    ∃ x : Binary dest, (∀ y : Binary dest, y.Rounds negative q ↔ y = x) ∧
      ((registry.coerce cell (.float dest)).run machine).1 = .ok (.ok x)
  refused : (∀ numeral, ¬ Numeral.Spelling text.toList numeral) →
    ∃ identity, machine.identity? (.float dest) = some identity ∧
      ((registry.coerce cell (.float dest)).run machine).1 =
        .ok (.error (.invalidText text identity))

/-- A registry with the built-in conversions reads exactly the texts that spell a floating-point
number, whichever of the two kinds of text they are, and rounds once. -/
theorem texts_become_floats_by_spelling {machine : Machine} {registry : Registry} {cell : Cell}
    {text : String} (hreached : Registry.Reached BuiltIn.registrations machine registry)
    (hcarries : cell.Carries machine ⟨.text, text⟩ ∨ cell.Carries machine ⟨.literal, text⟩)
    (dest : FloatKind) : registry.ReadsFloats machine cell text dest := by
  have hsubset := BuiltIn.texts_float_subset dest
  obtain ⟨identity, hidentity, -⟩ := Registry.exists_identity hreached.follows hreached.follows
    (BuiltIn.readText_mem hsubset)
  have hrun := Registry.coerce_text hreached.follows hsubset rfl hidentity hcarries
  unfold Rule.readFloat at hrun
  refine ⟨fun negative hspelling => ?_, fun hspelling => ⟨.notANumber dest, ?_, ?_⟩,
    fun negative q hspelling => ?_, fun hunspelled => ⟨identity, hidentity, ?_⟩⟩
  · rw [hrun, Binary.read?_of_infinity hspelling]
    rfl
  · exact Binary.notANumber_isNaN dest
  · rw [hrun, Binary.read?_of_notANumber hspelling]
    rfl
  · obtain ⟨x, hread, hrounds⟩ := Binary.exists_read?_of_rational hspelling
    refine ⟨x, fun y => ⟨fun hother => hother.unique hrounds, fun heq => heq ▸ hrounds⟩, ?_⟩
    rw [hrun, hread]
    rfl
  · rw [hrun, Binary.read?_eq_none_iff.mpr hunspelled]
    rfl

/-- A little more than half-way between two neighbours of single width, but so little that double
width does not tell it from the point half-way between them. -/
theorem nearly_half_way_text_is_rounded_once :
    ∃ machine registry cell, Registry.Reached BuiltIn.registrations machine registry ∧
      Cell.Carries cell machine ⟨.text, "-.16777217000000000001E+8"⟩ ∧
      ((registry.coerce cell (.float .single)).run machine).1 =
        .ok (.ok (.ofInt .single (-16777218))) := by
  obtain ⟨machine, registry, cell, hreached, hcarries⟩ :=
    Registry.exists_reached_carrying ⟨.text, "-.16777217000000000001E+8"⟩
  have hreads := texts_become_floats_by_spelling hreached (.inl hcarries) .single
  have hexponent : Decimal.ExponentSpelling "E+8".toList 8 :=
    .present (.inr rfl) .plus ⟨by decide, List.all_eq_true.mp (by decide), by decide⟩
  have hspelling : Numeral.Spelling "-.16777217000000000001E+8".toList
      (.rational true (Decimal.value ⟨16777217000000000001, -12⟩)) :=
    .rational .minus (@Decimal.Spelling.point [] "16777217000000000001".toList _ _ _
      ⟨by decide, List.all_eq_true.mp (by decide), by decide⟩ hexponent)
  have hrounds := Decimal.round_rounds .single true ⟨16777217000000000001, -12⟩
  have hround : Decimal.round .single true ⟨16777217000000000001, -12⟩ =
      .ofInt .single (-16777218) := by decide +kernel
  obtain ⟨x, hunique, hrun⟩ := hreads.rational _ _ hspelling
  refine ⟨machine, registry, cell, hreached, hcarries, ?_⟩
  rw [hrun, ← (hunique _).mp hrounds, hround]

end DynamicValue
