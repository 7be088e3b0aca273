/-
# Floating-point numbers of the other width

A registry with the built-in conversions turns a number of double width into the nearest one of
single width. It refuses exactly the finite numbers that would become infinite, and it tests this on
the rounded number, so they begin half-way between the greatest finite number and the next power of
two. The other way is exact and can always be undone.
-/

import DynamicValue.Proofs.Conversion.BuiltIn
import DynamicValue.Proofs.Number.Width

namespace DynamicValue

/-! ## The rules -/

namespace Rule

variable {v : Binary .double}

/-- A number is refused if it is finite and beyond the overflow. -/
theorem narrow_of_overflow (hfinite : v.isFinite) (hover : FloatKind.single.overflow ≤ |v.value|) :
    narrow v = .error (.outOfRange v.text) := by
  have hinfinite := (Binary.convert_isInfinite_iff hfinite).mpr hover
  apply if_pos
  rw [Bool.and_eq_true]
  exact ⟨hfinite, hinfinite⟩

/-- Any other number is accepted. -/
theorem narrow_of_not_overflow
    (hbelow : v.isFinite → |v.value| < FloatKind.single.overflow) :
    narrow v = .ok (v.convert .single) := by
  apply if_neg
  rw [Bool.and_eq_true]
  rintro ⟨hfinite, hinfinite⟩
  have hover := (Binary.convert_isInfinite_iff hfinite).mp hinfinite
  exact absurd (hbelow hfinite) (not_lt.mpr hover)

end Rule

/-! ## Conversions of a registry -/

/-- What becomes of a number of double width on its way to single width: only the finite numbers
from a certain absolute value on are refused, and all others are rounded once. -/
structure Binary.Narrows (v : Binary .double)
    (outcome : Except Halt (Except ConversionError (Binary .single))) : Prop where
  fails : (∃ error, outcome = .ok (.error error)) ↔
    v.isFinite ∧ 2 ^ 128 - 2 ^ 103 ≤ |v.value|
  cause : ∀ error, outcome = .ok (.error error) →
    ∃ shown identity, error = .outOfRange shown identity
  finite : v.isFinite → |v.value| < 2 ^ 128 - 2 ^ 103 →
    ∃ y : Binary .single, outcome = .ok (.ok y) ∧ y.IsNearest v.value ∧ y.negative = v.negative
  infinite : v.isInfinite → outcome = .ok (.ok (.infinite .single v.negative))
  notANumber : v.isNaN → ∃ y : Binary .single, outcome = .ok (.ok y) ∧ y.isNaN

/-- What becomes of a number of single width at double width: it keeps its value and its sign. -/
structure Binary.Widens (x : Binary .single) (y : Binary .double) : Prop where
  finite : x.isFinite → y.isFinite ∧ y.value = x.value ∧ y.negative = x.negative
  infinite : x.isInfinite → y = .infinite .double x.negative
  notANumber : x.isNaN → y.isNaN

namespace Binary

theorem narrows_narrow (v : Binary .double) (identity : TypeIdentity) :
    v.Narrows (.ok ((Rule.narrow v).mapError (Refusal.conversionError identity))) := by
  by_cases hover : v.isFinite ∧ FloatKind.single.overflow ≤ |v.value|
  · rw [Rule.narrow_of_overflow hover.1 hover.2]
    refine ⟨iff_of_true ⟨_, rfl⟩ hover, fun error heq => ?_, fun _ hbelow => ?_,
      fun hinfinite => ?_, fun hnan => ?_⟩
    · cases heq
      exact ⟨_, _, rfl⟩
    · exact absurd hover.2 (not_le.mpr hbelow)
    · exact absurd hinfinite (not_isInfinite_of_isFinite hover.1)
    · rw [isNaN_of_isFinite hover.1] at hnan
      cases hnan
  · have hbelow : v.isFinite → |v.value| < FloatKind.single.overflow :=
      fun hfinite => not_le.mp fun hle => hover ⟨hfinite, hle⟩
    rw [Rule.narrow_of_not_overflow hbelow]
    refine ⟨iff_of_false ?_ hover, fun error heq => ?_, fun hfinite hless => ?_,
      fun hinfinite => ?_, fun hnan => ?_⟩
    · rintro ⟨error, heq⟩
      cases heq
    · cases heq
    · exact ⟨_, rfl, convert_isNearest hfinite hless, convert_negative (isNaN_of_isFinite hfinite)⟩
    · rw [convert_of_isInfinite hinfinite]
      rfl
    · refine ⟨_, rfl, ?_⟩
      rw [convert_of_isNaN hnan]
      decide

theorem widens_widen (x : Binary .single) : x.Widens x.widen where
  finite hfinite := by
    obtain ⟨hwide, hvalue⟩ := widen_value hfinite
    exact ⟨hwide, hvalue, convert_negative (isNaN_of_isFinite hfinite)⟩
  infinite hinfinite := convert_of_isInfinite hinfinite
  notANumber hnan := by
    rw [widen, convert_of_isNaN hnan]
    decide

end Binary

/-- What a registry makes of numbers of double width, once and on the way back. -/
structure Registry.NarrowsAndReturns (registry : Registry) (machine : Machine) (cell : Cell)
    (v : Binary .double) : Prop where
  there : v.Narrows ((registry.coerce cell (.float .single)).run machine).1
  back : ∀ y, ((registry.coerce cell (.float .single)).run machine).1 = .ok (.ok y) →
    ∀ (later : Machine) (back : Cell), Registry.Reached BuiltIn.registrations later registry →
      back.Carries later ⟨.float .single, y⟩ →
      ∃ w, ((registry.coerce back (.float .double)).run later).1 = .ok (.ok w) ∧
        (v.isNaN → w.isNaN) ∧ (v.isNaN = false → (w = v ↔ v.IsSingle))
  accepted : v.IsSingle →
    ∃ y, ((registry.coerce cell (.float .single)).run machine).1 = .ok (.ok y)

/-- What a registry makes of numbers of single width, once and on the way back. -/
structure Registry.WidensAndReturns (registry : Registry) (machine : Machine) (cell : Cell)
    (x : Binary .single) : Prop where
  there : ∃ y, ((registry.coerce cell (.float .double)).run machine).1 = .ok (.ok y) ∧ x.Widens y
  back : ∀ y, ((registry.coerce cell (.float .double)).run machine).1 = .ok (.ok y) →
    ∀ (later : Machine) (back : Cell), Registry.Reached BuiltIn.registrations later registry →
      back.Carries later ⟨.float .double, y⟩ →
      ∃ z, ((registry.coerce back (.float .single)).run later).1 = .ok (.ok z) ∧
        (x.isNaN → z.isNaN) ∧ (x.isNaN = false → z = x)

namespace Registry

variable {machine : Machine} {registry : Registry} {cell : Cell}
  (hreached : Registry.Reached BuiltIn.registrations machine registry)
include hreached

theorem coerce_widen {x : Binary .single} (hcarries : cell.Carries machine ⟨.float .single, x⟩) :
    ((registry.coerce cell (.float .double)).run machine).1 = .ok (.ok x.widen) :=
  coerce_of_builtIn hreached.follows BuiltIn.widen_mem rfl hcarries rfl

theorem coerce_narrow {v : Binary .double} (hcarries : cell.Carries machine ⟨.float .double, v⟩)
    (hbelow : v.isFinite → |v.value| < FloatKind.single.overflow) :
    ((registry.coerce cell (.float .single)).run machine).1 = .ok (.ok (v.convert .single)) :=
  coerce_of_builtIn hreached.follows BuiltIn.narrow_mem rfl hcarries
    (Rule.narrow_of_not_overflow hbelow)

theorem narrowsAndReturns {v : Binary .double}
    (hcarries : cell.Carries machine ⟨.float .double, v⟩) :
    registry.NarrowsAndReturns machine cell v := by
  obtain ⟨identity, hidentity, -⟩ :=
    Registry.exists_identity hreached.follows hreached.follows BuiltIn.narrow_mem
  have hrun := coerce_of_rule hreached.follows BuiltIn.narrow_mem rfl hidentity hcarries
  have hnarrows : v.Narrows ((registry.coerce cell (.float .single)).run machine).1 :=
    hrun ▸ v.narrows_narrow identity
  refine ⟨hnarrows, fun y hgiven later back hlater hback => ?_, fun hsingle => ?_⟩
  · have hbelow : v.isFinite → |v.value| < FloatKind.single.overflow := by
      intro hfinite
      by_contra hover
      obtain ⟨error, hfails⟩ := hnarrows.fails.mpr ⟨hfinite, not_lt.mp hover⟩
      rw [hgiven] at hfails
      cases hfails
    rw [coerce_narrow hreached hcarries hbelow] at hgiven
    cases hgiven
    refine ⟨_, coerce_widen hlater hback, fun hnan => ?_, fun hnumber => ?_⟩
    · apply (Binary.widens_widen _).notANumber
      rw [Binary.convert_of_isNaN hnan]
      decide
    · exact Binary.widen_narrow_eq_iff hnumber hbelow
  · exact ⟨_, coerce_narrow hreached hcarries hsingle.lt_overflow⟩

theorem widensAndReturns {x : Binary .single}
    (hcarries : cell.Carries machine ⟨.float .single, x⟩) :
    registry.WidensAndReturns machine cell x := by
  have hrun := coerce_widen hreached hcarries
  refine ⟨⟨_, hrun, x.widens_widen⟩, fun y hgiven later back hlater hback => ?_⟩
  rw [hrun] at hgiven
  cases hgiven
  have hbelow : x.widen.isFinite → |x.widen.value| < FloatKind.single.overflow := by
    intro hwide
    have hfinite : x.isFinite := by
      by_contra hinfinite
      exact Binary.widen_of_not_isFinite hinfinite hwide
    rw [(Binary.widen_value hfinite).2]
    exact Binary.abs_value_lt_overflow hfinite
  refine ⟨_, coerce_narrow hlater hback hbelow, fun hnan => ?_, Binary.narrow_widen⟩
  rw [Binary.convert_of_isNaN (x.widens_widen.notANumber hnan)]
  decide

end Registry

/-- A registry with the built-in conversions narrows every number of double width by rounding it
once, but for those that overflow, and widens every number of single width exactly. On the way back
the narrow numbers are the same again, and of the wide ones those that are also narrow. -/
theorem widths_change_by_rounding_once {machine : Machine} {registry : Registry}
    (hreached : Registry.Reached BuiltIn.registrations machine registry) :
    (∀ (cell : Cell) (v : Binary .double), cell.Carries machine ⟨.float .double, v⟩ →
      registry.NarrowsAndReturns machine cell v) ∧
    ∀ (cell : Cell) (x : Binary .single), cell.Carries machine ⟨.float .single, x⟩ →
      registry.WidensAndReturns machine cell x :=
  ⟨fun _ _ => Registry.narrowsAndReturns hreached, fun _ _ => Registry.widensAndReturns hreached⟩

/-- The point half-way between the greatest finite number of single width and the next power of two.
-/
def firstOverflow : Binary .double := .ofInt .double (2 ^ 128 - 2 ^ 103)

theorem first_overflow_is_out_of_range :
    ∃ machine registry cell, Registry.Reached BuiltIn.registrations machine registry ∧
      Cell.Carries cell machine ⟨.float .double, firstOverflow⟩ ∧
      ∃ shown identity, ((registry.coerce cell (.float .single)).run machine).1 =
        .ok (.error (.outOfRange shown identity)) := by
  obtain ⟨machine, registry, cell, hreached, hcarries⟩ :=
    Registry.exists_reached_carrying ⟨.float .double, firstOverflow⟩
  have hnarrows := ((widths_change_by_rounding_once hreached).1 cell firstOverflow hcarries).there
  have hunits : firstOverflow.signedUnits = (2 ^ 128 - 2 ^ 103 : Int) * FloatKind.double.one := by
    decide +kernel
  have hvalue : firstOverflow.value = 2 ^ 128 - 2 ^ 103 := by
    rw [Binary.value_of_signedUnits hunits]
    norm_num
  have hover : (2 ^ 128 - 2 ^ 103 : ℚ) ≤ |firstOverflow.value| := by
    rw [hvalue]
    exact le_abs_self _
  obtain ⟨error, hfails⟩ := hnarrows.fails.mpr ⟨by decide +kernel, hover⟩
  obtain ⟨shown, identity, rfl⟩ := hnarrows.cause error hfails
  exact ⟨machine, registry, cell, hreached, hcarries, shown, identity, hfails⟩

end DynamicValue
