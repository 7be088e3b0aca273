/-
# Integers as floating-point numbers and back

A registry with the built-in conversions turns every integer into the floating-point number nearest
to it. This is an integer again, so on the way back to its own kind it is never inexact. It is out
of range exactly if rounding has carried it past the greatest integer of the kind, to the power of
two behind it.
-/

import DynamicValue.Proofs.Conversion.Exactness
import DynamicValue.Proofs.Number.Integers

namespace DynamicValue

/-- The number that an integer rounds to, and the integer that this number is. -/
structure Binary.RoundsInteger {format : FloatKind} (x : Binary format) (source : IntKind)
    (n : source.Value) (m : Int) : Prop where
  nearest : x.IsNearest (n.val : ℚ)
  sign : x.negative = decide (n.val < 0)
  value : x.value = m
  exact : (∃ y : Binary format, y.isFinite ∧ y.value = n.val) → m = n.val
  small : n.val.natAbs ≤ 2 ^ (format.fractionBits + 1) → m = n.val
  within : source.least ≤ m ∧ m ≤ source.greatest + 1
  top : source.width.bits = 64 → n.val = source.greatest → m = source.greatest + 1

theorem Binary.ofInt_roundsInteger {source : IntKind} (format : FloatKind) (n : source.Value) :
    ∃ m, (ofInt format n.val).RoundsInteger source n m := by
  have hnearest := ofInt_isNearest format n
  obtain ⟨m, hvalue⟩ := hnearest.exists_value_eq
  have hexact : (∃ y : Binary format, y.isFinite ∧ y.value = n.val) → m = n.val := by
    rintro ⟨y, hy, hrepresents⟩
    have hsame := hnearest.value_eq hy hrepresents
    rw [hvalue] at hsame
    exact_mod_cast hsame
  have hbinade : 2 ^ (format.fractionBits + 1) = 2 * format.binade := by
    rw [Nat.pow_succ, Nat.mul_comm]
    rfl
  refine ⟨m, hnearest, rfl, hvalue, hexact, fun hsmall => ?_, hnearest.le_and_le hvalue,
    fun hwide hgreatest => ?_⟩
  · rw [hbinade] at hsmall
    exact hexact (exists_value_eq_of_small format hsmall)
  · rw [hgreatest, ofInt_greatest_value format hwide] at hvalue
    exact_mod_cast hvalue.symm

/-- What a registry makes of a floating-point number that is an integer: this integer, unless it is
greater than all integers of the kind. -/
structure Registry.ReturnsInteger (registry : Registry) (machine : Machine) (cell : Cell)
    (dest : IntKind) (m : Int) : Prop where
  returned : ∀ hcontains : dest.Contains m,
    ((registry.coerce cell (.integer dest)).run machine).1 = .ok (.ok ⟨m, hcontains⟩)
  outOfRange : (∃ shown identity, ((registry.coerce cell (.integer dest)).run machine).1 =
    .ok (.error (.outOfRange shown identity))) ↔ dest.greatest < m
  notInexact : ∀ shown identity, ((registry.coerce cell (.integer dest)).run machine).1 ≠
    .ok (.error (.inexact shown identity))

theorem ConvertsExactly.of_intCast {dest : IntKind} {m : Int}
    {outcome : Except Halt (Except ConversionError dest.Value)}
    (hexact : ConvertsExactly dest (some (m : ℚ)) outcome) :
    (∀ hcontains : dest.Contains m, outcome = .ok (.ok ⟨m, hcontains⟩)) ∧
    ((∃ shown identity, outcome = .ok (.error (.outOfRange shown identity))) ↔
      ¬ dest.Contains m) ∧
    ∀ shown identity, outcome ≠ .ok (.error (.inexact shown identity)) := by
  refine ⟨fun hcontains => (hexact.integer ⟨m, hcontains⟩).mpr rfl, ?_, ?_⟩
  · rw [hexact.outOfRange]
    constructor
    · rintro (hnone | ⟨n, hvalue, hout⟩)
      · cases hnone
      · have hsame : m = n := by exact_mod_cast Option.some.inj hvalue
        rwa [hsame]
    · exact fun hout => .inr ⟨m, rfl, hout⟩
  · intro shown identity heq
    obtain ⟨q, hvalue, hfraction⟩ := hexact.inexact.mp ⟨shown, identity, heq⟩
    rw [← Option.some.inj hvalue, Int.fract_intCast] at hfraction
    exact hfraction rfl

/-- A registry with the built-in conversions turns every integer into the nearest number of either
format, and turns this number back into the integer that it is, or finds it out of range if it is
behind the greatest integer of the kind. -/
theorem integers_round_and_return {machine : Machine} {registry : Registry} {cell : Cell}
    {source : IntKind} {n : source.Value}
    (hreached : Registry.Reached BuiltIn.registrations machine registry)
    (hcarries : cell.Carries machine ⟨.integer source, n⟩) (format : FloatKind) :
    ∃ (x : Binary format) (m : Int),
      ((registry.coerce cell (.float format)).run machine).1 = .ok (.ok x) ∧
      x.RoundsInteger source n m ∧
      ∀ (later : Machine) (back : Cell), Registry.Reached BuiltIn.registrations later registry →
        back.Carries later ⟨.float format, x⟩ → registry.ReturnsInteger later back source m := by
  obtain ⟨hthere, hback⟩ := BuiltIn.integersAndFloats_mem source format
  obtain ⟨m, hrounds⟩ := Binary.ofInt_roundsInteger format n
  refine ⟨_, m, Registry.coerce_of_builtIn hreached.follows hthere rfl hcarries rfl, hrounds, ?_⟩
  intro later back hlater hcell
  obtain ⟨identity, hidentity, -⟩ :=
    Registry.exists_identity hlater.follows hlater.follows hback
  have hrun := Registry.coerce_of_rule hlater.follows hback rfl hidentity hcell
  have hvalue : (Binary.ofInt format n.val).exactValue? = some (m : ℚ) :=
    Binary.exactValue?_eq_some_iff.mpr ⟨hrounds.nearest.finite, hrounds.value⟩
  have hrule : ExactlyConverted source _ (Binary.ofInt format n.val).exactValue? _ :=
    Rule.floatToInteger_exact (Binary.ofInt format n.val)
  have hexact := hrule.convertsExactly identity
  rw [hvalue, ← hrun] at hexact
  obtain ⟨hreturned, hout, hnotInexact⟩ := hexact.of_intCast
  refine ⟨hreturned, hout.trans ?_, hnotInexact⟩
  have hwithin := hrounds.within
  unfold IntKind.Contains
  omega

/-- The greatest integer of 64 bits with a sign becomes the power of two behind it and does not come
back. -/
theorem greatest_long_rounds_out_of_range :
    ∃ machine registry cell x later back shown identity,
      Registry.Reached BuiltIn.registrations machine registry ∧
      Cell.Carries cell machine ⟨.integer .long, ⟨2 ^ 63 - 1, by decide⟩⟩ ∧
      ((registry.coerce cell (.float .double)).run machine).1 = .ok (.ok x) ∧
      x.value = 2 ^ 63 ∧
      Registry.Reached BuiltIn.registrations later registry ∧
      Cell.Carries back later ⟨.float .double, x⟩ ∧
      ((registry.coerce back (.integer .long)).run later).1 =
        .ok (.error (.outOfRange shown identity)) := by
  obtain ⟨machine, registry, cell, hreached, hcarries⟩ :=
    Registry.exists_reached_carrying ⟨.integer .long, ⟨2 ^ 63 - 1, by decide⟩⟩
  obtain ⟨x, m, hrun, hrounds, hreturns⟩ := integers_round_and_return hreached hcarries .double
  have hm : m = 2 ^ 63 := hrounds.top rfl (by decide)
  have hvalue : x.value = 2 ^ 63 := by
    rw [hrounds.value, hm]
    norm_num
  obtain ⟨later, back, hlater, hback⟩ := hreached.exists_later hcarries ⟨.float .double, x⟩
  obtain ⟨shown, identity, hout⟩ := (hreturns later back hlater hback).outOfRange.mpr (by
    rw [hm]
    decide)
  exact ⟨machine, registry, cell, x, later, back, shown, identity, hreached, hcarries, hrun, hvalue,
    hlater, hback, hout⟩

end DynamicValue
