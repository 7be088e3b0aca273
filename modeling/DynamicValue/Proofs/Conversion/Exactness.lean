/-
# Numbers as integers

A registry with the built-in conversions turns a number into an integer of a kind exactly or not at
all. It gives the integer that the number is, if the kind contains it; it calls a number with a
fraction inexact, however great it is; and everything else is out of range. An integer that it gives
is turned back into the number that it came from, where the negative zero comes back as the positive
one.
-/

import DynamicValue.Proofs.Conversion.BuiltIn
import DynamicValue.Proofs.Number.Wide
import Mathlib.Data.Rat.Floor

namespace DynamicValue

/-! ## Exact values -/

namespace Binary

variable {kind : FloatKind} {x : Binary kind}

/-- The rational number that a number is. Infinities and what is not a number are none. -/
def exactValue? (x : Binary kind) : Option ℚ := if x.isFinite then some x.value else none

/-- A number, with the positive zero in place of the negative one. -/
def withPositiveZero (x : Binary kind) : Binary kind :=
  if x.magnitude = 0 then ofOrdinal kind false 0 else x

theorem exactValue?_of_isFinite (hfinite : x.isFinite) : x.exactValue? = some x.value :=
  if_pos hfinite

theorem exactValue?_of_not_isFinite (hinfinite : ¬ x.isFinite) : x.exactValue? = none :=
  if_neg hinfinite

theorem exactValue?_eq_some_iff {q : ℚ} : x.exactValue? = some q ↔ x.isFinite ∧ x.value = q := by
  unfold exactValue?
  split <;> simp [*]

/-- The width of a number does not matter for its exact value. -/
theorem exactValue?_widen (x : Binary kind) : x.widen.exactValue? = x.exactValue? := by
  by_cases hfinite : x.isFinite
  · obtain ⟨hwide, hsame⟩ := widen_value_of_isFinite hfinite
    rw [exactValue?_of_isFinite hfinite, exactValue?_of_isFinite hwide, hsame]
  · rw [exactValue?_of_not_isFinite hfinite,
      exactValue?_of_not_isFinite (widen_of_not_isFinite hfinite)]

/-- The two zeros are the same number. -/
theorem exactValue?_withPositiveZero (x : Binary kind) :
    x.withPositiveZero.exactValue? = x.exactValue? := by
  unfold withPositiveZero
  split
  · rename_i hzero
    have hinfinity : 0 < kind.infinity := by cases kind <;> decide
    have hfinite : x.isFinite := decide_eq_true (by omega)
    have hplus : (ofOrdinal kind false 0).isFinite := decide_eq_true hinfinity
    have hvalue : ∀ y : Binary kind, y.magnitude = 0 → y.value = 0 := by
      intro y hmagnitude
      have hunits : y.signedUnits = 0 * kind.one := by
        rw [signedUnits_eq, hmagnitude, kind.units_zero, Int.zero_mul, Nat.cast_zero, neg_zero,
          ite_self]
      rw [value_of_signedUnits hunits, Int.cast_zero]
    rw [exactValue?_of_isFinite hfinite, exactValue?_of_isFinite hplus, hvalue x hzero,
      hvalue _ rfl]
  · rfl

/-- A finite number is the nearest one to the integer that it is; only the sign of zero is lost. -/
theorem ofInt_of_value_eq {n : Int} (hfinite : x.isFinite) (hvalue : x.value = (n : ℚ)) :
    ofInt kind n = x.withPositiveZero := by
  have hbelow : x.magnitude < kind.infinity := of_decide_eq_true hfinite
  have hunits : x.signedUnits = n * kind.one := by
    unfold value at hvalue
    rw [div_eq_iff (cast_one_pos kind).ne'] at hvalue
    exact_mod_cast hvalue
  have hmagnitude : kind.units x.magnitude * 1 = n.natAbs * kind.one := by
    rw [← natAbs_signedUnits, hunits, Int.natAbs_mul, Int.natAbs_natCast, Nat.mul_one]
  have hordinal : kind.nearestOrdinal (n.natAbs * kind.one) 1 = x.magnitude :=
    FloatKind.nearestOrdinal_eq_of_owns Nat.one_pos (FloatKind.owns_of_eq Nat.one_pos hmagnitude)
  unfold ofInt nearest withPositiveZero
  rw [hordinal]
  by_cases hzero : x.magnitude = 0
  · have hn : n = 0 := by
      rw [hzero, kind.units_zero, Nat.zero_mul] at hmagnitude
      have hproduct := (Nat.mul_eq_zero.mp hmagnitude.symm).resolve_right kind.one_pos.ne'
      exact Int.natAbs_eq_zero.mp hproduct
    rw [if_pos hzero, hzero, hn]
    rfl
  · have hpositive := kind.units_pos (Nat.pos_of_ne_zero hzero)
    have hsign : decide (n < 0) = x.negative := by
      have hone : (0 : Int) < kind.one := by exact_mod_cast kind.one_pos
      rw [signedUnits_eq] at hunits
      cases hnegative : x.negative with
      | false =>
          rw [hnegative, if_neg Bool.false_ne_true] at hunits
          refine decide_eq_false fun hless => ?_
          have hproduct := Int.mul_neg_of_neg_of_pos hless hone
          omega
      | true =>
          rw [hnegative, if_pos rfl] at hunits
          refine decide_eq_true (neg_of_mul_neg_left ?_ hone.le)
          rw [← hunits]
          omega
    rw [if_neg hzero, hsign]
    exact Binary.ext rfl (Nat.min_eq_left hbelow.le)

end Binary

namespace ValueType

/-- The integers and the floating-point numbers. -/
def isNumeric : ValueType → Bool
  | integer _ | float _ => true
  | _ => false

/-- The rational number that a value is, if it is a number. -/
def exactValue? : (type : ValueType) → type.Value → Option ℚ
  | integer _, n => some (n.val : ℚ)
  | float _, x => x.exactValue?
  | _, _ => none

/-- A value, with the positive zero in place of the negative one. -/
def withPositiveZero : (type : ValueType) → type.Value → type.Value
  | float _, x => x.withPositiveZero
  | _, x => x

theorem exactValue?_withPositiveZero (type : ValueType) (x : type.Value) :
    type.exactValue? (type.withPositiveZero x) = type.exactValue? x := by
  cases type with
  | float kind => exact Binary.exactValue?_withPositiveZero x
  | _ => rfl

end ValueType

/-! ## The rules -/

theorem Refusal.unlessSome_eq_ok_iff {α : Type} {refusal : Refusal} {result? : Option α}
    {value : α} :
    refusal.unlessSome result? = .ok value ↔ result? = some value := by
  cases result? <;> simp [unlessSome]

/-- What an exact rule makes of a number on its way to an integer kind: the integer itself, a number
that no value of the kind is, a number with a fraction, or no number at all. -/
inductive ExactlyConverted (dest : IntKind) (shown : String) :
    Option ℚ → Except Refusal dest.Value → Prop
  | integer (n : dest.Value) : ExactlyConverted dest shown (some (n.val : ℚ)) (.ok n)
  | outside {n : Int} (hout : ¬ dest.Contains n) :
      ExactlyConverted dest shown (some (n : ℚ)) (.error (.outOfRange shown))
  | fraction {q : ℚ} (hfraction : ∀ n : Int, q ≠ n) :
      ExactlyConverted dest shown (some q) (.error (.inexact shown))
  | noNumber : ExactlyConverted dest shown none (.error (.outOfRange shown))

namespace Rule

variable {source dest : IntKind} {format : FloatKind}

/-- A range test converts an integer exactly. -/
theorem exactlyConverted_ofInt? (dest : IntKind) (shown : String) (n : Int) :
    ExactlyConverted dest shown (some (n : ℚ))
      ((Refusal.outOfRange shown).unlessSome (dest.ofInt? n)) := by
  by_cases hcontains : dest.Contains n
  · have hfound : dest.ofInt? n = some ⟨n, hcontains⟩ := dif_pos hcontains
    rw [hfound]
    exact .integer ⟨n, hcontains⟩
  · have hnone : dest.ofInt? n = none := dif_neg hcontains
    rw [hnone]
    exact .outside hcontains

theorem integerToInteger_exact (n : source.Value) :
    ExactlyConverted dest (Decimal.integerText n.val) (some (n.val : ℚ))
      (integerToInteger source dest n) :=
  exactlyConverted_ofInt? dest _ n.val

/-- The way through the wide integers is exact: what it turns away no kind contains, and what it
lets through it does not change. -/
theorem doubleToInteger_exact (x : Binary .double) :
    ExactlyConverted dest x.text x.exactValue? (doubleToInteger dest x) := by
  unfold doubleToInteger
  by_cases hfinite : x.isFinite
  · rw [if_pos hfinite, Binary.exactValue?_of_isFinite hfinite]
    by_cases hintegral : x.isIntegral
    · have hvalue := Binary.value_eq_truncated hintegral
      rw [if_pos hintegral]
      by_cases hbeyond : x.isBeyondWide
      · rw [if_pos hbeyond, hvalue]
        refine .outside fun hcontains => ?_
        exact Binary.value_ne_of_isBeyondWide hfinite hbeyond ⟨_, hcontains⟩ hvalue
      · rw [if_neg hbeyond, Binary.saturated_eq_truncated hfinite hintegral hbeyond, hvalue]
        exact exactlyConverted_ofInt? dest _ _
    · rw [if_neg hintegral]
      exact .fraction fun n hvalue => hintegral (Binary.isIntegral_iff.mpr ⟨n, hvalue⟩)
  · rw [if_neg hfinite, Binary.exactValue?_of_not_isFinite hfinite]
    exact .noNumber

theorem floatToInteger_exact (x : Binary format) :
    ExactlyConverted dest x.widen.text x.exactValue? (floatToInteger format dest x) := by
  rw [← x.exactValue?_widen]
  exact doubleToInteger_exact x.widen

/-- An integer of another kind is the same integer. -/
theorem val_of_integerToInteger {n : source.Value} {m : dest.Value}
    (haccepts : integerToInteger source dest n = .ok m) : m.val = n.val :=
  IntKind.ofInt?_eq_some_iff.mp (Refusal.unlessSome_eq_ok_iff.mp haccepts)

/-- A number that is accepted as an integer is finite and has the value of the integer. -/
theorem value_of_floatToInteger {x : Binary format} {n : dest.Value}
    (haccepts : floatToInteger format dest x = .ok n) : x.isFinite ∧ x.value = (n.val : ℚ) := by
  have hexact : ExactlyConverted dest _ _ _ := floatToInteger_exact x
  rw [haccepts] at hexact
  generalize hvalue : x.exactValue? = value? at hexact
  cases hexact
  exact Binary.exactValue?_eq_some_iff.mp hvalue

end Rule

namespace BuiltIn

variable {type : ValueType}

/-- Each numeric type has built-in rules to and from an integer kind. The first one is exact, and
the second one undoes it. -/
theorem exists_toInteger (hnumeric : type.isNumeric) (dest : IntKind) :
    ∃ (there : Rule type (.integer dest)) (back : Rule (.integer dest) type),
      ⟨_, _, there⟩ ∈ all ∧ ⟨_, _, back⟩ ∈ all ∧
      (∀ x, ∃ shown, ExactlyConverted dest shown (type.exactValue? x) (there x)) ∧
      ∀ x n, there x = .ok n → back n = .ok (type.withPositiveZero x) := by
  cases type with
  | integer source =>
      refine ⟨_, _, integerToInteger_mem source dest, integerToInteger_mem dest source,
        fun n => ⟨_, Rule.integerToInteger_exact n⟩, fun x n haccepts => ?_⟩
      have hsame := Rule.val_of_integerToInteger haccepts
      exact Refusal.unlessSome_eq_ok_iff.mpr (IntKind.ofInt?_eq_some_iff.mpr hsame.symm)
  | float format =>
      obtain ⟨hback, hthere⟩ := integersAndFloats_mem dest format
      refine ⟨_, _, hthere, hback, fun x => ⟨_, Rule.floatToInteger_exact x⟩,
        fun x n haccepts => ?_⟩
      obtain ⟨hfinite, hvalue⟩ := Rule.value_of_floatToInteger haccepts
      exact congrArg Except.ok (Binary.ofInt_of_value_eq hfinite hvalue)
  | _ => cases hnumeric

end BuiltIn

/-! ## Conversions of a registry -/

/-- When a number of some exact value, or of none, is converted to an integer kind, and when it is
refused for which cause. -/
structure ConvertsExactly (dest : IntKind) (value? : Option ℚ)
    (outcome : Except Halt (Except ConversionError dest.Value)) : Prop where
  integer : ∀ n : dest.Value, outcome = .ok (.ok n) ↔ value? = some (n.val : ℚ)
  inexact : (∃ shown identity, outcome = .ok (.error (.inexact shown identity))) ↔
    ∃ q, value? = some q ∧ Int.fract q ≠ 0
  outOfRange : (∃ shown identity, outcome = .ok (.error (.outOfRange shown identity))) ↔
    value? = none ∨ ∃ n : Int, value? = some (n : ℚ) ∧ ¬ dest.Contains n

theorem ExactlyConverted.convertsExactly {dest : IntKind} {shown : String} {value? : Option ℚ}
    {result : Except Refusal dest.Value} (hexact : ExactlyConverted dest shown value? result)
    (identity : TypeIdentity) :
    ConvertsExactly dest value? (.ok (result.mapError (Refusal.conversionError identity))) := by
  cases hexact with
  | integer n =>
      refine ⟨fun m => ?_, ?_, ?_⟩
      · simp [Except.mapError, IntKind.val_inj]
      · simp [Except.mapError]
      · simp [Except.mapError, n.property]
  | @outside n hout =>
      have hother : ∀ m : dest.Value, n ≠ m.val := fun m heq => hout (heq ▸ m.property)
      refine ⟨fun m => ?_, ?_, ?_⟩
      · simp [Except.mapError, hother m]
      · simp [Except.mapError, Refusal.conversionError]
      · simp [Except.mapError, Refusal.conversionError, hout]
  | fraction hfraction =>
      refine ⟨fun m => ?_, ?_, ?_⟩
      · simp [Except.mapError, hfraction]
      · simp [Except.mapError, Refusal.conversionError, Int.fract_eq_iff, hfraction]
      · simp [Except.mapError, Refusal.conversionError, hfraction]
  | noNumber =>
      refine ⟨fun m => ?_, ?_, ?_⟩
      · simp [Except.mapError]
      · simp [Except.mapError, Refusal.conversionError]
      · simp [Except.mapError, Refusal.conversionError]

/-- The way of a finite number through the wide integers: what the test in front of it decides, that
it turns away nothing that a kind contains, and that behind it the wide integer is the number. -/
structure Binary.PassesWideIntegers (x : Binary .double) : Prop where
  test : x.isBeyondWide ↔ x.value < -2 ^ 127 ∨ 2 ^ 127 ≤ x.value
  rejected : x.isBeyondWide → ∀ (dest : IntKind) (n : dest.Value), x.value ≠ (n.val : ℚ)
  exact : x.isIntegral → ¬ x.isBeyondWide → (x.saturated : ℚ) = x.value

theorem Binary.passesWideIntegers {x : Binary .double} (hfinite : x.isFinite) :
    x.PassesWideIntegers where
  test := isBeyondWide_iff hfinite
  rejected hbeyond _ n := value_ne_of_isBeyondWide hfinite hbeyond n
  exact hintegral hwithin := by
    rw [saturated_eq_truncated hfinite hintegral hwithin, value_eq_truncated hintegral]

/-- A registry with the built-in conversions converts every number to every integer kind exactly or
not at all, and it converts an integer that it gave back to the number that this came from. -/
theorem numbers_become_integers_exactly {machine : Machine} {registry : Registry} {cell : Cell}
    {type : ValueType} {x : type.Value}
    (hreached : Registry.Reached BuiltIn.registrations machine registry)
    (hnumeric : type.isNumeric) (hcarries : cell.Carries machine ⟨type, x⟩) (dest : IntKind) :
    ConvertsExactly dest (type.exactValue? x)
      ((registry.coerce cell (.integer dest)).run machine).1 ∧
    (∀ n, ((registry.coerce cell (.integer dest)).run machine).1 = .ok (.ok n) →
      ∀ (later : Machine) (back : Cell), Registry.Reached BuiltIn.registrations later registry →
        back.Carries later ⟨.integer dest, n⟩ →
        ((registry.coerce back type).run later).1 = .ok (.ok (type.withPositiveZero x)) ∧
          type.exactValue? (type.withPositiveZero x) = type.exactValue? x) ∧
    ∀ y : Binary .double, y.isFinite → y.PassesWideIntegers := by
  obtain ⟨there, back, hthere, hback, hexact, hundone⟩ :=
    BuiltIn.exists_toInteger hnumeric dest
  obtain ⟨identity, hidentity, -⟩ :=
    Registry.exists_identity hreached.follows hreached.follows hthere
  have hrun := Registry.coerce_of_rule hreached.follows hthere rfl hidentity hcarries
  refine ⟨?_, ?_, fun y => Binary.passesWideIntegers⟩
  · obtain ⟨shown, hconverted⟩ := hexact x
    rw [hrun]
    exact hconverted.convertsExactly identity
  · intro n hgiven later cell hlater hcell
    rw [hrun] at hgiven
    have haccepts : there x = .ok n := by
      cases hresult : there x with
      | ok m =>
          rw [hresult] at hgiven
          cases hgiven
          rfl
      | error refusal =>
          rw [hresult] at hgiven
          cases hgiven
    have hnative : type.isForeign = false := by
      cases type <;> first | rfl | cases hnumeric
    exact ⟨Registry.coerce_of_builtIn hlater.follows hback hnative hcell (hundone x n haccepts),
      type.exactValue?_withPositiveZero x⟩

/-- The number of double width that is the least integer of 64 bits. -/
def leastLong : Binary .double := .ofInt .double (-2 ^ 63)

/-- It becomes this integer, and the integer becomes the number again. -/
theorem least_long_becomes_integer_exactly :
    ∃ machine registry cell later back,
      Registry.Reached BuiltIn.registrations machine registry ∧
      Cell.Carries cell machine ⟨.float .double, leastLong⟩ ∧
      ((registry.coerce cell (.integer .long)).run machine).1 =
        .ok (.ok ⟨-2 ^ 63, by decide⟩) ∧
      Registry.Reached BuiltIn.registrations later registry ∧
      Cell.Carries back later ⟨.integer .long, ⟨-2 ^ 63, by decide⟩⟩ ∧
      ((registry.coerce back (.float .double)).run later).1 = .ok (.ok leastLong) := by
  obtain ⟨machine, registry, cell, hreached, hcarries⟩ :=
    Registry.exists_reached_carrying ⟨.float .double, leastLong⟩
  obtain ⟨hconverts, hreturns, -⟩ :=
    @numbers_become_integers_exactly _ _ _ (.float .double) _ hreached rfl hcarries .long
  have hunits : leastLong.signedUnits = (-2 ^ 63 : Int) * FloatKind.double.one := by
    decide +kernel
  have hvalue : (ValueType.float .double).exactValue? leastLong = some (((-2 ^ 63 : Int)) : ℚ) :=
    Binary.exactValue?_eq_some_iff.mpr ⟨by decide +kernel, Binary.value_of_signedUnits hunits⟩
  have hgiven := (hconverts.integer ⟨-2 ^ 63, by decide⟩).mpr hvalue
  obtain ⟨later, back, hlater, hback⟩ :=
    hreached.exists_later hcarries ⟨.integer .long, ⟨-2 ^ 63, by decide⟩⟩
  have hsame : (ValueType.float .double).withPositiveZero leastLong = leastLong := by
    decide +kernel
  refine ⟨machine, registry, cell, later, back, hreached, hcarries, hgiven, hlater, hback, ?_⟩
  rw [(hreturns _ hgiven later back hlater hback).1, hsame]

end DynamicValue
