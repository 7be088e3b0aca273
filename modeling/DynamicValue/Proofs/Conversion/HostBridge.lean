/-
# What a host is given and what conversions give

A value is pushed onto the stack of a host without a registry, by a case distinction of its own. All
the same a host never sees another number than a conversion would have given: an integer is pushed
as one exactly if the built-in conversion to the host's integers accepts it, and otherwise as the
number that the built-in conversion to double width gives. What has no counterpart on the stack is
pushed as its text. Pushing reads a value and does nothing else.
-/

import DynamicValue.Proofs.Conversion.Exactness

namespace DynamicValue

/-- What is pushed for a dynamic value, given as its payload, agrees with what a registry converts
the same dynamic value to. -/
structure Registry.PushesAsConverted (registry : Registry) (machine : Machine) (cell : Cell)
    (payload? : Option Payload) (pushed : HostValue) : Prop where
  empty : payload? = none → pushed = .nothing
  integer : ∀ (kind : IntKind) (n : kind.Value), payload? = some ⟨.integer kind, n⟩ → ∀ long,
    pushed = .integer long ↔
      ((registry.coerce cell (.integer .long)).run machine).1 = .ok (.ok long)
  rounded : ∀ (kind : IntKind) (n : kind.Value), payload? = some ⟨.integer kind, n⟩ →
    (∀ long, pushed ≠ .integer long) → ∃ identity x,
      ((registry.coerce cell (.integer .long)).run machine).1 =
        .ok (.error (.outOfRange (Decimal.integerText n.val) identity)) ∧
      machine.identity? (.integer .long) = some identity ∧
      ((registry.coerce cell (.float .double)).run machine).1 = .ok (.ok x) ∧ pushed = .number x
  single : ∀ x : Binary .single, payload? = some ⟨.float .single, x⟩ → ∃ y,
    ((registry.coerce cell (.float .double)).run machine).1 = .ok (.ok y) ∧ pushed = .number y
  double : ∀ x : Binary .double, payload? = some ⟨.float .double, x⟩ → pushed = .number x
  boolean : ∀ b : Bool, payload? = some ⟨.boolean, b⟩ → pushed = .boolean b
  other : ∀ payload, payload? = some payload → payload.type.isNumeric = false →
    payload.type ≠ .boolean → ∃ text, cell.text.run machine = (.ok text, machine) ∧
      pushed = .text text

namespace Payload

theorem hostValue_of_ofInt? {kind : IntKind} {n : kind.Value} {long : IntKind.long.Value}
    (hheld : IntKind.long.ofInt? n.val = some long) :
    hostValue ⟨.integer kind, n⟩ = .integer long := by
  simp only [hostValue, hheld]

theorem hostValue_of_ofInt?_eq_none {kind : IntKind} {n : kind.Value}
    (hbeyond : IntKind.long.ofInt? n.val = none) :
    hostValue ⟨.integer kind, n⟩ = .number (.ofInt .double n.val) := by
  simp only [hostValue, hbeyond]

/-- Whatever is neither a number nor a truth value is pushed as its text. -/
theorem hostValue_of_other {payload : Payload} (hnumber : payload.type.isNumeric = false)
    (hboolean : payload.type ≠ .boolean) : payload.hostValue = .text payload.text := by
  obtain ⟨type, value⟩ := payload
  cases type with
  | integer kind => cases hnumber
  | float kind => cases hnumber
  | boolean => exact absurd rfl hboolean
  | character => rfl
  | text => rfl
  | literal => rfl
  | point => rfl
  | block => rfl
  | handle => rfl
  | over16 => rfl
  | tagged => rfl
  | fixed => rfl
  | probe => rfl
  | bigProbe => rfl

end Payload

section Integers

variable {machine : Machine} {registry : Registry} {cell : Cell} {kind : IntKind}
  {n : kind.Value} {identity : TypeIdentity}
  (hfollows : registry.Follows machine BuiltIn.registrations)
  (hidentity : machine.identity? (.integer .long) = some identity)
  (hcarries : cell.Carries machine ⟨.integer kind, n⟩)
include hfollows hidentity hcarries

/-- The conversion of an integer to the integers of a host is the range test that decides what is
pushed. -/
theorem Registry.coerce_long_of_integer :
    ((registry.coerce cell (.integer .long)).run machine).1 =
      .ok (match IntKind.long.ofInt? n.val with
        | some long => .ok long
        | none => .error (.outOfRange (Decimal.integerText n.val) identity)) := by
  rw [coerce_of_rule hfollows (BuiltIn.integerToInteger_mem kind .long) rfl hidentity hcarries]
  unfold Rule.integerToInteger
  cases IntKind.long.ofInt? n.val <;> rfl

/-- An integer is pushed as the integer that it is converted to, or as the number that it is
converted to. -/
theorem Registry.hostValue_integer_cases :
    (∃ long, Payload.hostValue ⟨.integer kind, n⟩ = .integer long ∧
      ((registry.coerce cell (.integer .long)).run machine).1 = .ok (.ok long)) ∨
    ∃ x, Payload.hostValue ⟨.integer kind, n⟩ = .number x ∧
      ((registry.coerce cell (.integer .long)).run machine).1 =
        .ok (.error (.outOfRange (Decimal.integerText n.val) identity)) ∧
      ((registry.coerce cell (.float .double)).run machine).1 = .ok (.ok x) := by
  have hlong := coerce_long_of_integer hfollows hidentity hcarries
  cases hheld : IntKind.long.ofInt? n.val with
  | some long =>
      rw [hheld] at hlong
      exact .inl ⟨long, Payload.hostValue_of_ofInt? hheld, hlong⟩
  | none =>
      rw [hheld] at hlong
      have hdouble := (BuiltIn.integersAndFloats_mem kind .double).1
      exact .inr ⟨_, Payload.hostValue_of_ofInt?_eq_none hheld, hlong,
        coerce_of_builtIn hfollows hdouble rfl hcarries rfl⟩

end Integers

/-- Each value is pushed once and stays as it is, and so does the program; what is pushed is what
the built-in conversions of the same value give, where they lead to a value of the host. -/
theorem pushes_agree_with_conversions {machine : Machine} {registry : Registry} {cell : Cell}
    {holdings : List Holding} {holding? : Option Holding}
    (hreached : Registry.Reached BuiltIn.registrations machine registry)
    (haccounts : machine.Accounts holdings) (hholds : cell.Holds machine holding?)
    (hsub : ∀ holding ∈ holding?, holding ∈ holdings) :
    ∃ pushed, (∀ stack, (cell.pushOnto stack).run machine = (.ok (stack ++ [pushed]), machine)) ∧
      registry.PushesAsConverted machine cell (holding?.map Holding.payload) pushed := by
  refine ⟨_, Cell.pushOnto_run haccounts hholds hsub, ?_⟩
  have htext := Cell.text_run haccounts hholds hsub
  have hfollows := hreached.follows
  obtain ⟨identity, hidentity, -⟩ := Registry.exists_identity hfollows hfollows
    (BuiltIn.integerToInteger_mem .long .long)
  cases holding? with
  | none =>
      constructor
      case empty => exact fun _ => rfl
      all_goals
        intros
        contradiction
  | some holding =>
      have hcarries : cell.Carries machine holding.payload :=
        ⟨holdings, holding, haccounts, hholds, hsub holding rfl, rfl⟩
      simp only [Option.map_some, Option.elim_some] at htext ⊢
      generalize holding.payload = payload at hcarries htext ⊢
      constructor
      case empty =>
        intro hempty
        cases hempty
      case integer =>
        rintro kind n ⟨⟩ long
        obtain ⟨other, hpushed, hrun⟩ | ⟨x, hpushed, hrun, -⟩ :=
          Registry.hostValue_integer_cases hfollows hidentity hcarries
        · rw [hpushed, hrun]
          simp
        · rw [hpushed, hrun]
          simp
      case rounded =>
        rintro kind n ⟨⟩ hnever
        obtain ⟨other, hpushed, -⟩ | ⟨x, hpushed, hrun, hdouble⟩ :=
          Registry.hostValue_integer_cases hfollows hidentity hcarries
        · exact absurd hpushed (hnever other)
        · exact ⟨identity, x, hrun, hidentity, hdouble, hpushed⟩
      case single =>
        rintro x ⟨⟩
        exact ⟨x.widen, Registry.coerce_of_builtIn hfollows BuiltIn.widen_mem rfl hcarries rfl, rfl⟩
      case double =>
        rintro x ⟨⟩
        rfl
      case boolean =>
        rintro b ⟨⟩
        rfl
      case other =>
        rintro _ ⟨⟩ hnumber hboolean
        exact ⟨payload.text, htext, Payload.hostValue_of_other hnumber hboolean⟩

/-- The greatest integer of 64 bits without a sign is no integer of the host and is pushed as the
number that it rounds to. -/
theorem greatest_unsigned_pushed_as_number :
    ∃ machine registry cell x identity, Registry.Reached BuiltIn.registrations machine registry ∧
      Cell.Carries cell machine ⟨.integer ⟨false, .bits64⟩, ⟨2 ^ 64 - 1, by decide⟩⟩ ∧
      (∀ stack, (cell.pushOnto stack).run machine = (.ok (stack ++ [.number x]), machine)) ∧
      ((registry.coerce cell (.integer .long)).run machine).1 =
        .ok (.error (.outOfRange "18446744073709551615" identity)) ∧
      ((registry.coerce cell (.float .double)).run machine).1 = .ok (.ok x) := by
  obtain ⟨machine, registry, cell, hreached, hcarries⟩ :=
    Registry.exists_reached_carrying ⟨.integer ⟨false, .bits64⟩, ⟨2 ^ 64 - 1, by decide⟩⟩
  obtain ⟨holdings, holding, haccounts, hholds, hheld, hpayload⟩ := id hcarries
  have hsub : ∀ other ∈ some holding, other ∈ holdings := by
    rintro _ ⟨⟩
    exact hheld
  obtain ⟨pushed, hpushes, hagree⟩ :=
    pushes_agree_with_conversions hreached haccounts hholds hsub
  have hmap : (some holding).map Holding.payload = some holding.contents.payload := rfl
  rw [hmap, hpayload] at hagree
  have hbeyond : IntKind.long.ofInt? (2 ^ 64 - 1) = none := by decide
  have hnever : ∀ long, pushed ≠ .integer long := by
    intro long heq
    have hrun := (hagree.integer _ _ rfl long).mp heq
    obtain ⟨identity, hidentity, -⟩ := Registry.exists_identity hreached.follows hreached.follows
      (BuiltIn.integerToInteger_mem .long .long)
    rw [Registry.coerce_long_of_integer hreached.follows hidentity hcarries, hbeyond] at hrun
    cases hrun
  obtain ⟨identity, x, hlong, -, hdouble, rfl⟩ := hagree.rounded _ _ rfl hnever
  have htext : Decimal.integerText (2 ^ 64 - 1) = "18446744073709551615" := by decide +kernel
  rw [htext] at hlong
  exact ⟨machine, registry, cell, x, identity, hreached, hcarries, hpushes, hlong, hdouble⟩

end DynamicValue
