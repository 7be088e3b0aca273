/-
# The built-in conversions of a registry

No two of the built-in rules connect the same two types. So a registry that was made with them, and
not changed since, has the conversion of each rule, and converts with it whatever the rule accepts.
-/

import DynamicValue.Proofs.Registry.Coercion
import Mathlib.Data.List.Induction

namespace DynamicValue

/-! ## One rule for each pair -/

/-- A number for each type. -/
def ValueType.code : ValueType → Nat
  | integer kind => 2 * kind.width.ctorIdx + kind.signed.toNat
  | float kind => 10 + kind.ctorIdx
  | other => 12 + other.ctorIdx

/-- Whether the numbers of a list are all different, and different from those in a set that is
written as the bits of a number. -/
def distinctFrom (seen : Nat) : List Nat → Bool
  | [] => true
  | code :: rest => !seen.testBit code && distinctFrom (seen ||| 2 ^ code) rest

theorem nodup_of_distinctFrom {seen : Nat} {codes : List Nat}
    (hdistinct : distinctFrom seen codes) :
    codes.Nodup ∧ ∀ code ∈ codes, seen.testBit code = false := by
  induction codes generalizing seen with
  | nil => exact ⟨List.nodup_nil, fun code hmem => absurd hmem List.not_mem_nil⟩
  | cons code rest ih =>
      change (!seen.testBit code && distinctFrom (seen ||| 2 ^ code) rest) = true at hdistinct
      rw [Bool.and_eq_true, Bool.not_eq_true'] at hdistinct
      obtain ⟨hrest, hseen⟩ := ih hdistinct.2
      have hnew : ∀ other ∈ rest, seen.testBit other = false ∧ other ≠ code := by
        intro other hmem
        have hor := hseen other hmem
        rw [Nat.testBit_or, Bool.or_eq_false_iff, Nat.testBit_two_pow] at hor
        exact ⟨hor.1, fun heq => of_decide_eq_false hor.2 heq.symm⟩
      refine ⟨List.nodup_cons.mpr ⟨fun hmem => (hnew code hmem).2 rfl, hrest⟩, ?_⟩
      intro other hmem
      rcases List.mem_cons.mp hmem with rfl | hmem
      · exact hdistinct.1
      · exact (hnew other hmem).1

/-- There is one built-in rule at most for a pair of types. -/
theorem BuiltIn.types_nodup : (registrations.map RegistryOperation.types).Nodup := by
  -- Comparing each pair with each other one takes long; looking up the numbers of pairs does not.
  have hcodes : distinctFrom 0 ((registrations.map RegistryOperation.types).map fun pair =>
      26 * pair.1.code + pair.2.code) := by
    decide +kernel
  exact (nodup_of_distinctFrom hcodes).1.of_map

/-- If no two operations of a history are about the same pair, each registration is live. -/
theorem liveConversion?_of_mem {history : List RegistryOperation} {source dest : ValueType}
    {conversion : Conversion source dest}
    (hdistinct : (history.map RegistryOperation.types).Nodup)
    (hmem : .register source dest conversion ∈ history) :
    liveConversion? history source dest = some conversion := by
  induction history using List.reverseRecOn with
  | nil => cases hmem
  | append_singleton front last ih =>
      rw [List.map_append, List.map_singleton, List.nodup_append] at hdistinct
      obtain ⟨hfront, -, hdisjoint⟩ := hdistinct
      rcases List.mem_append.mp hmem with hmem | hmem
      · have hne : last.types ≠ (source, dest) := by
          intro heq
          apply hdisjoint (source, dest) (List.mem_map_of_mem hmem) last.types
            (List.mem_singleton_self _)
          exact heq.symm
        rw [liveConversion?_append_of_ne last hne]
        exact ih hfront hmem
      · rw [← List.mem_singleton.mp hmem]
        exact liveConversion?_register_self conversion

/-- A registry with the built-in conversions has every one of them. -/
theorem BuiltIn.liveConversion?_eq {builtIn : BuiltIn} (hmem : builtIn ∈ all) :
    liveConversion? registrations builtIn.source builtIn.dest = some builtIn.rule.conversion :=
  liveConversion?_of_mem types_nodup (List.mem_map_of_mem hmem)

/-! ## The rules for numbers -/

namespace BuiltIn

theorem integerToInteger_mem (source dest : IntKind) :
    ⟨_, _, .integerToInteger source dest⟩ ∈ all := by
  have hmem : ⟨_, _, .integerToInteger source dest⟩ ∈ integers :=
    List.mem_flatMap.mpr ⟨dest, dest.mem_all, List.mem_map.mpr ⟨source, source.mem_all, rfl⟩⟩
  unfold all
  simp only [List.mem_append, hmem, true_or]

theorem integersAndFloats_mem (kind : IntKind) (format : FloatKind) :
    ⟨_, _, .integerToFloat kind format⟩ ∈ all ∧ ⟨_, _, .floatToInteger format kind⟩ ∈ all := by
  have hmem : ∀ builtIn : BuiltIn, builtIn ∈ ([⟨_, _, .integerToFloat kind .single⟩,
      ⟨_, _, .integerToFloat kind .double⟩, ⟨_, _, .floatToInteger .single kind⟩,
      ⟨_, _, .floatToInteger .double kind⟩] : List BuiltIn) → builtIn ∈ all := by
    intro builtIn hlisted
    have hnumbers : builtIn ∈ integersAndFloats :=
      List.mem_flatMap.mpr ⟨kind, kind.mem_all, hlisted⟩
    unfold all
    simp only [List.mem_append, hnumbers, true_or, or_true]
  cases format <;> exact ⟨hmem _ (by simp), hmem _ (by simp)⟩

theorem booleanToInteger_mem (kind : IntKind) : ⟨_, _, .booleanToInteger kind⟩ ∈ all := by
  have hmem : ⟨_, _, .booleanToInteger kind⟩ ∈ numbersAndBooleans :=
    List.mem_append_left _ (List.mem_flatMap.mpr ⟨kind, kind.mem_all, by simp⟩)
  unfold all
  simp only [List.mem_append, hmem, true_or, or_true]

theorem booleanToFloat_mem (format : FloatKind) : ⟨_, _, .booleanToFloat format⟩ ∈ all := by
  have hmem : ⟨_, _, .booleanToFloat format⟩ ∈ numbersAndBooleans :=
    List.mem_append_right _ (List.mem_flatMap.mpr ⟨format, format.mem_all, by simp⟩)
  unfold all
  simp only [List.mem_append, hmem, true_or, or_true]

theorem widen_mem : ⟨_, _, .widen⟩ ∈ all := by
  unfold all
  simp only [List.mem_append, List.mem_cons, true_or, or_true]

theorem narrow_mem : ⟨_, _, .narrow⟩ ∈ all := by
  unfold all
  simp only [List.mem_append, List.mem_cons, true_or, or_true]

theorem texts_integer_subset (kind : IntKind) :
    texts (.integer kind) (Rule.readInteger kind) ⊆ all := by
  intro builtIn hmem
  have hnumbers : builtIn ∈ numbersAndTexts :=
    List.mem_append_left _ (List.mem_flatMap.mpr ⟨kind, kind.mem_all, hmem⟩)
  unfold all
  simp only [List.mem_append, hnumbers, true_or, or_true]

theorem texts_float_subset (kind : FloatKind) :
    texts (.float kind) (Rule.readFloat kind) ⊆ all := by
  intro builtIn hmem
  have hnumbers : builtIn ∈ numbersAndTexts :=
    List.mem_append_right _ (List.mem_flatMap.mpr ⟨kind, kind.mem_all, hmem⟩)
  unfold all
  simp only [List.mem_append, hnumbers, true_or, or_true]

section Texts

variable {type : ValueType} {read : String → Except Refusal type.Value}
  (hsubset : texts type read ⊆ all)
include hsubset

theorem write_mem : ⟨type, .text, .write type⟩ ∈ all := hsubset List.mem_cons_self

theorem readText_mem : ⟨.text, type, read⟩ ∈ all :=
  hsubset (List.mem_cons_of_mem _ List.mem_cons_self)

theorem readLiteral_mem : ⟨.literal, type, read⟩ ∈ all :=
  hsubset (List.mem_cons_of_mem _ (List.mem_cons_of_mem _ List.mem_cons_self))

end Texts

end BuiltIn

/-! ## Values of a program -/

/-- A value of a program that holds a payload. -/
def Cell.Carries (cell : Cell) (machine : Machine) (payload : Payload) : Prop :=
  ∃ holdings holding, machine.Accounts holdings ∧ cell.Holds machine (some holding) ∧
    holding ∈ holdings ∧ holding.contents.payload = payload

theorem Machine.Makes.carries {machine made : Machine} {holdings : List Holding}
    {payload : Payload} {cell : Cell} {holding : Holding}
    (hmakes : machine.Makes holdings payload cell made holding) : cell.Carries made payload :=
  ⟨_, holding, hmakes.accounts, hmakes.holds, List.mem_cons_self, hmakes.payload_eq⟩

section Carrying

variable {machine : Machine} {registry : Registry} {history : List RegistryOperation}
  (hreached : Registry.Reached history machine registry)
include hreached

/-- A value with any payload can be made in a program, and its registries stay. -/
theorem Registry.Reached.exists_carrying {holdings : List Holding}
    (haccounts : machine.Accounts holdings) (payload : Payload) :
    ∃ later cell, Reached history later registry ∧ Cell.Carries cell later payload := by
  obtain ⟨cell, later, holding, -, hmakes⟩ :=
    Cell.ofPayload_makes hreached.follows.coherent haccounts payload
  exact ⟨later, cell, hreached.elsewhere hmakes.knows hmakes.coherent, hmakes.carries⟩

/-- A value can be made beside another one. -/
theorem Registry.Reached.exists_later {cell : Cell} {payload : Payload}
    (hcarries : cell.Carries machine payload) (other : Payload) :
    ∃ later back, Reached history later registry ∧ Cell.Carries back later other := by
  obtain ⟨holdings, -, haccounts, -⟩ := hcarries
  exact hreached.exists_carrying haccounts other

end Carrying

/-- Any payload can be held in a program that has a registry with the built-in conversions. -/
theorem Registry.exists_reached_carrying (payload : Payload) :
    ∃ machine registry cell, Registry.Reached BuiltIn.registrations machine registry ∧
      Cell.Carries cell machine payload := by
  obtain ⟨hlearns, -⟩ := Machine.OnlyLearns.withBuiltIns .fresh .fresh
  obtain ⟨machine, cell, hreached, hcarries⟩ :=
    (Registry.Reached.builtIns .fresh).exists_carrying (hlearns.accounts .fresh) payload
  exact ⟨machine, _, cell, hreached, hcarries⟩

/-- A plan that a rule makes of a value ends as the rule does, with the identity of the destination
in its errors. -/
theorem Rule.conversion_run {source dest : ValueType} (rule : Rule source dest)
    (value : source.Value) (converter : Converter) (input : Instance) {machine : Machine}
    {identity : TypeIdentity} (hidentity : machine.identity? dest = some identity) :
    ((rule.conversion value).run converter input).run machine =
      (.ok ((rule value).mapError (Refusal.conversionError identity)), machine) := by
  unfold Rule.conversion
  cases rule value with
  | ok result => rfl
  | error refusal =>
      have hidentify : (liftM (Machine.identify dest) : Action Machine TypeIdentity).run machine =
          (.ok identity, machine) := by
        rw [Action.run_lift, Machine.identify_of_some hidentity]
      exact Action.run_bind_ok _ hidentify

/-- The identity of a type that a built-in rule leads to is the same in all programs that a registry
with the built-in conversions is used in. -/
theorem Registry.exists_identity {machine later : Machine} {registry : Registry}
    {builtIn : BuiltIn} (hfollows : registry.Follows machine BuiltIn.registrations)
    (hlater : registry.Follows later BuiltIn.registrations) (hmem : builtIn ∈ BuiltIn.all) :
    ∃ identity, machine.identity? builtIn.dest = some identity ∧
      later.identity? builtIn.dest = some identity := by
  have hlive := BuiltIn.liveConversion?_eq hmem
  obtain ⟨entry, hentry, -, hdest⟩ := hfollows.complete builtIn.source builtIn.dest (by
    rw [hlive]
    rfl)
  rw [← hdest]
  exact ⟨entry.destIdentity, hfollows.dest entry hentry, hlater.dest entry hentry⟩

/-- A built-in rule decides what becomes of a value; the program only learns the destination. -/
theorem Registry.Follows.coerce_run_of_rule {machine : Machine} {registry : Registry}
    {holdings : List Holding} {holding : Holding} {cell : Cell} {dest : ValueType}
    {rule : Rule holding.contents.payload.type dest}
    (hfollows : registry.Follows machine BuiltIn.registrations)
    (haccounts : machine.Accounts holdings) (hholds : cell.Holds machine (some holding))
    (hheld : holding ∈ holdings) (hnative : dest.isForeign = false)
    (hmem : ⟨holding.contents.payload.type, dest, rule⟩ ∈ BuiltIn.all) :
    ∃ after, (registry.coerce cell dest).run machine =
        (.ok ((rule holding.contents.payload.value).mapError
          (Refusal.conversionError (Machine.identify dest machine).1)), after) ∧
      machine.Extends after ∧ after.Coherent ∧ after.global? = machine.global? := by
  have hlearns := Machine.identify_learns dest machine
  have hknown := Machine.identify_coherent hfollows.coherent dest
  have hrun := hfollows.coercesByHistory.live holdings cell holding dest rule.conversion haccounts
    hholds hheld hnative (BuiltIn.liveConversion?_eq hmem)
  rw [rule.conversion_run _ registry.nested holding.contents
    (Machine.identity?_identify hfollows.coherent dest)] at hrun
  cases hresult : rule holding.contents.payload.value with
  | ok value =>
      rw [hresult] at hrun
      exact ⟨_, hrun, hlearns.toExtends.trans (.advance _ _ _ _ _), hknown.advance _ _ _ _,
        hlearns.global?⟩
  | error refusal =>
      rw [hresult] at hrun
      exact ⟨_, hrun, hlearns.toExtends, hknown, hlearns.global?⟩

/-- A built-in rule decides what becomes of each dynamic value that holds a value of its source. -/
theorem Registry.coerce_of_rule {machine : Machine} {registry : Registry} {cell : Cell}
    {source dest : ValueType} {rule : Rule source dest} {value : source.Value}
    {identity : TypeIdentity} (hfollows : registry.Follows machine BuiltIn.registrations)
    (hmem : ⟨source, dest, rule⟩ ∈ BuiltIn.all) (hnative : dest.isForeign = false)
    (hidentity : machine.identity? dest = some identity)
    (hcarries : cell.Carries machine ⟨source, value⟩) :
    ((registry.coerce cell dest).run machine).1 =
      .ok ((rule value).mapError (Refusal.conversionError identity)) := by
  obtain ⟨holdings, ⟨box?, serial, payload⟩, haccounts, hholds, hheld, hpayload⟩ := hcarries
  obtain rfl : payload = ⟨source, value⟩ := hpayload
  obtain ⟨after, hrun, -⟩ := hfollows.coerce_run_of_rule haccounts hholds hheld hnative hmem
  rw [hrun, Machine.identify_of_some hidentity]

/-- A built-in rule that accepts a value converts each dynamic value that holds it. -/
theorem Registry.coerce_of_builtIn {machine : Machine} {registry : Registry} {cell : Cell}
    {source dest : ValueType} {rule : Rule source dest} {value : source.Value}
    {result : dest.Value} (hfollows : registry.Follows machine BuiltIn.registrations)
    (hmem : ⟨source, dest, rule⟩ ∈ BuiltIn.all) (hnative : dest.isForeign = false)
    (hcarries : cell.Carries machine ⟨source, value⟩) (haccepts : rule value = .ok result) :
    ((registry.coerce cell dest).run machine).1 = .ok (.ok result) := by
  obtain ⟨identity, hidentity, -⟩ := Registry.exists_identity hfollows hfollows hmem
  rw [Registry.coerce_of_rule hfollows hmem hnative hidentity hcarries, haccepts]
  rfl

end DynamicValue
