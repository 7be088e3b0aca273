/-
# What a value can be had as

In a program that has no conversions but the built-in ones, a value can be had as its own type and
as every type that a built-in rule leads to which accepts it, and as nothing else. Asking for it
leaves the program as it was in this respect: it still has the built-in conversions and no others.
-/

import DynamicValue.Proofs.Cell.Access
import DynamicValue.Proofs.Conversion.BuiltIn

namespace DynamicValue

/-! ## The rules behind live conversions -/

/-- What is live after some operations was registered by one of them. -/
theorem mem_of_liveConversion? {history : List RegistryOperation} {source dest : ValueType}
    {conversion : Conversion source dest}
    (hlive : liveConversion? history source dest = some conversion) :
    .register source dest conversion ∈ history := by
  obtain ⟨operation, hmem, hverdict⟩ :=
    List.exists_of_findSome?_eq_some (Option.join_eq_some_iff.mp hlive)
  rw [List.mem_reverse] at hmem
  by_cases hpair : operation.types = (source, dest)
  · cases operation with
    | register source' dest' conversion' =>
        obtain ⟨rfl, rfl⟩ := Prod.mk.inj hpair
        rw [RegistryOperation.verdict?_register_self] at hverdict
        cases hverdict
        exact hmem
    | unregister source' dest' =>
        obtain ⟨rfl, rfl⟩ := Prod.mk.inj hpair
        rw [RegistryOperation.verdict?_unregister_self] at hverdict
        cases hverdict
  · rw [RegistryOperation.verdict?_of_ne hpair] at hverdict
    cases hverdict

/-- The conversion of a rule gives what the rule does. -/
theorem Rule.conversion_eq_give_iff {source dest : ValueType} {rule : Rule source dest}
    {value : source.Value} {result : dest.Value} :
    rule.conversion value = .give result ↔ rule value = .ok result := by
  unfold Rule.conversion
  cases rule value <;> simp

namespace BuiltIn

variable {source dest : ValueType}

/-- A conversion that a registry with the built-in conversions has is that of a built-in rule. -/
theorem exists_rule_of_live {conversion : Conversion source dest}
    (hlive : liveConversion? registrations source dest = some conversion) :
    ∃ rule, ⟨source, dest, rule⟩ ∈ all ∧ conversion = rule.conversion := by
  obtain ⟨⟨source', dest', rule⟩, hmem, hregister⟩ :=
    List.mem_map.mp (mem_of_liveConversion? hlive)
  cases hregister
  exact ⟨rule, hmem, rfl⟩

/-- Two built-in rules between the same types give the same results. -/
theorem result_unique {first second : Rule source dest} {value : source.Value}
    {result : dest.Value} (hfirst : ⟨source, dest, first⟩ ∈ all)
    (hsecond : ⟨source, dest, second⟩ ∈ all) (haccepts : first value = .ok result) :
    second value = .ok result := by
  have hlive := liveConversion?_eq hfirst
  rw [liveConversion?_eq hsecond] at hlive
  have hsame : second.conversion value = first.conversion value :=
    congrFun (Option.some.inj hlive) value
  rw [Rule.conversion_eq_give_iff.mpr haccepts] at hsame
  exact Rule.conversion_eq_give_iff.mp hsame

end BuiltIn

/-! ## Programs with the built-in conversions only -/

/-- The values that a payload can be had as: its own, and what a built-in rule makes of it. -/
inductive Payload.Views (payload : Payload) : (type : ValueType) → type.Value → Prop
  | own : payload.Views payload.type payload.value
  | converted {type : ValueType} {value : type.Value} {rule : Rule payload.type type}
      (hother : payload.type ≠ type) (hmem : ⟨payload.type, type, rule⟩ ∈ BuiltIn.all)
      (haccepts : rule payload.value = .ok value) : payload.Views type value

/-- A payload is had as its own type or through a rule, never as both. -/
theorem Payload.views_iff {payload : Payload} {type : ValueType} {value : type.Value} :
    payload.Views type value ↔ payload.as? type = some value ∨ payload.as? type = none ∧
      ∃ rule, ⟨payload.type, type, rule⟩ ∈ BuiltIn.all ∧ rule payload.value = .ok value := by
  constructor
  · intro hviews
    cases hviews with
    | own => exact .inl payload.as?_self
    | converted hother hmem haccepts =>
        exact .inr ⟨Payload.as?_eq_none_iff.mpr hother, _, hmem, haccepts⟩
  · rintro (hown | ⟨hnone, rule, hmem, haccepts⟩)
    · by_cases htype : payload.type = type
      · subst htype
        rw [payload.as?_self] at hown
        cases hown
        exact .own
      · rw [Payload.as?_eq_none_iff.mpr htype] at hown
        cases hown
    · exact .converted (Payload.as?_eq_none_iff.mp hnone) hmem haccepts

/-- A program whose global registry has not been made yet or has the built-in conversions and no
others. -/
structure Machine.HasBuiltIns (machine : Machine) : Prop where
  coherent : machine.Coherent
  follows : ∀ registry ∈ machine.global?, registry.Follows machine BuiltIn.registrations

variable {machine after : Machine} {registry : Registry} {holdings : List Holding}
  {holding? : Option Holding} {cell : Cell} {type : ValueType}

namespace Machine.HasBuiltIns

/-- A program that goes on without touching its global registry. -/
theorem later (hbuiltIns : machine.HasBuiltIns) (hextends : machine.Extends after)
    (hafter : after.Coherent) (hglobal : after.global? = machine.global?) :
    after.HasBuiltIns where
  coherent := hafter
  follows registry hmem := (hbuiltIns.follows registry (hglobal ▸ hmem)).mono hextends hafter

/-- The global registry has the built-in conversions, also if it is made now. -/
theorem globalRegistry_apply (hbuiltIns : machine.HasBuiltIns)
    (haccounts : machine.Accounts holdings) :
    ∃ registry made, globalRegistry machine = (registry, made) ∧
      registry.Follows made BuiltIn.registrations ∧ made.HasBuiltIns ∧
      machine.Settled made holdings := by
  cases hglobal : machine.global? with
  | some registry =>
      exact ⟨registry, machine, globalRegistry_of_some hglobal, hbuiltIns.follows registry hglobal,
        hbuiltIns, .refl hbuiltIns.coherent haccounts⟩
  | none =>
      obtain ⟨hlearns, hknown⟩ := OnlyLearns.withBuiltIns machine hbuiltIns.coherent
      have hfollows := Registry.Follows.withBuiltIns hbuiltIns.coherent
      rw [globalRegistry_of_none hglobal]
      generalize Registry.withBuiltIns machine = built at hlearns hknown hfollows ⊢
      have hsettled := (Settled.learn hknown hlearns haccounts).withGlobal (some built.1)
      have hthere := hfollows.mono (⟨List.prefix_rfl, List.prefix_rfl⟩ :
        built.2.Extends { built.2 with global? := some built.1 }) hsettled.coherent
      refine ⟨built.1, _, rfl, hthere, ⟨hsettled.coherent, ?_⟩, hsettled⟩
      intro registry hmem
      cases hmem
      exact hthere

end Machine.HasBuiltIns

/-! ## Asking for a value -/

theorem mapError_eq_ok_iff {ε δ α : Type} {change : ε → δ} {result : Except ε α} {value : α} :
    result.mapError change = .ok value ↔ result = .ok value := by
  cases result <;> simp [Except.mapError]

/-- A registry with the built-in conversions gives what a rule makes of the payload of a value, and
nothing else. -/
theorem Registry.Follows.coerce_run (hfollows : registry.Follows machine BuiltIn.registrations)
    (haccounts : machine.Accounts holdings) (hholds : cell.Holds machine holding?)
    (hsub : ∀ holding ∈ holding?, holding ∈ holdings) (hnative : type.isForeign = false) :
    ∃ result after, (registry.coerce cell type).run machine = (.ok result, after) ∧
      machine.Extends after ∧ after.Coherent ∧ after.global? = machine.global? ∧
      ∀ value, result = .ok value ↔ ∃ holding ∈ holding?, ∃ rule,
        ⟨holding.payload.type, type, rule⟩ ∈ BuiltIn.all ∧
          rule holding.payload.value = .ok value := by
  have hlearns := Machine.identify_learns type machine
  have hknown := Machine.identify_coherent hfollows.coherent type
  have hcoerces := hfollows.coercesByHistory
  cases holding? with
  | none =>
      have hempty : cell.isEmpty := hholds.isEmpty_eq
      refine ⟨_, _, hcoerces.empty cell type hnative hempty, hlearns.toExtends, hknown,
        hlearns.global?, fun value => ⟨fun h => ?_, fun h => ?_⟩⟩
      · cases h
      · obtain ⟨holding, hmem, -⟩ := h
        cases hmem
  | some holding =>
      have hheld : holding ∈ holdings := hsub holding rfl
      cases hlive : liveConversion? BuiltIn.registrations holding.payload.type type with
      | none =>
          refine ⟨_, _, hcoerces.missing holdings cell holding type haccounts hholds hheld hnative
            hlive, hlearns.toExtends, hknown, hlearns.global?,
            fun value => ⟨fun h => ?_, fun h => ?_⟩⟩
          · cases h
          · obtain ⟨_, hmem, rule, hrule, -⟩ := h
            cases hmem
            rw [BuiltIn.liveConversion?_eq hrule] at hlive
            cases hlive
      | some conversion =>
          obtain ⟨rule, hrule, rfl⟩ := BuiltIn.exists_rule_of_live hlive
          obtain ⟨after, hrun, hextends, hafter, hglobal⟩ :=
            hfollows.coerce_run_of_rule haccounts hholds hheld hnative hrule
          refine ⟨_, after, hrun, hextends, hafter, hglobal, fun value => ?_⟩
          rw [mapError_eq_ok_iff]
          refine ⟨fun haccepts => ⟨holding, rfl, rule, hrule, haccepts⟩, fun h => ?_⟩
          obtain ⟨_, hmem, rule', hrule', haccepts⟩ := h
          cases hmem
          exact BuiltIn.result_unique hrule' hrule haccepts

section Asking

variable (hbuiltIns : machine.HasBuiltIns) (haccounts : machine.Accounts holdings)
  (hholds : cell.Holds machine holding?) (hsub : ∀ holding ∈ holding?, holding ∈ holdings)
  (hnative : type.isForeign = false)
include hbuiltIns haccounts hholds hsub hnative

/-- The global registry gives what a rule makes of the payload of a value, and nothing else. -/
theorem Cell.coerceGlobally_run :
    ∃ result after, (cell.coerceGlobally type).run machine = (.ok result, after) ∧
      after.HasBuiltIns ∧ ∀ value, result = .ok value ↔ ∃ holding ∈ holding?, ∃ rule,
        ⟨holding.payload.type, type, rule⟩ ∈ BuiltIn.all ∧
          rule holding.payload.value = .ok value := by
  obtain ⟨registry, made, hglobal, hfollows, hmade, hsettled⟩ :=
    hbuiltIns.globalRegistry_apply haccounts
  obtain ⟨result, after, hrun, hextends, hafter, hkept, hresult⟩ :=
    hfollows.coerce_run hsettled.accounts (hholds.mono hsettled.knows) hsub hnative
  rw [Cell.coerceGlobally_eq, hglobal]
  exact ⟨result, after, hrun, hmade.later hextends hafter hkept, hresult⟩

/-- A value is lent as its own type; for any other type the global registry is asked. -/
theorem Cell.extract_run :
    ∃ result after, (cell.extract type).run machine = (.ok result, after) ∧
      after.HasBuiltIns ∧ ∀ value, (∃ borrowed, result = .ok ⟨value, borrowed⟩) ↔
        ∃ holding ∈ holding?, holding.payload.Views type value := by
  have hvalue := Cell.valueOf?_run haccounts hholds hsub type
  simp only [Payload.views_iff]
  cases hown : holding?.bind fun holding => holding.payload.as? type with
  | some own =>
      obtain ⟨holding, hmem, hpayload⟩ := Option.bind_eq_some_iff.mp hown
      cases hmem
      rw [hown] at hvalue
      refine ⟨_, machine, extract_of_some hvalue, hbuiltIns, fun value => ⟨?_, ?_⟩⟩
      · rintro ⟨borrowed, hresult⟩
        cases hresult
        exact ⟨holding, rfl, .inl hpayload⟩
      · rintro ⟨_, hmem, hvalue⟩
        cases hmem
        rw [hpayload] at hvalue
        rcases hvalue with hvalue | ⟨hnone, -⟩
        · cases hvalue
          exact ⟨true, rfl⟩
        · cases hnone
  | none =>
      obtain ⟨result, after, hrun, hafter, hresult⟩ :=
        Cell.coerceGlobally_run hbuiltIns haccounts hholds hsub hnative
      rw [hown] at hvalue
      refine ⟨_, after, extract_of_none hvalue hrun, hafter, fun value => ?_⟩
      have hunown : ∀ holding ∈ holding?, holding.payload.as? type = none := by
        intro holding hmem
        cases hmem
        exact hown
      have hconverted : (∃ borrowed, (result.map fun value : type.Value => Access.mk value false) =
          .ok ⟨value, borrowed⟩) ↔ result = .ok value := by
        cases result <;> simp [Except.map]
      rw [hconverted, hresult value]
      constructor
      · rintro ⟨holding, hmem, hrule⟩
        exact ⟨holding, hmem, .inr ⟨hunown holding hmem, hrule⟩⟩
      · rintro ⟨holding, hmem, hvalue | ⟨-, hrule⟩⟩
        · rw [hunown holding hmem] at hvalue
          cases hvalue
        · exact ⟨holding, hmem, hrule⟩

/-- Asking for a value as a native type succeeds with what it can be had as. -/
theorem Cell.get_run :
    ∃ result after, (cell.get type).run machine = (.ok result, after) ∧
      after.HasBuiltIns ∧ ∀ value, (∃ borrowed, result = .ok ⟨value, borrowed⟩) ↔
        ∃ holding ∈ holding?, holding.payload.Views type value := by
  obtain ⟨result, after, hrun, hafter, hviews⟩ :=
    Cell.extract_run hbuiltIns haccounts hholds hsub hnative
  obtain ⟨dest, hdest⟩ :=
    exists_identity?_of_extract hbuiltIns.coherent haccounts hholds hsub type
  rw [hrun] at hdest
  refine ⟨_, after, get_of_extract hrun hdest, hafter, fun value => ?_⟩
  rw [← hviews value]
  cases result <;> simp [Except.mapError]

end Asking

/-- A value that a program holds, with its payload if it is not empty. -/
def Cell.Shows (cell : Cell) (machine : Machine) (payload? : Option Payload) : Prop :=
  ∃ holdings holding?, machine.Accounts holdings ∧ cell.Holds machine holding? ∧
    (∀ holding ∈ holding?, holding ∈ holdings) ∧ holding?.map Holding.payload = payload?

variable {payload? : Option Payload}

/-- What a value shows is what is read in it, so it shows one thing only. -/
theorem Cell.Shows.unique {other? : Option Payload} (hshows : cell.Shows machine payload?)
    (hother : cell.Shows machine other?) : payload? = other? := by
  obtain ⟨_, holding?, haccounts, hholds, hsub, rfl⟩ := hshows
  obtain ⟨_, holding?', haccounts', hholds', hsub', rfl⟩ := hother
  have hread := (Cell.contents?_run haccounts hholds hsub).symm.trans
    (Cell.contents?_run haccounts' hholds' hsub')
  have hcontents : holding?.map Holding.contents = holding?'.map Holding.contents :=
    Except.ok.inj (congrArg Prod.fst hread)
  have hpayloads := congrArg (Option.map Instance.payload) hcontents
  rwa [Option.map_map, Option.map_map] at hpayloads

/-- Any payload can be held in a program with the built-in conversions only. -/
theorem Cell.exists_shows (payload : Payload) :
    ∃ machine cell, machine.HasBuiltIns ∧ Cell.Shows cell machine (some payload) := by
  obtain ⟨cell, holding, known, heap, -, hlearns, hknown, hholds, hcontents, haccounts⟩ :=
    Cell.ofPayload_apply .fresh .fresh payload
  refine ⟨_, cell, ⟨hknown.advance _ _ _ _, fun registry hmem => ?_⟩, _, some holding, haccounts,
    hholds, fun held hmem => ?_, ?_⟩
  · rw [Machine.advance_global?, hlearns.global?] at hmem
    cases hmem
  · cases hmem
    exact List.mem_cons_self
  · rw [Option.map_some, Holding.payload, hcontents]

/-- Asking for a value as a native type succeeds with what its payload can be had as, and leaves the
value and the built-in conversions as they are. -/
theorem Cell.Shows.get_run (hshows : cell.Shows machine payload?)
    (hbuiltIns : machine.HasBuiltIns) (type : ValueType) (hnative : type.isForeign = false) :
    ∃ result after, (cell.get type).run machine = (.ok result, after) ∧
      after.HasBuiltIns ∧ cell.Shows after payload? ∧
      ∀ value, (∃ borrowed, result = .ok ⟨value, borrowed⟩) ↔
        ∃ payload ∈ payload?, payload.Views type value := by
  obtain ⟨holdings, holding?, haccounts, hholds, hsub, rfl⟩ := hshows
  obtain ⟨result, after, hrun, hafter, hviews⟩ :=
    Cell.get_run hbuiltIns haccounts hholds hsub hnative
  have hsettled := Cell.get_settles hbuiltIns.coherent haccounts hholds hsub type
  unfold Action.Settles at hsettled
  rw [hrun] at hsettled
  refine ⟨result, after, hrun, hafter,
    ⟨holdings, holding?, hsettled.accounts, hholds.mono hsettled.knows, hsub, rfl⟩, ?_⟩
  intro value
  rw [hviews value]
  simp

end DynamicValue
