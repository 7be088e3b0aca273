/-
# How a value is had as a type

A value that holds exactly the type it is asked for as lends its own payload. The global registry is
not even looked at then. Any other request is a coercion, and what the coercion ends with is what
the access ends with: a result belongs to the caller, a failure is put between the type of the value
and the requested one, and a halt goes through. The identity of the requested type is known in each
case: it is that of the payload, or the coercion has handed it out before anything else.
-/

import DynamicValue.Proofs.Registry.Coercion

namespace DynamicValue

variable {machine after : Machine} {holdings : List Holding} {holding? : Option Holding}
  {holding : Holding} {cell : Cell} {type : ValueType}

/-- What the global registry is when it is asked for, and the program then. -/
theorem Cell.coerceGlobally_eq (cell : Cell) (type : ValueType) (machine : Machine) :
    (cell.coerceGlobally type).run machine =
      ((Machine.globalRegistry machine).1.coerce cell type).run
        (Machine.globalRegistry machine).2 :=
  Action.run_bind_ok _ (Action.run_lift _ _)

section Accounted

variable (hcoherent : machine.Coherent) (haccounts : machine.Accounts holdings)
  (hholds : cell.Holds machine holding?) (hsub : ∀ holding ∈ holding?, holding ∈ holdings)
include hcoherent haccounts hholds hsub

/-- After a coercion the identity of its destination is known, whatever it ended with. -/
theorem Registry.exists_identity?_of_coerce (registry : Registry) (type : ValueType) :
    ∃ identity, ((registry.coerce cell type).run machine).2.identity? type = some identity := by
  have hdepth : registry.coerce = registry.coerceWithin (registry.size + 999 + 1) := rfl
  have hsettled := registry.coerceWithin_succ_settles
    (registry.coerceWithin_settles (registry.size + 999)) type hcoherent haccounts hholds hsub
  rw [hdepth]
  exact ⟨_, (Machine.identify_coherent hcoherent type).identity?_of_extends hsettled.coherent
    hsettled.knows (Machine.identity?_identify hcoherent type)⟩

theorem Cell.exists_identity?_of_coerceGlobally (type : ValueType) :
    ∃ identity, ((cell.coerceGlobally type).run machine).2.identity? type = some identity := by
  have hglobal := Machine.globalRegistry_settled hcoherent haccounts
  rw [Cell.coerceGlobally_eq]
  exact Registry.exists_identity?_of_coerce hglobal.coherent hglobal.accounts
    (hholds.mono hglobal.knows) hsub _ type

omit hholds hsub in
/-- Nothing is converted to a foreign type by the global registry, whatever it has in it. -/
theorem Cell.coerceGlobally_foreign (cell : Cell) (hforeign : type.isForeign = true) :
    ∃ dest known, (cell.coerceGlobally type).run machine =
      (.ok (.error (.foreignDestination dest)), known) := by
  have hglobal := Machine.globalRegistry_settled hcoherent haccounts
  rw [Cell.coerceGlobally_eq]
  exact ⟨_, _, Registry.coerceWithin_foreign hglobal.coherent _ _ cell hforeign⟩

end Accounted

namespace Cell

/-- A payload that is found under the requested type is lent. -/
theorem extract_of_some {value : type.Value}
    (hvalue : (cell.valueOf? type).run machine = (.ok (some value), machine)) :
    (cell.extract type).run machine = (.ok (.ok ⟨value, true⟩), machine) :=
  Action.run_bind_ok _ hvalue

/-- If there is none, the value is converted. -/
theorem extract_of_none {outcome : Except Halt (Except ConversionError type.Value)}
    (hvalue : (cell.valueOf? type).run machine = (.ok none, machine))
    (hrun : (cell.coerceGlobally type).run machine = (outcome, after)) :
    (cell.extract type).run machine =
      (outcome.map fun result => result.map (⟨·, false⟩), after) :=
  (Action.run_bind_ok _ hvalue).trans (Action.run_bind_pure _ hrun)

section Lending

variable (haccounts : machine.Accounts holdings) (hholds : cell.Holds machine (some holding))
  (hmem : holding ∈ holdings)
include haccounts hholds hmem

/-- A value lends its payload as the type that it holds. -/
theorem extract_of_held :
    (cell.extract holding.payload.type).run machine =
      (.ok (.ok ⟨holding.payload.value, true⟩), machine) := by
  have hvalue := valueOf?_run haccounts hholds (fun held hheld => by cases hheld; exact hmem)
    holding.payload.type
  rw [Option.bind_some, Payload.as?_self] at hvalue
  exact extract_of_some hvalue

end Lending

/-- A value that does not hold a type is converted to it. -/
theorem extract_of_not_held (haccounts : machine.Accounts holdings)
    (hholds : cell.Holds machine holding?) (hsub : ∀ holding ∈ holding?, holding ∈ holdings)
    (htype : ∀ holding ∈ holding?, holding.payload.type ≠ type)
    {outcome : Except Halt (Except ConversionError type.Value)}
    (hrun : (cell.coerceGlobally type).run machine = (outcome, after)) :
    (cell.extract type).run machine =
      (outcome.map fun result => result.map (⟨·, false⟩), after) := by
  have hvalue := valueOf?_run haccounts hholds hsub type
  have hnone : (holding?.bind fun holding => holding.payload.as? type) = none := by
    rw [Option.bind_eq_none_iff]
    intro holding hheld
    exact dif_neg (htype holding hheld)
  rw [hnone] at hvalue
  exact extract_of_none hvalue hrun

/-- After an access the identity of the requested type is known, whatever it ended with. -/
theorem exists_identity?_of_extract (hcoherent : machine.Coherent)
    (haccounts : machine.Accounts holdings) (hholds : cell.Holds machine holding?)
    (hsub : ∀ holding ∈ holding?, holding ∈ holdings) (type : ValueType) :
    ∃ identity, ((cell.extract type).run machine).2.identity? type = some identity := by
  by_cases htype : ∃ holding ∈ holding?, holding.payload.type = type
  · obtain ⟨holding, rfl, rfl⟩ := htype
    rw [extract_of_held haccounts hholds (hsub holding rfl)]
    exact ⟨_, hholds.identity?_eq hcoherent⟩
  · have hidentity := exists_identity?_of_coerceGlobally hcoherent haccounts hholds hsub type
    have hunheld : ∀ holding ∈ holding?, holding.payload.type ≠ type := fun holding hmem heq =>
      htype ⟨holding, hmem, heq⟩
    rcases hrun : (cell.coerceGlobally type).run machine with ⟨outcome, after⟩
    rw [extract_of_not_held haccounts hholds hsub hunheld hrun]
    rwa [hrun] at hidentity

section Endings

variable {outcome : Except Halt (Except ConversionError (Access type))}
  (hrun : (cell.extract type).run machine = (outcome, after))
include hrun

/-- An access that may fail quietly drops the cause. -/
theorem tryGet_of_extract : (cell.tryGet type).run machine = (outcome.map Except.toOption, after) :=
  Action.run_bind_pure _ hrun

/-- An access that fails names both types. The requested one has its identity by then. -/
theorem get_of_extract {dest : TypeIdentity} (hdest : after.identity? type = some dest) :
    (cell.get type).run machine =
      (outcome.map fun result => result.mapError (⟨cell.identity, dest, ·⟩), after) := by
  unfold get
  cases outcome with
  | error halt => exact Action.run_bind_error _ hrun
  | ok result =>
      rw [Action.run_bind_ok _ hrun]
      cases result with
      | ok access => rfl
      | error cause =>
          have hidentify : (liftM (Machine.identify type) : Action Machine TypeIdentity).run
              after = (.ok dest, after) := by
            rw [Action.run_lift, Machine.identify_of_some hdest]
          exact Action.run_bind_ok _ hidentify

end Endings

end Cell

end DynamicValue
