/-
# Conversions settle their accounts

A conversion may make values on the way, ask the registry for further conversions and halt at any
point. When it is over, whatever it made has been destroyed again: the holdings that accounted for
the program before still do, and the program knows at least what it knew. This is shown for plans by
induction on the plan, and for the registry by induction on how deep conversions may be nested.
-/

import DynamicValue.Cell.Access
import DynamicValue.Proofs.Cell.Lifetime

namespace DynamicValue

/-- A program comes from another one without a change of what is held: the same holdings account for
it, and it knows at least as much. -/
structure Machine.Settled (before after : Machine) (holdings : List Holding) : Prop where
  coherent : after.Coherent
  knows : before.Extends after
  accounts : after.Accounts holdings

namespace Machine.Settled

variable {first second third machine : Machine} {holdings others : List Holding}

theorem refl (hcoherent : machine.Coherent) (haccounts : machine.Accounts holdings) :
    machine.Settled machine holdings :=
  ⟨hcoherent, .refl machine, haccounts⟩

theorem trans (hfirst : first.Settled second holdings) (hsecond : second.Settled third others) :
    first.Settled third others :=
  ⟨hsecond.coherent, hfirst.knows.trans hsecond.knows, hsecond.accounts⟩

theorem learn (hcoherent : second.Coherent) (hlearns : first.Learns second)
    (haccounts : first.Accounts holdings) : first.Settled second holdings :=
  ⟨hcoherent, hlearns.toExtends, hlearns.accounts haccounts⟩

theorem advance (hcoherent : machine.Coherent) {heap : List (Option Instance)} {created : Nat}
    {destroyed : List Nat} {events : List Event}
    (haccounts : (machine.advance heap created destroyed events).Accounts holdings) :
    machine.Settled (machine.advance heap created destroyed events) holdings :=
  ⟨hcoherent.advance _ _ _ _, .advance _ _ _ _ _, haccounts⟩

end Machine.Settled

/-- An action that leaves the program with the given holdings, whether it halts or not. -/
def Action.Settles {α : Type} (machine : Machine) (holdings : List Holding)
    (action : Action Machine α) : Prop :=
  machine.Settled (action.run machine).2 holdings

namespace Action.Settles

variable {α β : Type} {machine : Machine} {holdings others : List Holding}

theorem of_run {action : Action Machine α} {outcome : Except Halt α} {after : Machine}
    (hrun : action.run machine = (outcome, after)) (hsettled : machine.Settled after holdings) :
    action.Settles machine holdings := by
  unfold Settles
  rwa [hrun]

theorem pure (hcoherent : machine.Coherent) (haccounts : machine.Accounts holdings) (value : α) :
    Settles machine holdings (Pure.pure value) :=
  .refl hcoherent haccounts

/-- A part that settles is followed by parts that settle from where it ends. -/
theorem bind {action : Action Machine α} {next : α → Action Machine β}
    (hfirst : action.Settles machine holdings)
    (hnext : ∀ value after, action.run machine = (.ok value, after) →
      machine.Settled after holdings → (next value).Settles after holdings) :
    (action >>= next).Settles machine holdings := by
  unfold Settles at hfirst ⊢
  rcases hrun : action.run machine with ⟨outcome, after⟩
  rw [hrun] at hfirst
  cases outcome with
  | error halt =>
      rw [Action.run_bind_error _ hrun]
      exact hfirst
  | ok value =>
      rw [Action.run_bind_ok _ hrun]
      exact hfirst.trans (hnext value after hrun hfirst)

/-- A part that hands something over to the rest, which settles. -/
theorem bind_of_ok {action : Action Machine α} {next : α → Action Machine β} {value : α}
    {after : Machine} (hrun : action.run machine = (.ok value, after))
    (hextends : machine.Extends after) (hnext : (next value).Settles after holdings) :
    (action >>= next).Settles machine holdings := by
  unfold Settles at hnext ⊢
  rw [Action.run_bind_ok _ hrun]
  exact ⟨hnext.coherent, hextends.trans hnext.knows, hnext.accounts⟩

theorem bind_of_error {action : Action Machine α} (next : α → Action Machine β) {halt : Halt}
    {after : Machine} (hrun : action.run machine = (.error halt, after))
    (hsettled : machine.Settled after holdings) : (action >>= next).Settles machine holdings :=
  .of_run (Action.run_bind_error next hrun) hsettled

end Action.Settles

/-! ## Parts that only learn types -/

/-- A part of an action that only learns types. -/
def Machine.OnlyLearns {α : Type} (part : StateM Machine α) : Prop :=
  ∀ machine : Machine, machine.Coherent →
    machine.Learns (part machine).2 ∧ (part machine).2.Coherent

namespace Machine.OnlyLearns

variable {α β : Type}

theorem pure (value : α) : OnlyLearns (Pure.pure value) :=
  fun machine hcoherent => ⟨.refl machine, hcoherent⟩

theorem bind {part : StateM Machine α} {next : α → StateM Machine β} (hpart : OnlyLearns part)
    (hnext : ∀ value, OnlyLearns (next value)) : OnlyLearns (part >>= next) := by
  intro machine hcoherent
  obtain ⟨hlearns, hafter⟩ := hpart machine hcoherent
  obtain ⟨hlearns', hafter'⟩ := hnext (part machine).1 (part machine).2 hafter
  exact ⟨hlearns.trans hlearns', hafter'⟩

theorem identify (type : ValueType) : OnlyLearns (identify type) :=
  fun machine hcoherent => ⟨identify_learns type machine, identify_coherent hcoherent type⟩

theorem tableFor (type : ValueType) : OnlyLearns (tableFor type) :=
  fun machine hcoherent => ⟨tableFor_learns type machine, tableFor_coherent hcoherent type⟩

theorem writeLog (line : LogLine) : OnlyLearns (writeLog line) :=
  fun _ hcoherent => ⟨⟨⟨List.prefix_rfl, List.prefix_rfl⟩, rfl, rfl, rfl, rfl, rfl⟩,
    hcoherent.congr rfl rfl⟩

theorem foldlM {step : β → α → StateM Machine β}
    (hstep : ∀ result item, OnlyLearns (step result item))
    (items : List α) (result : β) : OnlyLearns (items.foldlM step result) := by
  induction items generalizing result with
  | nil => exact pure result
  | cons item rest ih => exact (hstep result item).bind fun next => ih next

theorem register (registry : Registry) (source dest : ValueType)
    (conversion : Conversion source dest) :
    OnlyLearns (registry.register source dest conversion) := by
  refine (identify source).bind fun sourceIdentity => (identify dest).bind fun destIdentity => ?_
  split
  · exact (writeLog _).bind fun _ => pure _
  · exact pure _

theorem unregister (registry : Registry) (source dest : ValueType) :
    OnlyLearns (registry.unregister source dest) :=
  (identify source).bind fun _ => (identify dest).bind fun _ => pure _

theorem withBuiltIns : OnlyLearns Registry.withBuiltIns :=
  (foldlM (fun registry _ => register registry _ _ _) _ _).bind fun registry =>
    (writeLog _).bind fun _ => pure registry

/-- What only learns types settles. -/
theorem settles {part : StateM Machine α} (hpart : OnlyLearns part) {machine : Machine}
    {holdings : List Holding} (hcoherent : machine.Coherent)
    (haccounts : machine.Accounts holdings) :
    Action.Settles machine holdings (liftM part : Action Machine α) := by
  obtain ⟨hlearns, hafter⟩ := hpart machine hcoherent
  exact .of_run (Action.run_lift part machine) (.learn hafter hlearns haccounts)

end Machine.OnlyLearns

/-! ## Values in scope -/

section Scope

variable {α : Type} {machine : Machine} {holdings : List Holding} {holding : Holding} {cell : Cell}
  {contents : Instance}

/-- A value in scope is gone at the end of the action, whether the action halts or not. -/
theorem Cell.inScope_settles {action : Action Machine α}
    (hholds : cell.Holds machine (some holding))
    (haction : action.Settles machine (holding :: holdings)) :
    (cell.inScope action).Settles machine holdings := by
  unfold Action.Settles at haction ⊢
  rcases hrun : action.run machine with ⟨outcome, after⟩
  rw [hrun] at haction
  have hafter := hholds.mono haction.knows
  unfold Cell.inScope
  cases outcome with
  | error halt =>
      obtain ⟨heap, hdiscard, haccounts⟩ := Cell.discard_run haction.accounts hafter
      rw [Action.run_bind_error _ (Action.run_unwinding_error _ hrun), hdiscard]
      exact haction.trans (.advance haction.coherent haccounts)
  | ok value =>
      obtain ⟨heap, hdestroy, haccounts⟩ := Cell.destroy_run haction.accounts hafter
      rw [Action.run_bind_ok _ (Action.run_unwinding_ok _ hrun), Action.run_bind_pure _ hdestroy]
      exact haction.trans (.advance haction.coherent haccounts)

end Scope

/-! ## Plans -/

/-- A way to meet the requests of plans that settles whenever the value that it is asked to convert
is accounted for. -/
def Converter.Settles (converter : Converter) : Prop :=
  ∀ (machine : Machine) (holdings : List Holding) (cell : Cell) (holding? : Option Holding)
    (dest : ValueType), machine.Coherent → machine.Accounts holdings →
    cell.Holds machine holding? → (∀ holding ∈ holding?, holding ∈ holdings) →
    (converter cell dest).Settles machine holdings

section Plans

variable {α : Type} {converter : Converter} {machine : Machine} {holdings : List Holding}

/-- A value that a plan makes, the conversion of that value, and what the plan does with the
result. -/
theorem converting_settles (hconverter : Converter.Settles converter) {making : StateM Machine Cell}
    {cell : Cell} {holding : Holding} {made : Machine} {dest : ValueType}
    {next : Except ConversionError dest.Value → Action Machine α}
    (hmade : making machine = (cell, made)) (hsettled : machine.Settled made (holding :: holdings))
    (hholds : cell.Holds made (some holding))
    (hnext : ∀ result after, after.Coherent → after.Accounts (holding :: holdings) →
      (next result).Settles after (holding :: holdings)) :
    Action.Settles machine holdings
      ((liftM making : Action Machine Cell) >>= fun cell => cell.inScope do
        next (← converter cell dest)) := by
  have hrun : (liftM making : Action Machine Cell).run machine = (.ok cell, made) := by
    rw [Action.run_lift, hmade]
  refine .bind_of_ok hrun hsettled.knows (Cell.inScope_settles hholds ?_)
  refine Action.Settles.bind ?_ fun result after _ hafter =>
    hnext result after hafter.coherent hafter.accounts
  exact hconverter made _ cell (some holding) dest hsettled.coherent hsettled.accounts hholds
    fun held hheld => by cases hheld; exact List.mem_cons_self

/-- Carrying out a plan settles, if its requests are met in a way that does. -/
theorem Plan.run_settles (hconverter : Converter.Settles converter) (input : Instance)
    (plan : Plan α) (hcoherent : machine.Coherent) (haccounts : machine.Accounts holdings) :
    (plan.run converter input).Settles machine holdings := by
  induction plan generalizing machine holdings with
  | give value => exact .pure hcoherent haccounts _
  | fail error => exact .pure hcoherent haccounts _
  | identify type next ih =>
      refine Action.Settles.bind ((Machine.OnlyLearns.identify type).settles hcoherent haccounts) ?_
      exact fun identity after _ hafter => ih identity hafter.coherent hafter.accounts
  | report event next ih =>
      have hrun : (liftM (Machine.report event) : Action Machine Unit).run machine =
          (.ok (), machine.advance machine.heap 0 [] [event]) := by
        rw [Action.run_lift, Machine.report_apply]
      exact .bind_of_ok hrun (.advance _ _ _ _ _)
        (ih (hcoherent.advance _ _ _ _) (haccounts.report [event]))
  | convert source dest next ih =>
      obtain ⟨cell, holding, known, heap, hmade, hlearns, hknown, hholds, -, hafter⟩ :=
        Cell.ofPayload_apply hcoherent haccounts source
      refine converting_settles hconverter hmade ⟨hknown.advance _ _ _ _, ?_, hafter⟩ hholds
        fun result after hcoherent haccounts => ih result hcoherent haccounts
      exact ((Machine.Extends.advance _ _ _ _ _).trans hlearns.toExtends).trans (.advance _ _ _ _ _)
  | convertCopy dest next ih =>
      cases hcopied : input.payload.copied with
      | error halt =>
          exact .bind_of_error _ (Machine.clone_run_error hcopied machine)
            (.advance hcoherent (haccounts.report _))
      | ok copied =>
          obtain ⟨cell, holding, known, heap, hmade, hlearns, hknown, hholds, -, hafter⟩ :=
            Cell.ofInstance_apply (hcoherent.advance machine.heap 1 [] input.payload.copyEvents)
              (haccounts.create copied input.payload.copyEvents)
          refine .bind_of_ok (Machine.clone_run_ok hcopied machine) (.advance _ _ _ _ _) ?_
          refine converting_settles hconverter hmade ⟨hknown.advance _ _ _ _, ?_, hafter⟩ hholds
            fun result after hcoherent haccounts => ih result hcoherent haccounts
          exact hlearns.toExtends.trans (.advance _ _ _ _ _)

end Plans

/-! ## Casts -/

/-- What a receiver holds. -/
def Receiver.held (receiver : Receiver) : List Holding :=
  (receiver.content?.map Holding.loose).toList

/-- A cast that leaves the program and its receiver in order: together with what the receiver holds,
the holdings account for the program, and a cast that fails without a halt has not touched the
receiver. -/
structure Casting.Settled {α : Type} (machine : Machine) (receiver : Receiver)
    (holdings : List Holding) (run : Except Halt (Except ConversionError α) × Casting) : Prop where
  machine : machine.Settled run.2.1 (run.2.2.held ++ holdings)
  untouched : ∀ error, run.1 = .ok (.error error) → run.2.2 = receiver

section Casts

variable {converter : Converter} {machine : Machine} {holdings : List Holding} {receiver : Receiver}

theorem Casting.run_onMachine {α : Type} {action : Action Machine α} {outcome : Except Halt α}
    {after : Machine} (hrun : action.run machine = (outcome, after)) (receiver : Receiver) :
    (Casting.onMachine action).run (machine, receiver) = (outcome, after, receiver) := by
  unfold onMachine
  rw [Action.run_within, hrun]

theorem Receiver.destroy_run (receiver : Receiver) (machine : Machine) :
    receiver.destroy.run machine =
      (Payload.droppedOf (receiver.content?.map Instance.payload),
        machine.advance machine.heap 0 (receiver.content?.map Instance.serial).toList
          (Payload.dropEventsOf (receiver.content?.map Instance.payload))) := by
  unfold destroy
  cases receiver.content? with
  | none => exact congrArg (Prod.mk _) (Machine.advance_self machine).symm
  | some contents => exact Machine.destroy_run contents machine

theorem Receiver.discard_run (receiver : Receiver) (machine : Machine) :
    receiver.discard.run machine = (.ok (),
      machine.advance machine.heap 0 (receiver.content?.map Instance.serial).toList
        (Payload.dropEventsOf (receiver.content?.map Instance.payload))) := by
  unfold discard
  cases receiver.content? with
  | none => exact congrArg (Prod.mk _) (Machine.advance_self machine).symm
  | some contents =>
      simp only [Option.map_some]
      rw [Action.run_lift, Machine.discard_apply]
      rfl

/-- What a receiver holds can be destroyed, with any events. -/
theorem Receiver.accounts_released (haccounts : machine.Accounts (receiver.held ++ holdings))
    (events : List Event) :
    (machine.advance machine.heap 0 (receiver.content?.map Instance.serial).toList
      events).Accounts holdings := by
  unfold held at haccounts
  cases hcontent : receiver.content? with
  | none =>
      rw [hcontent] at haccounts
      exact haccounts.report events
  | some contents =>
      rw [hcontent] at haccounts
      exact haccounts.discard events

/-- A result that is received takes the place of what was there, which ends. -/
theorem Casting.receive_run (contents : Instance) (machine : Machine) (receiver : Receiver) :
    (Casting.receive contents).run (machine, receiver) =
      (Payload.droppedOf (receiver.content?.map Instance.payload),
        machine.advance machine.heap 0 (receiver.content?.map Instance.serial).toList
          (Payload.dropEventsOf (receiver.content?.map Instance.payload)),
        { receiver with content? := some contents }) := by
  unfold receive
  rw [Action.run_bind_ok _ (Action.run_get _), Action.run_bind_ok _ (Action.run_modify _ _)]
  exact Casting.run_onMachine (Receiver.destroy_run receiver machine) _

/-- A registered conversion settles, whatever it is called with. -/
theorem RegistryEntry.apply_settles (hconverter : Converter.Settles converter)
    (entry : RegistryEntry) (source : Instance) (hcoherent : machine.Coherent)
    (haccounts : machine.Accounts (receiver.held ++ holdings)) :
    Casting.Settled machine receiver holdings
      ((entry.apply converter source).run (machine, receiver)) := by
  unfold apply
  rw [Action.run_bind_ok _ (Action.run_get _)]
  split
  · exact ⟨.refl hcoherent haccounts, fun _ _ => rfl⟩
  · rename_i value hvalue
    simp only []
    split
    · have hplan := Plan.run_settles hconverter source (entry.conversion value) hcoherent haccounts
      unfold Action.Settles at hplan
      rcases hrun : ((entry.conversion value).run converter source).run machine with
        ⟨outcome, after⟩
      rw [hrun] at hplan
      cases outcome with
      | error halt =>
          rw [Action.run_bind_error _ (Casting.run_onMachine hrun receiver)]
          exact ⟨hplan, fun _ _ => rfl⟩
      | ok result =>
          rw [Action.run_bind_ok _ (Casting.run_onMachine hrun receiver)]
          cases result with
          | error error => exact ⟨hplan, fun _ _ => rfl⟩
          | ok result =>
              have hcreate : (Casting.onMachine (liftM (Machine.create ⟨entry.dest, result⟩) :
                  Action Machine Instance)).run (after, receiver) =
                  (.ok ⟨after.created, ⟨entry.dest, result⟩⟩,
                    after.advance after.heap 1 [] [], receiver) := by
                refine Casting.run_onMachine ?_ receiver
                rw [Action.run_lift, Machine.create_apply]
              have hmade := hplan.accounts.create ⟨entry.dest, result⟩ []
              have hmoved : Machine.Accounts _ (receiver.held ++ (_ :: holdings)) :=
                hmade.perm List.perm_middle.symm
              have hreceived := Receiver.accounts_released hmoved
                (Payload.dropEventsOf (receiver.content?.map Instance.payload))
              have hcoherent := hplan.coherent.advance after.heap 1 [] []
              simp only []
              rw [Action.run_bind_ok _ hcreate, Action.run_bind_pure _ (Casting.receive_run _ _ _)]
              refine ⟨hplan.trans ((Machine.Settled.advance hplan.coherent hmade).trans
                (.advance hcoherent hreceived)), fun error herror => ?_⟩
              cases hdropped : Payload.droppedOf (receiver.content?.map Instance.payload) with
              | error halt => rw [hdropped] at herror; cases herror
              | ok dropped => rw [hdropped] at herror; cases herror
    · exact ⟨.refl hcoherent haccounts, fun _ _ => rfl⟩

/-- A cast settles, whatever it is called with. -/
theorem Registry.castWith_settles (registry : Registry) (hconverter : Converter.Settles converter)
    (source : Instance) (sourceType destType : TypeIdentity) (hcoherent : machine.Coherent)
    (haccounts : machine.Accounts (receiver.held ++ holdings)) :
    Casting.Settled machine receiver holdings
      ((registry.castWith converter source sourceType destType).run (machine, receiver)) := by
  unfold castWith
  split
  · exact ⟨.refl hcoherent haccounts, fun _ _ => rfl⟩
  · split
    · exact ⟨.refl hcoherent haccounts, fun _ _ => rfl⟩
    · split
      · exact ⟨.refl hcoherent haccounts, fun _ _ => rfl⟩
      · rename_i entry hlookup
        exact entry.apply_settles hconverter source hcoherent haccounts

/-- What a coercion does with the payload of its value: it casts the payload into a blank receiver
and hands what it finds there to the caller. -/
def Registry.convertPayload (registry : Registry) (converter : Converter) (source : Instance)
    (sourceType destType : TypeIdentity) (dest : ValueType) :
    Action Machine (Except ConversionError dest.Value) := do
  let (outcome, receiver) ← Action.withLocal (.blank dest) Receiver.discard
    (registry.castWith converter source sourceType destType)
  match outcome, receiver.content? with
  | .error error, _ => return .error error
  | .ok (), none => return .error (.noConversion sourceType destType)
  | .ok (), some contents =>
    Machine.discard contents
    match contents.payload.as? dest with
    | some value => return .ok value
    | none => return .error (.noConversion sourceType destType)

/-- A coercion passes two gates before it turns to the payload of its value. -/
theorem Registry.coerceWithin_succ (registry : Registry) (depth : Nat) (cell : Cell)
    (dest : ValueType) :
    registry.coerceWithin (depth + 1) cell dest = (do
      let destType ← Machine.identify dest
      if destType.isForeign then return .error (.foreignDestination destType)
      match ← cell.contents? with
      | none => return .error .emptySource
      | some source =>
        registry.convertPayload (registry.coerceWithin depth) source cell.identity destType dest) :=
  rfl

/-- What a coercion makes of a payload is handed to the caller, and the rest settles. -/
theorem Registry.convertPayload_settles (registry : Registry)
    (hconverter : Converter.Settles converter) (source : Instance)
    (sourceType destType : TypeIdentity) (dest : ValueType) (hcoherent : machine.Coherent)
    (haccounts : machine.Accounts holdings) :
    (registry.convertPayload converter source sourceType destType dest).Settles machine
      holdings := by
  have hblank : machine.Accounts ((Receiver.blank dest).held ++ holdings) := haccounts
  have hcast := registry.castWith_settles hconverter source sourceType destType hcoherent hblank
  rcases hrun : (registry.castWith converter source sourceType destType).run
    (machine, .blank dest) with ⟨outcome, after, receiver⟩
  rw [hrun] at hcast
  obtain ⟨hafter, huntouched⟩ := hcast
  unfold convertPayload
  cases outcome with
  | error halt =>
      apply Action.Settles.bind_of_error _ (Action.run_withLocal_error _ hrun)
      rw [Receiver.discard_run]
      exact hafter.trans (.advance hafter.coherent (Receiver.accounts_released hafter.accounts _))
  | ok result =>
      apply Action.Settles.bind_of_ok (Action.run_withLocal_ok _ hrun) hafter.knows
      have hreleased := hafter.accounts
      cases result with
      | error error =>
          obtain rfl : receiver = .blank dest := huntouched error rfl
          exact .pure hafter.coherent hreleased _
      | ok _ =>
          obtain ⟨type, content?⟩ := receiver
          cases content? with
          | none => exact .pure hafter.coherent hreleased _
          | some contents =>
              have hdiscard : (liftM (Machine.discard contents) : Action Machine Unit).run after =
                  (.ok (), after.advance after.heap 0 [contents.serial]
                    contents.payload.dropEvents) := by
                rw [Action.run_lift, Machine.discard_apply]
              have hend := Machine.Accounts.discard hreleased contents.payload.dropEvents
              apply Action.Settles.bind_of_ok hdiscard (.advance _ _ _ _ _)
              split
              · exact .pure (hafter.coherent.advance _ _ _ _) hend _
              · exact .pure (hafter.coherent.advance _ _ _ _) hend _

/-- A coercion hands out the identity of its destination first, whatever it ends with, and the rest
settles. -/
theorem Registry.coerceWithin_succ_settles (registry : Registry) {depth : Nat}
    (hconverter : Converter.Settles (registry.coerceWithin depth)) {cell : Cell}
    {holding? : Option Holding} (dest : ValueType) (hcoherent : machine.Coherent)
    (haccounts : machine.Accounts holdings) (hholds : cell.Holds machine holding?)
    (hsub : ∀ holding ∈ holding?, holding ∈ holdings) :
    (Machine.identify dest machine).2.Settled
      ((registry.coerceWithin (depth + 1) cell dest).run machine).2 holdings := by
  have hlearns := Machine.identify_learns dest machine
  have hknown := Machine.identify_coherent hcoherent dest
  have haccounts := hlearns.accounts haccounts
  rw [coerceWithin_succ, Action.run_bind_ok _ (Action.run_lift _ _)]
  split
  · exact .refl hknown haccounts
  · have hcontents := Cell.contents?_run haccounts (hholds.mono hlearns.toExtends) hsub
    apply Action.Settles.bind_of_ok hcontents (.refl _)
    cases holding? with
    | none => exact .pure hknown haccounts _
    | some holding =>
        exact registry.convertPayload_settles hconverter holding.contents cell.identity _ dest
          hknown haccounts

/-- The conversion of a value that is accounted for settles: what the registry and its conversions
make on the way is destroyed again, to whatever depth they ask for each other. -/
theorem Registry.coerceWithin_settles (registry : Registry) (depth : Nat) :
    Converter.Settles (registry.coerceWithin depth) := by
  induction depth with
  | zero =>
      intro machine holdings cell holding? dest hcoherent haccounts hholds hsub
      exact .refl hcoherent haccounts
  | succ depth ih =>
      intro machine holdings cell holding? dest hcoherent haccounts hholds hsub
      have hknown := Machine.Settled.learn (Machine.identify_coherent hcoherent dest)
        (Machine.identify_learns dest machine) haccounts
      exact hknown.trans
        (registry.coerceWithin_succ_settles ih dest hcoherent haccounts hholds hsub)

end Casts

/-! ## Typed access -/

section Access

variable {machine : Machine} {holdings : List Holding} {holding? : Option Holding} {cell : Cell}

/-- The registry that is in use does not matter to what is held. -/
theorem Machine.Settled.withGlobal {after : Machine} (hsettled : machine.Settled after holdings)
    (global? : Option Registry) : machine.Settled { after with global? := global? } holdings where
  coherent := hsettled.coherent.congr rfl rfl
  knows := ⟨hsettled.knows.identities, hsettled.knows.tables⟩
  accounts := ⟨hsettled.accounts.instances, hsettled.accounts.boxes⟩

theorem Machine.globalRegistry_of_some {registry : Registry}
    (hglobal : machine.global? = some registry) : globalRegistry machine = (registry, machine) := by
  unfold globalRegistry
  simp only [Action.bind_apply, show (get : StateM Machine Machine) machine = (machine, machine)
    from rfl, hglobal]
  rfl

theorem Machine.globalRegistry_of_none (hglobal : machine.global? = none) :
    globalRegistry machine = ((Registry.withBuiltIns machine).1,
      { (Registry.withBuiltIns machine).2 with
        global? := some (Registry.withBuiltIns machine).1 }) := by
  unfold globalRegistry
  simp only [Action.bind_apply, show (get : StateM Machine Machine) machine = (machine, machine)
    from rfl, hglobal]
  rfl

/-- The global registry is made of what the program learns about types. -/
theorem Machine.globalRegistry_settled (hcoherent : machine.Coherent)
    (haccounts : machine.Accounts holdings) :
    machine.Settled (globalRegistry machine).2 holdings := by
  cases hglobal : machine.global? with
  | some registry =>
      rw [Machine.globalRegistry_of_some hglobal]
      exact .refl hcoherent haccounts
  | none =>
      obtain ⟨hlearns, hafter⟩ := OnlyLearns.withBuiltIns machine hcoherent
      rw [Machine.globalRegistry_of_none hglobal]
      exact (Machine.Settled.learn hafter hlearns haccounts).withGlobal _

theorem Machine.globalRegistry_settles (hcoherent : machine.Coherent)
    (haccounts : machine.Accounts holdings) :
    Action.Settles machine holdings (liftM globalRegistry : Action Machine Registry) :=
  .of_run (Action.run_lift _ _) (globalRegistry_settled hcoherent haccounts)

variable (hcoherent : machine.Coherent) (haccounts : machine.Accounts holdings)
  (hholds : cell.Holds machine holding?) (hsub : ∀ holding ∈ holding?, holding ∈ holdings)
include hcoherent haccounts hholds hsub

theorem Cell.coerceGlobally_settles (type : ValueType) :
    (cell.coerceGlobally type).Settles machine holdings := by
  refine Action.Settles.bind (Machine.globalRegistry_settles hcoherent haccounts) ?_
  intro registry after _ hafter
  exact registry.coerceWithin_settles registry.nestingLimit after holdings cell holding? type
    hafter.coherent hafter.accounts (hholds.mono hafter.knows) hsub

theorem Cell.extract_settles (type : ValueType) :
    (cell.extract type).Settles machine holdings := by
  refine .bind_of_ok (Cell.valueOf?_run haccounts hholds hsub type) (.refl machine) ?_
  split
  · exact .pure hcoherent haccounts _
  · refine Action.Settles.bind (Cell.coerceGlobally_settles hcoherent haccounts hholds hsub type) ?_
    exact fun result after _ hafter => .pure hafter.coherent hafter.accounts _

theorem Cell.tryGet_settles (type : ValueType) : (cell.tryGet type).Settles machine holdings := by
  refine Action.Settles.bind (Cell.extract_settles hcoherent haccounts hholds hsub type) ?_
  exact fun result after _ hafter => .pure hafter.coherent hafter.accounts _

theorem Cell.get_settles (type : ValueType) : (cell.get type).Settles machine holdings := by
  refine Action.Settles.bind (Cell.extract_settles hcoherent haccounts hholds hsub type) ?_
  intro result after _ hafter
  cases result with
  | ok access => exact .pure hafter.coherent hafter.accounts _
  | error cause =>
      refine Action.Settles.bind
        ((Machine.OnlyLearns.identify type).settles hafter.coherent hafter.accounts) ?_
      exact fun identity final _ hfinal => .pure hfinal.coherent hfinal.accounts _

end Access

end DynamicValue
