/-
# Sessions with their types exchanged

Two sessions mirror each other if their programs do, if their variables have the same values up to
the exchange of the two types of probes, and if their registries correspond. The parts of which
steps are made end together in such sessions: what is looked up is there on both sides or missing on
both, the programs do corresponding things, and what a step holds itself ends in the same way.

The parts in this module leave the variables as they are. Steps that change variables are followed
through the typed store.
-/

import DynamicValue.Proofs.Exchange.Command
import DynamicValue.Proofs.Session.Refinement

namespace DynamicValue

open DynamicValue.Action (EndTogether)

/-- Two sessions in the middle of a step, the second one with the types exchanged. Their variables
hold what the directories say, and the steps themselves hold what is pending. -/
structure Session.Mirrors (first second : Session) (holdings holdings' : Directory (Option Holding))
    (pending pending' : List Holding) : Prop where
  owns : first.Owns holdings pending
  otherOwns : second.Owns holdings' pending'
  contents : Session.contentsOf holdings' =
    (Session.contentsOf holdings).map (Option.map Payload.exchanged)
  machines : first.machine.Exchanged second.machine
  registries : ∀ name, Option.Rel (Registry.Exchanged first.machine second.machine)
    (first.registries.get? name) (second.registries.get? name)
  isFresh : second.isFresh = first.isFresh

/-- Two sessions that mirror each other, and whose programs know at least what those of two earlier
sessions knew. -/
structure Session.Onward (first second : Session) (holdings holdings' : Directory (Option Holding))
    (pending pending' : List Holding) (after after' : Session) : Prop where
  mirrors : after.Mirrors after' holdings holdings' pending pending'
  first : first.machine.Extends after.machine
  second : second.machine.Extends after'.machine

namespace Session

variable {α β γ δ : Type} {first second after after' final final' : Session}
  {holdings holdings' : Directory (Option Holding)}
  {pending pending' held held' : List Holding}

namespace Onward

theorem refl (hmirrors : first.Mirrors second holdings holdings' pending pending') :
    first.Onward second holdings holdings' pending pending' first second :=
  ⟨hmirrors, .refl _, .refl _⟩

theorem trans (hafter : first.Onward second holdings holdings' pending pending' after after')
    (hfinal : after.Onward after' holdings holdings' held held' final final') :
    first.Onward second holdings holdings' held held' final final' :=
  ⟨hfinal.mirrors, hafter.first.trans hfinal.first, hafter.second.trans hfinal.second⟩

end Onward

namespace Mirrors

variable (hmirrors : first.Mirrors second holdings holdings' pending pending')
include hmirrors

/-- The programs of the sessions. -/
theorem programs : first.machine.Mirrors second.machine
    (pending ++ holdings.values.reduceOption) (pending' ++ holdings'.values.reduceOption) where
  toExchanged := hmirrors.machines
  coherent := hmirrors.owns.coherent
  otherCoherent := hmirrors.otherOwns.coherent
  accounts := hmirrors.owns.accounts
  otherAccounts := hmirrors.otherOwns.accounts

/-- Programs that go on leave the variables and the registries as they are. -/
theorem withMachine {machine other : Machine}
    (hafter : first.machine.Onward second.machine (held ++ holdings.values.reduceOption)
      (held' ++ holdings'.values.reduceOption) machine other) :
    first.Onward second holdings holdings' held held' { first with machine := machine }
      { second with machine := other } where
  mirrors := {
    owns := hmirrors.owns.onMachine hafter.mirrors.coherent hafter.first hafter.mirrors.accounts
    otherOwns := hmirrors.otherOwns.onMachine hafter.mirrors.otherCoherent hafter.second
      hafter.mirrors.otherAccounts
    contents := hmirrors.contents
    machines := hafter.mirrors.toExchanged
    registries := fun name => by
      have hregistries := hmirrors.registries name
      change Option.Rel _ (first.registries.get? name) (second.registries.get? name)
      generalize first.registries.get? name = registry? at hregistries ⊢
      generalize second.registries.get? name = registry'? at hregistries ⊢
      cases hregistries with
      | none => exact .none
      | some hregistries =>
          exact .some (hregistries.mono hafter.first hafter.mirrors.coherent hafter.second
            hafter.mirrors.otherCoherent)
    isFresh := hmirrors.isFresh }
  first := hafter.first
  second := hafter.second

/-- A variable is there on both sides, with values that are counterparts, or on neither. -/
theorem exists_counterpart {name : String} {cell : Cell}
    (hget : first.cells.get? name = some cell) :
    ∃ cell' holding? holding'?, second.cells.get? name = some cell' ∧
      cell.Mirrors first.machine second.machine (pending ++ holdings.values.reduceOption)
        (pending' ++ holdings'.values.reduceOption) cell' holding? holding'? := by
  obtain ⟨holding?, hheld, hholds⟩ := hmirrors.owns.exists_holding hget
  have hcontents := congrArg (Directory.get? · name) hmirrors.contents
  simp only [Directory.get?_map, contentsOf_get?, hheld, Option.map_some] at hcontents
  obtain ⟨holding'?, hheld', hpayloads⟩ := Option.map_eq_some_iff.mp hcontents
  obtain ⟨cell', hget', hholds'⟩ := hmirrors.otherOwns.exists_cell hheld'
  exact ⟨cell', holding?, holding'?, hget', hholds, hholds', Owns.mem_accounts hheld,
    Owns.mem_accounts hheld', hpayloads⟩

theorem missing_eq {name : String} (hget : first.cells.get? name = none) :
    second.cells.get? name = none := by
  have hcontents := congrArg (Directory.get? · name) hmirrors.contents
  simp only [Directory.get?_map, contentsOf_get?, hmirrors.owns.get?_eq_none_iff.mpr hget,
    Option.map_none] at hcontents
  exact hmirrors.otherOwns.get?_eq_none_iff.mp (Option.map_eq_none_iff.mp hcontents)

end Mirrors

/-! ## Parts of steps -/

section Together

variable {succeeds : γ → δ → Session → Session → Prop} {fails : Session → Session → Prop}

/-- A part of a command is read on both sides, with the types in it exchanged, or on neither. -/
theorem reading_together {change : α → β} (reading : Reading α) {next : α → SessionAction γ}
    {next' : β → SessionAction δ} (hfails : fails first second)
    (hnext : ∀ value, EndTogether first second (next value) (next' (change value)) succeeds fails) :
    EndTogether first second (read reading >>= next) (read (reading.map change) >>= next') succeeds
      fails := by
  cases reading with
  | error complaint => exact .error rfl rfl hfails
  | ok value => exact hnext value

/-- What the programs do is what the steps do. -/
theorem onMachine_together {action : Action Machine γ} {other : Action Machine δ}
    {gives : γ → δ → Machine → Machine → Prop} {leaves : Machine → Machine → Prop}
    (hparts : EndTogether first.machine second.machine action other gives leaves)
    (hsucceeds : ∀ value value' machine machine', gives value value' machine machine' →
      succeeds value value' { first with machine := machine } { second with machine := machine' })
    (hfails : ∀ machine machine', leaves machine machine' →
      fails { first with machine := machine } { second with machine := machine' }) :
    EndTogether first second (onMachine action) (onMachine other) succeeds fails := by
  cases hparts with
  | error haction hother hleaves =>
      exact .error (run_onMachine haction) (run_onMachine hother) (hfails _ _ hleaves)
  | ok haction hother hgives =>
      exact .ok (run_onMachine_ok haction) (run_onMachine_ok hother) (hsucceeds _ _ _ _ hgives)

end Together

/-- Two parts of steps that end together, leave the variables as they are, and leave the steps with
what is pending. -/
def Mirror (first second : Session) (holdings holdings' : Directory (Option Holding))
    (pending pending' : List Holding) (action : SessionAction α) (other : SessionAction β)
    (values : Session → Session → α → β → Prop) : Prop :=
  EndTogether first second action other
    (fun value value' after after' => values after after' value value' ∧
      first.Onward second holdings holdings' pending pending' after after')
    fun after after' => first.Onward second holdings holdings' pending pending' after after'

namespace Mirror

variable {action : SessionAction α} {other : SessionAction β}
  {values : Session → Session → α → β → Prop} {next : α → SessionAction γ}
  {next' : β → SessionAction δ} {finally' : Session → Session → γ → δ → Prop}

/-- What two steps do from where earlier parts have led them. -/
theorem onward (hparts : Mirror after after' holdings holdings' held held' action other values)
    (hafter : first.Onward second holdings holdings' pending pending' after after') :
    EndTogether after after' action other
      (fun value value' final final' => values final final' value value' ∧
        first.Onward second holdings holdings' held held' final final')
      fun final final' => first.Onward second holdings holdings' held held' final final' :=
  hparts.imp (fun _ _ _ _ hends => ⟨hends.1, hafter.trans hends.2⟩)
    fun _ _ hfails => hafter.trans hfails

/-- What follows two parts may leave the steps with something else in their hands. -/
theorem followed {succeeds : γ → δ → Session → Session → Prop} {fails : Session → Session → Prop}
    (hparts : Mirror first second holdings holdings' pending pending' action other values)
    (hfails : ∀ after after',
      first.Onward second holdings holdings' pending pending' after after' → fails after after')
    (hnext : ∀ value value' after after',
      first.Onward second holdings holdings' pending pending' after after' →
      values after after' value value' →
      EndTogether after after' (next value) (next' value') succeeds fails) :
    EndTogether first second (action >>= next) (other >>= next') succeeds fails :=
  EndTogether.bind (hparts.imp (fun _ _ _ _ hends => hends) hfails)
    fun value value' after after' hends => hnext value value' after after' hends.2 hends.1

theorem bind (hparts : Mirror first second holdings holdings' pending pending' action other values)
    (hnext : ∀ value value' after after',
      first.Onward second holdings holdings' pending pending' after after' →
      values after after' value value' →
      Mirror after after' holdings holdings' pending pending' (next value) (next' value')
        finally') :
    Mirror first second holdings holdings' pending pending' (action >>= next) (other >>= next')
      finally' :=
  hparts.followed (fun _ _ hafter => hafter) fun value value' after after' hafter hvalues =>
    (hnext value value' after after' hafter hvalues).onward hafter

/-- Parts that are known to succeed, and may hand something over to the step. -/
theorem bind_of_ok {value : α} {value' : β} (haction : action.run first = (.ok value, after))
    (hother : other.run second = (.ok value', after'))
    (hafter : first.Onward second holdings holdings' held held' after after')
    (hnext : Mirror after after' holdings holdings' pending pending' (next value) (next' value')
      finally') :
    Mirror first second holdings holdings' pending pending' (action >>= next) (other >>= next')
      finally' :=
  EndTogether.bind_of_ok haction hother (hnext.onward hafter)

section Parts

variable (hmirrors : first.Mirrors second holdings holdings' pending pending')
include hmirrors

theorem pure {value : α} {value' : β} (hvalues : values first second value value') :
    Mirror first second holdings holdings' pending pending' (Pure.pure value) (Pure.pure value')
      values :=
  EndTogether.pure ⟨hvalues, .refl hmirrors⟩

theorem throw (failure : Failure) :
    Mirror first second holdings holdings' pending pending' (throw failure : SessionAction α)
      (throw failure : SessionAction β) values :=
  EndTogether.throw failure (.refl hmirrors)

omit hmirrors in
/-- The answers that follow from what two parts give. -/
theorem answer {value : α → γ} {value' : β → δ} {relation : γ → δ → Prop}
    (hparts : Mirror first second holdings holdings' pending pending' action other values)
    (himp : ∀ given given' after after', values after after' given given' →
      relation (value given) (value' given')) :
    Mirror first second holdings holdings' pending pending'
      (action >>= fun given => Pure.pure (value given))
      (other >>= fun given => Pure.pure (value' given)) fun _ _ => relation :=
  hparts.bind fun given given' _ _ hafter hvalues =>
    pure hafter.mirrors (himp given given' _ _ hvalues)

theorem reading {change : α → β} (reading : Reading α)
    (hnext : ∀ value, Mirror first second holdings holdings' pending pending' (next value)
      (next' (change value)) finally') :
    Mirror first second holdings holdings' pending pending' (read reading >>= next)
      (read (reading.map change) >>= next') finally' :=
  reading_together reading (.refl hmirrors) hnext

/-- Something that is looked up is there on both sides or missing on both. -/
theorem orComplain (complaint : Complaint) {relation : α → β → Prop} {found? : Option α}
    {other? : Option β} (hfound : Option.Rel relation found? other?) :
    Mirror first second holdings holdings' pending pending' (orComplain complaint found?)
      (Session.orComplain complaint other?) fun _ _ => relation := by
  cases hfound with
  | some hvalues => exact pure hmirrors hvalues
  | none => exact throw hmirrors _

omit hmirrors in
theorem looking {next : Session → SessionAction γ} {next' : Session → SessionAction δ}
    (hnext : Mirror first second holdings holdings' pending pending' (next first) (next' second)
      finally') :
    Mirror first second holdings holdings' pending pending' (get >>= next) (get >>= next')
      finally' :=
  EndTogether.bind_of_ok (Action.run_get _) (Action.run_get _) hnext

omit hmirrors in
/-- What the programs do is what the steps do, and what they leave in the hands of the steps. -/
theorem onPrograms (hbefore : first.Mirrors second holdings holdings' held held')
    {action : Action Machine α} {other : Action Machine β}
    {values : Machine → Machine → α → β → Prop}
    (hparts : EndTogether first.machine second.machine action other
      (fun value value' after after' => values after after' value value' ∧
        first.machine.Onward second.machine (pending ++ holdings.values.reduceOption)
          (pending' ++ holdings'.values.reduceOption) after after')
      fun after after' => first.machine.Onward second.machine
        (pending ++ holdings.values.reduceOption) (pending' ++ holdings'.values.reduceOption) after
          after') :
    Mirror first second holdings holdings' pending pending' (onMachine action)
      (Session.onMachine other) fun after after' => values after.machine after'.machine :=
  onMachine_together hparts (fun _ _ _ _ hends => ⟨hends.1, hbefore.withMachine hends.2⟩)
    fun _ _ hafter => hbefore.withMachine hafter

theorem onMachine {action : Action Machine α} {other : Action Machine β} {values : α → β → Prop}
    (hparts : Action.Mirror first.machine second.machine
      (pending ++ holdings.values.reduceOption) (pending' ++ holdings'.values.reduceOption) action
      other values) :
    Mirror first second holdings holdings' pending pending' (onMachine action)
      (Session.onMachine other) fun _ _ => values :=
  onPrograms hmirrors hparts

/-- Parts that only learn may learn different things. -/
theorem learning (values : Machine → Machine → α → β → Prop) {part : StateM Machine α}
    {part' : StateM Machine β} (hpart : Machine.OnlyLearns part)
    (hpart' : Machine.OnlyLearns part')
    (hvalues : values (part first.machine).2 (part' second.machine).2 (part first.machine).1
      (part' second.machine).1) :
    Mirror first second holdings holdings' pending pending' (Session.onMachine part)
      (Session.onMachine part') fun after after' => values after.machine after'.machine := by
  obtain ⟨hlearns, hafter⟩ := hpart first.machine hmirrors.owns.coherent
  obtain ⟨hlearns', hafter'⟩ := hpart' second.machine hmirrors.otherOwns.coherent
  exact onPrograms hmirrors (EndTogether.lift
    ⟨hvalues, hmirrors.programs.learn hlearns hafter hlearns' hafter'⟩)

/-- A variable that is looked up. -/
theorem lookingUp (name : String) {next : Cell → SessionAction γ} {next' : Cell → SessionAction δ}
    (hnext : ∀ cell cell' holding? holding'?,
      cell.Mirrors first.machine second.machine (pending ++ holdings.values.reduceOption)
        (pending' ++ holdings'.values.reduceOption) cell' holding? holding'? →
      Mirror first second holdings holdings' pending pending' (next cell) (next' cell') finally') :
    Mirror first second holdings holdings' pending pending' (valueOf name >>= next)
      (valueOf name >>= next') finally' := by
  cases hget : first.cells.get? name with
  | none =>
      exact .error (Action.run_bind_error _ (run_valueOf_none hget))
        (Action.run_bind_error _ (run_valueOf_none (hmirrors.missing_eq hget))) (.refl hmirrors)
  | some cell =>
      obtain ⟨cell', holding?, holding'?, hget', hcells⟩ := hmirrors.exists_counterpart hget
      exact EndTogether.bind_of_ok (run_valueOf_some hget) (run_valueOf_some hget')
        (hnext cell cell' holding? holding'? hcells)

/-! ### Identities -/

theorem identityOf (type? : Reading (Option ValueType)) :
    Mirror first second holdings holdings' pending pending' (identityOf type?)
      (Session.identityOf (type?.map (Option.map ValueType.exchanged)))
      fun after after' => TypeIdentity.Counterparts after.machine after'.machine := by
  refine reading hmirrors type? fun type? => ?_
  cases type? with
  | none =>
      exact .ok (run_onMachine_lift rfl) (run_onMachine_lift rfl) ⟨.null, .refl hmirrors⟩
  | some type =>
      obtain ⟨hafter, hidentities⟩ := hmirrors.programs.identify type
      exact onPrograms hmirrors (EndTogether.lift ⟨hidentities, hafter⟩)

/-! ### Registries -/

theorem requireRegistry (name : RegistryName) :
    Mirror first second holdings holdings' pending pending' (requireRegistry name)
      (Session.requireRegistry name) fun _ _ _ _ => True := by
  cases name with
  | global => exact pure hmirrors trivial
  | named name =>
      refine looking ?_
      exact (orComplain hmirrors _ (hmirrors.registries name)).answer fun _ _ _ _ _ => trivial

theorem registry (name : RegistryName) :
    Mirror first second holdings holdings' pending pending' (registry name)
      (Session.registry name) fun after after' registry registry' =>
        registry.Exchanged after.machine after'.machine registry' := by
  cases name with
  | global => exact onPrograms hmirrors hmirrors.programs.globalRegistry
  | named name =>
      refine looking ?_
      have hfound := hmirrors.registries name
      generalize first.registries.get? name = registry? at hfound ⊢
      generalize second.registries.get? name = registry'? at hfound ⊢
      cases hfound with
      | some hregistries => exact pure hmirrors hregistries
      | none => exact throw hmirrors _

theorem setRegistry (name : RegistryName) {registry registry' : Registry}
    (hregistries : registry.Exchanged first.machine second.machine registry') :
    Mirror first second holdings holdings' pending pending' (setRegistry name registry)
      (Session.setRegistry name registry') fun _ _ _ _ => True := by
  cases name with
  | global =>
      exact onMachine hmirrors
        (EndTogether.lift ⟨trivial, hmirrors.programs.setGlobal hregistries⟩)
  | named name =>
      refine .ok (Action.run_modify _ _) (Action.run_modify _ _) ⟨trivial, ?_, .refl _, .refl _⟩
      refine { hmirrors with
        owns := ⟨hmirrors.owns.coherent, hmirrors.owns.agree, hmirrors.owns.accounts⟩
        otherOwns := ⟨hmirrors.otherOwns.coherent, hmirrors.otherOwns.agree,
          hmirrors.otherOwns.accounts⟩
        registries := fun found => ?_ }
      change Option.Rel _ ((first.registries.insert name registry).get? found)
        ((second.registries.insert name registry').get? found)
      rw [Directory.get?_insert, Directory.get?_insert]
      split
      · exact .some hregistries
      · exact hmirrors.registries found

theorem requireChangeable (name : RegistryName) :
    Mirror first second holdings holdings' pending pending' (requireChangeable name)
      (Session.requireChangeable name) fun _ _ _ _ => True := by
  refine looking ?_
  rw [hmirrors.isFresh]
  split
  · exact throw hmirrors _
  · exact pure hmirrors trivial

/-! ### Payloads in the hands of a step -/

/-- The payloads that two steps make are in their hands. -/
theorem creating (payload : Payload) {next : Instance → SessionAction γ}
    {next' : Instance → SessionAction δ}
    (hnext : ∀ contents contents' after after', contents.payload = payload →
      contents'.payload = payload.exchanged →
      first.Onward second holdings holdings' (.loose contents :: pending)
        (.loose contents' :: pending') after after' →
      Mirror after after' holdings holdings' held held' (next contents) (next' contents')
        finally') :
    Mirror first second holdings holdings' held held'
      (Session.onMachine (Machine.create payload) >>= next)
      (Session.onMachine (Machine.create payload.exchanged) >>= next') finally' := by
  have hcreated := hmirrors.programs.create payload []
  have hmade : first.Onward second holdings holdings'
      (.loose ⟨first.machine.created, payload⟩ :: pending)
      (.loose ⟨second.machine.created, payload.exchanged⟩ :: pending') _ _ :=
    hmirrors.withMachine hcreated
  exact bind_of_ok (run_onMachine_lift (Machine.create_apply payload first.machine))
    (run_onMachine_lift (Machine.create_apply payload.exchanged second.machine)) hmade
    (hnext _ _ _ _ rfl rfl hmade)

end Parts

section Holding

variable {contents contents' : Instance}

/-- A payload that the steps give up ends in the same way on both sides. -/
theorem destroying (hpayloads : contents'.payload = contents.payload.exchanged)
    (hmirrors : first.Mirrors second holdings holdings' (.loose contents :: pending)
      (.loose contents' :: pending')) :
    Mirror first second holdings holdings' pending pending'
      (Session.onMachine (Machine.destroy contents))
      (Session.onMachine (Machine.destroy contents')) fun _ _ _ _ => True :=
  onPrograms hmirrors (Machine.destroy_mirror hpayloads hmirrors.programs)

/-- Parts that are carried out while the steps hold payloads, which end if the parts fail. -/
theorem holdingInstance (hpayloads : contents'.payload = contents.payload.exchanged)
    {action : SessionAction α} {other : SessionAction β}
    {succeeds : α → β → Session → Session → Prop}
    (hparts : EndTogether first second action other succeeds fun after after' =>
      first.Onward second holdings holdings' (.loose contents :: pending)
        (.loose contents' :: pending') after after') :
    EndTogether first second (Session.holdingInstance contents action)
      (Session.holdingInstance contents' other) succeeds fun after after' =>
      first.Onward second holdings holdings' pending pending' after after' := by
  cases hparts with
  | ok haction hother hsucceeds =>
      exact .ok (run_holding_ok _ _ haction) (run_holding_ok _ _ hother) hsucceeds
  | @error failure after after' haction hother hafter =>
      cases failure with
      | halted halt =>
          refine .error (run_holding_halted _ _ haction) (run_holding_halted _ _ hother) ?_
          rw [run_programAction (Action.run_lift _ _), run_programAction (Action.run_lift _ _)]
          exact hafter.trans (hafter.mirrors.withMachine
            (Machine.discard_mirror hpayloads hafter.mirrors.programs))
      | complaint complaint =>
          have hends : Mirror after after' holdings holdings' pending pending'
              (do Session.onMachine (Machine.destroy contents); complain complaint :
                SessionAction α)
              (do Session.onMachine (Machine.destroy contents'); complain complaint :
                SessionAction β) fun _ _ _ _ => False :=
            (destroying hpayloads hafter.mirrors).bind fun _ _ _ _ hgone _ =>
              throw hgone.mirrors _
          have hheld := run_holding_complaint (Machine.destroy contents)
            (Machine.discard contents) haction
          have hheld' := run_holding_complaint (Machine.destroy contents')
            (Machine.discard contents') hother
          cases hends with
          | ok _ _ hends => exact hends.1.elim
          | error haction hother hgone =>
              exact .error (hheld.trans haction) (hheld'.trans hother) (hafter.trans hgone)

end Holding

end Mirror

end Session

end DynamicValue
