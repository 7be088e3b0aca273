/-
# Every step leaves the variables in order

The steps that do not change variables in place may make values of their own on the way: a cast has
its source and its receiver, a call its arguments and its result. When such a step is over, however
it ends, each of these has been destroyed or is stored in a variable. Together with the steps that
work on variables, this shows that whatever a session does, its variables account for its program.
-/

import DynamicValue.Proofs.Likeness.Run
import DynamicValue.Proofs.Session.Ownership

namespace DynamicValue.Session

open DynamicValue.Action (Ends)

variable {β : Type} {session after : Session} {holdings : Directory (Option Holding)}
  {pending : List Holding}

/-! ## Casts -/

section Casts

variable {machine : Machine} {accounted : List Holding}

/-- A cast to a receiver of its own: what the receiver holds afterwards comes on top of what was
accounted for. -/
theorem receiving_ends (hcoherent : machine.Coherent) (haccounts : machine.Accounts accounted)
    (registry : Registry) (input : Instance) (source dest : TypeIdentity) (type : ValueType)
    (value? : Option type.Value) :
    Ends machine
      (do
        let content? ← value?.mapM fun value =>
          (Machine.create ⟨type, value⟩ : Action Machine Instance)
        Action.withLocal ⟨type, content?⟩ Receiver.discard (registry.cast input source dest))
      (fun ended after => machine.Settled after (ended.2.held ++ accounted))
      fun after => machine.Settled after accounted := by
  have hcast : ∀ (content? : Option Instance) (made : Machine), made.Coherent →
      made.Accounts ((Receiver.mk type content?).held ++ accounted) →
      Ends made
        (Action.withLocal ⟨type, content?⟩ Receiver.discard (registry.cast input source dest))
        (fun ended after => made.Settled after (ended.2.held ++ accounted))
        fun after => made.Settled after accounted := by
    intro content? made hcoherent haccounts
    obtain ⟨hafter, -⟩ := registry.castWith_settles
      (registry.coerceWithin_settles registry.nestingLimit) input source dest hcoherent haccounts
    rcases hrun : (registry.cast input source dest).run (made, ⟨type, content?⟩) with
      ⟨outcome, after, receiver⟩
    unfold Registry.cast at hrun
    rw [hrun] at hafter
    cases outcome with
    | error halt =>
        refine .of_error (Action.run_withLocal_error Receiver.discard hrun) ?_
        rw [Receiver.discard_run]
        exact hafter.trans (.advance hafter.coherent
          (Receiver.accounts_released hafter.accounts _))
    | ok result => exact .of_ok (Action.run_withLocal_ok Receiver.discard hrun) hafter
  cases value? with
  | none => exact hcast none machine hcoherent haccounts
  | some value =>
      have hcreate : (do
          let contents ← (liftM (Machine.create ⟨type, value⟩) : Action Machine Instance)
          return some contents : Action Machine (Option Instance)).run machine =
          (.ok (some ⟨machine.created, ⟨type, value⟩⟩),
            machine.advance machine.heap 1 [] []) := by
        rw [Action.run_bind_ok _ (Action.run_lift _ _), Machine.create_apply]
        rfl
      have hmade := haccounts.create ⟨type, value⟩ []
      have hstep : machine.Settled (machine.advance machine.heap 1 [] []) _ :=
        .advance hcoherent hmade
      exact Ends.bind_of_ok hcreate ((hcast (some _) _ hstep.coherent hmade).imp
        (fun _ _ hafter => hstep.trans hafter) fun _ hafter => hstep.trans hafter)

/-- The end of the payloads of a cast: what the receiver holds goes first. -/
theorem releasing_settles (hcoherent : machine.Coherent) (receiver : Receiver) (input : Instance)
    (haccounts : machine.Accounts (receiver.held ++ .loose input :: accounted)) :
    Action.Settles machine accounted (do
      Action.unwinding receiver.destroy (Machine.discard input)
      Machine.destroy input) := by
  have hreceiver : receiver.destroy.Settles machine (.loose input :: accounted) :=
    .of_run (Receiver.destroy_run receiver machine)
      (.advance hcoherent (Receiver.accounts_released haccounts _))
  have hguarded : Ends machine (Action.unwinding receiver.destroy (Machine.discard input))
      (fun _ after => machine.Settled after (.loose input :: accounted))
      fun after => machine.Settled after accounted := by
    refine .unwinding hreceiver.ends fun after hafter => ?_
    exact hafter.trans (discarding_settles hafter.coherent hafter.accounts)
  refine .of_ends (hguarded.bind fun _ after hafter => ?_)
  have hinput : (Machine.destroy input).Settles after accounted :=
    destroying_settles hafter.coherent hafter.accounts
  exact hinput.ends.imp (fun _ _ hend => hafter.trans hend) fun _ hend => hafter.trans hend

/-- The payload that a cast is to convert is held until the cast is over. -/
theorem cast_ends (howns : session.Owns holdings []) (name : RegistryName)
    (source : Reading Payload) (sourceType destType : Reading (Option ValueType))
    (receiver : Reading ReceiverDescription) :
    Ends session (cast name source sourceType destType receiver)
      (fun _ after => session.InOrder after []) fun after => session.InOrder after [] := by
  refine (Settles.requireRegistry howns name).followed (.refl howns) fun _ known hknown => ?_
  refine reading_ends source hknown fun source => ?_
  refine creating_ends source hknown fun input made hmade => ?_
  have hcast : Ends made
      (holdingInstance input do
        let sourceIdentity ← identityOf sourceType
        let destIdentity ← identityOf destType
        let receiver ← read receiver
        let registry ← registry name
        onMachine do
          let content? ← receiver.content?.mapM fun value =>
            (Machine.create ⟨receiver.type, value⟩ : Action Machine Instance)
          Action.withLocal ⟨receiver.type, content?⟩ Receiver.discard
            (registry.cast input sourceIdentity destIdentity))
      (fun ended after => made.Settled after holdings (ended.2.held ++ [.loose input]))
      fun after => made.InOrder after [] := by
    refine holdingInstance_ends ?_
    refine (Settles.identityOf hmade.owns sourceType).followed (.refl hmade.owns)
      fun sourceIdentity _ hknown => ?_
    refine (Settles.identityOf hknown.owns destType).followed hknown
      fun destIdentity _ hknown => ?_
    refine reading_ends receiver hknown fun receiver => ?_
    refine (Settles.registry hknown.owns name).followed hknown fun registry after hafter => ?_
    have hreceived := receiving_ends hafter.owns.coherent hafter.owns.accounts registry input
      sourceIdentity destIdentity receiver.type receiver.content?
    refine onMachine_ends hreceived (fun ended machine hsettled => ?_) fun machine hsettled => ?_
    · rw [← List.append_assoc] at hsettled
      exact hafter.trans (hafter.owns.settled hsettled)
    · exact ⟨holdings, hafter.trans (hafter.owns.settled hsettled)⟩
  refine (hcast.imp (fun _ _ hafter => hmade.trans hafter) fun _ hafter =>
    hmade.inOrder hafter).bind fun ended after hafter => ?_
  obtain ⟨result, receiver⟩ := ended
  have haccounts := hafter.owns.accounts
  rw [List.append_assoc] at haccounts
  have hreleased : Action.Settles after.machine ([] ++ holdings.values.reduceOption) (do
      Action.unwinding receiver.destroy (Machine.discard input)
      Machine.destroy input) :=
    releasing_settles hafter.owns.coherent receiver input haccounts
  exact (hafter.releasing hreleased).bind fun _ _ hend => .pure hend

end Casts

/-! ## Calls -/

section Calls

/-- Values that have been made for a call: they hold what the step has in its hands. -/
def Built (origin : Session) (holdings : Directory (Option Holding)) (cells : List Cell)
    (after : Session) : Prop :=
  ∃ held : List (Option Holding),
    List.Forall₂ (Cell.Holds after.machine) cells held ∧
      origin.Settled after holdings held.reduceOption

/-- A value that a step has made: what it holds is in the hands of the step, on top of the rest. -/
def Gives (before : Session) (holdings : Directory (Option Holding)) (pending : List Holding)
    (cell : Cell) (after : Session) : Prop :=
  ∃ holding? : Option Holding, cell.Holds after.machine holding? ∧
    before.Settled after holdings (holding?.toList ++ pending)

/-- What a call leaves in the hands of the step: the value that it gives, or nothing new. -/
def Returns (before : Session) (holdings : Directory (Option Holding)) (pending : List Holding) :
    Except CallError Cell → Session → Prop
  | .ok cell, after => before.Gives holdings pending cell after
  | .error _, after => before.Settled after holdings pending

theorem Owns.gives {cell : Cell} {machine : Machine} (howns : session.Owns holdings pending)
    (hgives : session.machine.Gives (pending ++ holdings.values.reduceOption) cell machine) :
    session.Gives holdings pending cell { session with machine := machine } := by
  obtain ⟨holding?, hholds, hsettled⟩ := hgives
  rw [← List.append_assoc] at hsettled
  exact ⟨holding?, hholds, howns.settled hsettled⟩

theorem Owns.returns {result : Except CallError Cell} {machine : Machine}
    (howns : session.Owns holdings pending)
    (hreturns : session.machine.Returns (pending ++ holdings.values.reduceOption) result machine) :
    session.Returns holdings pending result { session with machine := machine } := by
  cases result with
  | ok cell => exact howns.gives hreturns
  | error error => exact howns.settled hreturns

theorem buildArgument_ends (howns : session.Owns holdings pending) (argument : Reading Argument) :
    Ends session (buildArgument argument) (session.Gives holdings pending) fun after =>
      session.InOrder after pending := by
  refine reading_ends argument (.refl howns) fun argument => ?_
  cases argument with
  | value payload? =>
      have hnew : Ends session.machine (liftM (newCell payload?) : Action Machine Cell)
          (session.machine.Gives (pending ++ holdings.values.reduceOption)) fun _ => False := by
        cases payload? with
        | none => exact .pure (Cell.empty_gives howns.coherent howns.accounts)
        | some payload => exact Cell.ofPayload_ends howns.coherent howns.accounts payload _
      exact onMachine_ends hnew (fun _ _ hgives => howns.gives hgives) fun _ hfalse => hfalse.elim
  | copyOf name =>
      cases hget : session.cells.get? name with
      | none =>
          exact .of_error (Action.run_bind_error _ (run_valueOf_none hget))
            ⟨holdings, .refl howns⟩
      | some cell =>
          obtain ⟨holding?, hheld, hholds⟩ := howns.exists_holding hget
          exact .bind_of_ok (run_valueOf_some hget) (onMachine_ends
            (Cell.clone_ends howns.coherent howns.accounts hholds (Owns.mem_accounts hheld))
            (fun _ _ hgives => howns.gives hgives)
            fun _ hsettled => ⟨holdings, howns.settled hsettled⟩)

/-- The values of the arguments are in the hands of the step, and none is left if one of them cannot
be made. -/
theorem buildArguments_ends {origin : Session} {built : List Cell}
    (arguments : List (Reading Argument)) (hbuilt : origin.Built holdings built session) :
    Ends session (buildArguments built arguments) (origin.Built holdings) fun after =>
      origin.InOrder after [] := by
  induction arguments generalizing session built with
  | nil => exact .pure hbuilt
  | cons argument rest ih =>
      obtain ⟨held, hcells, hsettled⟩ := hbuilt
      have hheld : held.reduceOption = held.reduceOption ++ [] := (List.append_nil _).symm
      have hargument := buildArgument_ends hsettled.owns argument
      rw [hheld] at hargument
      have hguarded := (holdingCells_ends hcells hargument).imp
        (fun _ _ hafter => hafter) fun _ hafter => hsettled.inOrder hafter
      refine hguarded.bind fun cell after hafter => ih ?_
      obtain ⟨holding?, hholds, hmade⟩ := hafter
      refine ⟨held ++ [holding?], ?_, ?_⟩
      · exact List.rel_append (Cell.Holds.monoAll hcells hmade.knows) (.cons hholds .nil)
      · refine (hsettled.trans hmade).perm ?_
        rw [List.append_nil, List.reduceOption_append]
        refine List.perm_append_comm.trans (.of_eq (congrArg _ ?_))
        cases holding? <;> rfl

/-- A value that is stored in a variable is in the hands of the step no more. -/
theorem store_ends {cell : Cell} {holding? : Option Holding}
    (howns : session.Owns holdings (holding?.toList ++ pending))
    (hholds : cell.Holds session.machine holding?) (name : String) :
    Ends session (store name cell) (fun _ after => session.InOrder after pending) fun after =>
      session.InOrder after pending := by
  obtain ⟨heap, hrun, hafter⟩ := store_run howns hholds name
  refine .of_left ?_
  rw [hrun]
  exact ⟨_, hafter, .advance _ _ _ _ _, rfl⟩

/-- The environment that a step looks up. -/
theorem environment_ends {next : Environment → SessionAction β} {succeeds : β → Session → Prop}
    (howns : session.Owns holdings pending) (name : String)
    (hnext : ∀ environment, session.environments.get? name = some environment →
      Ends session (next environment) succeeds fun after => session.InOrder after pending) :
    Ends session (environment name >>= next) succeeds fun after =>
      session.InOrder after pending := by
  unfold environment
  rw [bind_assoc]
  refine .bind_of_ok (Action.run_get session) ?_
  cases hget : session.environments.get? name with
  | none => exact .of_error rfl ⟨holdings, .refl howns⟩
  | some environment => exact hnext environment hget

/-- The result of a call is stored in the variable that is to have it, or destroyed. -/
theorem keeping_ends {cell : Cell} (hgives : session.Gives holdings pending cell after)
    (target? : Option String) :
    Ends after
      (do
        let payload? := (← onMachine cell.contents?).map Instance.payload
        match target? with
        | some target => store target cell
        | none => onMachine cell.destroy
        return (.ok payload? : Except CallError (Option Payload)))
      (fun _ final => session.InOrder final pending) fun final =>
        session.InOrder final pending := by
  obtain ⟨holding?, hholds, hafter⟩ := hgives
  have hsub : ∀ holding ∈ holding?,
      holding ∈ holding?.toList ++ pending ++ holdings.values.reduceOption :=
    fun holding hmem => List.mem_append_left _ (List.mem_append_left _ (Option.mem_toList.mpr hmem))
  refine .bind_of_ok (run_onMachine_ok (Cell.contents?_run hafter.owns.accounts hholds hsub)) ?_
  cases target? with
  | none =>
      have haccounts := hafter.owns.accounts
      rw [List.append_assoc] at haccounts
      have hdestroy := Cell.destroy_settles hafter.owns.coherent haccounts hholds
      exact (hafter.releasing hdestroy).bind fun _ _ hend => .pure hend
  | some target =>
      exact ((store_ends hafter.owns hholds target).imp (fun _ _ => hafter.inOrder)
        fun _ => hafter.inOrder).bind fun _ _ hend => .pure hend

/-- A call leaves its result in a variable or destroys it, and its arguments are destroyed last. -/
theorem call_ends (howns : session.Owns holdings [])
    (hfunctions : ∀ name environment, session.environments.get? name = some environment →
      environment.IsOfSessions) (environmentName name : String)
    (arguments : List (Reading Argument)) (target? : Option String) :
    Ends session (call environmentName name arguments target?)
      (fun _ after => session.InOrder after []) fun after => session.InOrder after [] := by
  unfold call
  have hnone : session.Built holdings [] session := ⟨[], .nil, .refl howns⟩
  refine (buildArguments_ends arguments hnone).bind fun cells built hbuilt => ?_
  obtain ⟨held, hcells, hsettled⟩ := hbuilt
  refine Ends.bind ((holdingCells_ends hcells ?_ : Ends built _
    (fun _ after => built.InOrder after held.reduceOption) fun after => built.InOrder after []).imp
    (fun _ _ hafter => hafter) fun _ hafter => hsettled.inOrder hafter)
    fun result after hafter => ?_
  · rw [List.append_nil]
    refine environment_ends hsettled.owns environmentName fun environment hget => ?_
    have henvironment := hfunctions environmentName environment (hsettled.environments ▸ hget)
    have hcall := henvironment.call_ends hsettled.owns.coherent hsettled.owns.accounts name hcells
      fun _ hmem => List.mem_append_left _ hmem
    refine Ends.bind (onMachine_ends hcall (fun _ _ hreturns => hsettled.owns.returns hreturns)
      (fun _ hend => ⟨holdings, hsettled.owns.settled hend⟩) :
      Ends built _ (built.Returns holdings held.reduceOption) _) fun result after hreturns => ?_
    cases result with
    | error error => exact .pure ⟨holdings, hreturns⟩
    | ok cell => exact keeping_ends hreturns target?
  obtain ⟨others, hafter⟩ := hafter
  have hdestroy := Cell.destroyAll_settles hafter.owns.coherent
    (Cell.Holds.monoAll hcells hafter.knows) hafter.owns.accounts
  have hreleased : (Cell.destroyAll cells).Settles after.machine
      ([] ++ others.values.reduceOption) := hdestroy
  exact ((hsettled.trans hafter).releasing hreleased).bind fun _ _ hend => .pure hend

end Calls

/-! ## Registries -/

section Registries

variable (howns : session.Owns holdings [])
include howns

theorem register_settles (name : RegistryName) (registration : Reading Registration) :
    Settles session holdings [] (register name registration) := by
  refine (Settles.requireChangeable howns name).bind fun _ _ hknown => ?_
  refine (Settles.requireRegistry hknown.owns name).bind fun _ _ hknown => ?_
  refine Settles.reading hknown.owns registration fun ⟨source, dest, script⟩ => ?_
  have hregister {before : Session} (hbefore : before.Owns holdings []) :
      Settles before holdings [] (do
        let registry ← registry name
        setRegistry name
          (← onMachine (registry.register source dest (script.conversion source)))
        return Answer.nothing) :=
    (Settles.registry hbefore name).bind fun registry _ hknown =>
      (Settles.learning hknown.owns (.register registry source dest _)).bind fun changed _ hknown =>
        (Settles.setRegistry hknown.owns name changed).answer fun _ => Answer.nothing
  dsimp only
  split
  · exact (Settles.learning hknown.owns (.writeLog _)).bind fun _ _ hknown => hregister hknown.owns
  · exact hregister hknown.owns

theorem unregister_settles (name : RegistryName) (types : Reading (ValueType × ValueType)) :
    Settles session holdings [] (unregister name types) := by
  refine (Settles.requireChangeable howns name).bind fun _ _ hknown => ?_
  refine (Settles.requireRegistry hknown.owns name).bind fun _ _ hknown => ?_
  refine Settles.reading hknown.owns types fun ⟨source, dest⟩ => ?_
  exact (Settles.registry hknown.owns name).bind fun registry _ hknown =>
    (Settles.learning hknown.owns (.unregister registry source dest)).bind fun ended _ hknown =>
      (Settles.setRegistry hknown.owns name ended.2).answer fun _ => Answer.truth ended.1

theorem coerce_settles (name : RegistryName) (variableName : String) (type : Reading ValueType) :
    Settles session holdings [] (coerce name variableName type) := by
  refine (Settles.requireRegistry howns name).bind fun _ known hknown => ?_
  refine Settles.lookingUp hknown.owns variableName fun cell holding? hholds hsub => ?_
  refine Settles.reading hknown.owns type fun type => ?_
  exact (Settles.registry hknown.owns name).bind fun registry after hafter =>
    (Settles.onMachine hafter.owns (registry.coerceWithin_settles registry.nestingLimit _ _ cell
      holding? type hafter.owns.coherent hafter.owns.accounts (hholds.mono hafter.knows)
        hsub)).answer fun result => Answer.coercion (result.map (⟨type, ·⟩))

end Registries

/-! ## Environments -/

section Environments

variable (howns : session.Owns holdings pending)
include howns

/-- The variables do not matter to a change of an environment. -/
theorem setEnvironment_ends (name : String) (environment : Environment) :
    Ends session (setEnvironment name environment) (fun _ after => after.Owns holdings pending)
      fun after => after.Owns holdings pending :=
  .of_ok (Action.run_modify _ _) ⟨howns.coherent, howns.agree, howns.accounts⟩

theorem load_ends (name : String) (functions : FunctionModule) :
    Ends session (step (.load name functions)) (fun _ after => after.Owns holdings pending)
      fun after => after.Owns holdings pending := by
  refine ((Settles.environment howns name).imp (fun _ _ hknown => hknown.owns) fun _ hknown =>
    hknown.owns).bind fun environment _ hknown => ?_
  have hload : Machine.OnlyLearns (environment.load functions) :=
    (Machine.OnlyLearns.writeLog _).bind fun _ => .pure _
  refine ((Settles.learning hknown hload).imp (fun _ _ hknown => hknown.owns) fun _ hknown =>
    hknown.owns).bind fun changed _ hknown => ?_
  exact (setEnvironment_ends hknown name changed).bind fun _ _ hafter => .pure hafter

theorem bind_ends (environmentName name : String) (function : Native) :
    Ends session (step (.bind environmentName name function))
      (fun _ after => after.Owns holdings pending) fun after => after.Owns holdings pending := by
  refine ((Settles.environment howns environmentName).imp (fun _ _ hknown => hknown.owns)
    fun _ hknown => hknown.owns).bind fun environment _ hknown => ?_
  exact (setEnvironment_ends hknown environmentName _).bind fun _ _ hafter => .pure hafter

end Environments

/-! ## All steps -/

/-- Every step leaves the variables in order, however it ends. -/
theorem step_owns (howns : session.Owns holdings [])
    (hfunctions : ∀ name environment, session.environments.get? name = some environment →
      environment.IsOfSessions) (command : Command) :
    ∃ holdings', ((step command).run session).2.Owns holdings' [] := by
  have hsettled (hsettles : Settles session holdings [] (step command)) :
      ∃ holdings', ((step command).run session).2.Owns holdings' [] :=
    ⟨holdings, hsettles.left.owns⟩
  have hinOrder (hends : Ends session (step command) (fun _ after => session.InOrder after [])
      fun after => session.InOrder after []) :
      ∃ holdings', ((step command).run session).2.Owns holdings' [] := by
    obtain ⟨holdings', hafter⟩ := hends.left
    exact ⟨holdings', hafter.owns⟩
  -- Steps on variables have been followed already; the others are taken one by one.
  cases hvariable : command.isVariableStep with
  | true => exact variable_step_owns howns hvariable
  | false =>
      cases command with
      | inspect name =>
          refine hsettled (Settles.lookingUp howns name fun cell holding? hholds hsub => ?_)
          exact (Settles.onMachine howns ((inspect_looks howns.accounts hholds hsub).settles
            howns.coherent howns.accounts)).answer Answer.inspection
      | push name =>
          refine hsettled (Settles.lookingUp howns name fun cell holding? hholds hsub => ?_)
          have hpushes : Looks session.machine (cell.pushOnto []) :=
            .of_ok (Cell.pushOnto_run howns.accounts hholds hsub []) rfl
          exact (Settles.onMachine howns (hpushes.settles howns.coherent howns.accounts)).answer
            Answer.pushes
      | identity type? => exact hsettled ((Settles.identityOf howns type?).answer Answer.identity)
      | sameIdentity first second =>
          exact hsettled ((Settles.identityOf howns first).bind fun firstIdentity _ hafter =>
            (Settles.identityOf hafter.owns second).answer _)
      | counts =>
          refine hsettled (Settles.looking ?_)
          split
          · exact .throw howns _
          · exact .pure howns _
      | table type =>
          refine hsettled (Settles.reading howns type fun type => ?_)
          exact (Settles.learning howns (.tableFor type)).bind fun table _ hafter =>
            (Settles.learning hafter.owns (.tableFor type)).answer _
      | newRegistry name contents =>
          have hput {before : Session} (hbefore : before.Owns holdings []) (registry : Registry) :
              Settles before holdings []
                (do setRegistry (.named name) registry; return Answer.nothing) :=
            (Settles.setRegistry hbefore (.named name) registry).answer fun _ => Answer.nothing
          cases contents with
          | nothing => exact hsettled (hput howns .empty)
          | builtIns =>
              exact hsettled ((Settles.learning howns .withBuiltIns).bind fun registry _ hafter =>
                hput hafter.owns registry)
      | register name registration => exact hsettled (register_settles howns name registration)
      | unregister name types => exact hsettled (unregister_settles howns name types)
      | contains name source dest =>
          exact hsettled ((Settles.requireRegistry howns name).bind fun _ _ hknown =>
            (Settles.identityOf hknown.owns source).bind fun _ _ hknown =>
              (Settles.identityOf hknown.owns dest).bind fun _ _ hknown =>
                (Settles.registry hknown.owns name).answer _)
      | registrySize name => exact hsettled ((Settles.registry howns name).answer _)
      | coerce name variableName type =>
          exact hsettled (coerce_settles howns name variableName type)
      | cast name source sourceType destType receiver =>
          exact hinOrder (cast_ends howns name source sourceType destType receiver)
      | newEnvironment name => exact ⟨holdings, howns.coherent, howns.agree, howns.accounts⟩
      | load name functions => exact ⟨holdings, (load_ends howns name functions).left⟩
      | bind environmentName name function =>
          exact ⟨holdings, (bind_ends howns environmentName name function).left⟩
      | isBound environmentName name =>
          exact hsettled ((Settles.environment howns environmentName).answer _)
      | environment name => exact hsettled ((Settles.environment howns name).answer _)
      | call environmentName name arguments target? =>
          exact hinOrder (call_ends howns hfunctions environmentName name arguments target?)
      | _ => cases hvariable

/-! ## Whole sessions -/

/-- A session at rest: its variables account for its program, and what it knows about types and has
in its registries and environments is in order, so that it is like itself. -/
structure AtRest (session : Session) : Prop where
  owns : ∃ holdings, session.Owns holdings []
  alike : session.Alike session

theorem AtRest.start (isFresh : Bool) : (start isFresh).AtRest :=
  ⟨⟨_, .start isFresh⟩, .start isFresh⟩

/-- A session that has been at rest is at rest again after every step, and the program knows at
least what it knew. -/
theorem AtRest.attempt (hrest : session.AtRest) {command : Except Complaint Command}
    (hbinds : ∀ given, command = .ok given → given.BindsSessionFunctions) :
    (((Session.attempt command).run session).2).AtRest ∧
      session.machine.Extends ((Session.attempt command).run session).2.machine := by
  obtain ⟨hlater, -⟩ := attempt_agrees hrest.alike hbinds
  refine ⟨⟨?_, hlater.alike⟩, hlater.first⟩
  obtain ⟨holdings, howns⟩ := hrest.owns
  cases command with
  | error complaint => exact ⟨holdings, howns⟩
  | ok command => exact step_owns howns hrest.alike.functions command

theorem AtRest.cleared (hrest : session.AtRest) : session.cleared.AtRest := by
  obtain ⟨holdings, howns⟩ := hrest.owns
  exact ⟨⟨holdings, howns.cleared⟩, hrest.alike.cleared⟩

/-- A session that goes on from a state at rest. -/
theorem AtRest.mapM_report (hrest : session.AtRest) {commands : List (Except Complaint Command)}
    (hbinds : ∀ command, .ok command ∈ commands → command.BindsSessionFunctions) :
    (commands.mapM report session).2.AtRest ∧
      session.machine.Extends (commands.mapM report session).2.machine := by
  induction commands generalizing session with
  | nil => exact ⟨hrest, .refl _⟩
  | cons command rest ih =>
      obtain ⟨hafter, hextends⟩ := hrest.attempt fun given hgiven =>
        hbinds given (hgiven ▸ List.mem_cons_self)
      obtain ⟨hend, hextends'⟩ := ih hafter.cleared fun given hmem =>
        hbinds given (List.mem_cons_of_mem _ hmem)
      rw [List.mapM_cons, Action.bind_apply, report_apply rfl, Action.bind_apply]
      refine ⟨hend, hextends.trans (.trans ?_ hextends')⟩
      exact ⟨List.prefix_rfl, List.prefix_rfl⟩

/-- Every state that a session reaches is at rest. -/
theorem afterSteps_atRest (isFresh : Bool) {commands : List (Except Complaint Command)}
    (hbinds : ∀ command, .ok command ∈ commands → command.BindsSessionFunctions) :
    (afterSteps isFresh commands).AtRest :=
  ((AtRest.start isFresh).mapM_report hbinds).1

end DynamicValue.Session
