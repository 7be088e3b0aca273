/-
# The environments of a session

What a session has bound in an environment can be told from its commands alone: those that make the
environment, load a module into it or bind a function in it. No other command changes an
environment, and none of these fails halfway, whatever the functions are and however the commands in
between end. So the environments of a session show, at every moment of a run, what the commands so
far have bound.
-/

import DynamicValue.Proofs.Environment.Arguments
import DynamicValue.Proofs.Session.Relations
import DynamicValue.Proofs.Session.Run

namespace DynamicValue

open DynamicValue.Action (Respects RespectsAt)

/-- The environment that a command starts with, if it does. A call makes its arguments first. -/
def Command.environment? : Command → Option String
  | load name _ | bind name _ _ | isBound name _ | environment name => some name
  | _ => none

/-! ## The record of the commands -/

/-- What was bound in the environments of a session, in its order. -/
abbrev BindingRecord : Type := Directory (List (String × Native))

namespace BindingRecord

/-- The record after more was bound in an environment, which has to be there. -/
def binding (record : BindingRecord) (name : String) (more : List (String × Native)) :
    BindingRecord :=
  match record.get? name with
  | some bindings => record.insert name (bindings ++ more)
  | none => record

/-- The record after a command. An environment that is made anew has no functions. -/
def after (record : BindingRecord) : Except Complaint Command → BindingRecord
  | .ok (.newEnvironment name) => record.insert name []
  | .ok (.load name functions) => record.binding name functions.exports
  | .ok (.bind name bound function) => record.binding name [(bound, function)]
  | _ => record

/-- The record of a session after commands from its start. -/
def of (commands : List (Except Complaint Command)) : BindingRecord :=
  commands.foldl after .empty

end BindingRecord

namespace Session

variable {session : Session} {record : BindingRecord}

/-- The environments of a session are those of a record. -/
def HasBound (session : Session) (record : BindingRecord) : Prop :=
  session.environments = record.map Environment.ofBindings

/-! ## Commands that leave the environments alone -/

/-- The environments stay as they are. -/
def KeepsEnvironments (session after : Session) : Prop := after.environments = session.environments

theorem keepsEnvironments_allowsChanges : AllowsChanges (fun _ _ => True) KeepsEnvironments where
  toComposes := .same environments
  program _ _ _ := rfl
  changes _ _ := rfl

section Registries

variable {α : Type} (name : RegistryName)

theorem onMachine_keepsEnvironments (action : Action Machine α) :
    Respects KeepsEnvironments (onMachine action) :=
  respects_onMachine keepsEnvironments_allowsChanges.toAllows fun _ => trivial

theorem setRegistry_keepsEnvironments (registry : Registry) :
    Respects KeepsEnvironments (setRegistry name registry) := by
  cases name with
  | global => exact onMachine_keepsEnvironments _
  | named name => exact .changing fun _ => rfl

/-- A registry is looked up, changed and put in its place. -/
theorem changed_keepsEnvironments (change : Registry → Action Machine α) (result : α → Registry)
    (answer : α → Answer) : Respects KeepsEnvironments (do
      let registry ← registry name
      let changed ← onMachine (change registry)
      setRegistry name (result changed)
      return answer changed) :=
  have hsessions := keepsEnvironments_allowsChanges.toAllows
  have hcomposes := hsessions.toComposes
  .bind hcomposes (respects_registry .total hsessions name) fun registry =>
    .bind hcomposes (onMachine_keepsEnvironments (change registry)) fun changed =>
      .bind hcomposes (setRegistry_keepsEnvironments name (result changed)) fun _ =>
        .pure hcomposes _

/-- A change of a registry comes after its conditions. -/
theorem changing_keepsEnvironments (reading : Reading α) {next : α → SessionAction Answer}
    (hnext : ∀ value, Respects KeepsEnvironments (next value)) :
    Respects KeepsEnvironments (do
      requireChangeable name
      requireRegistry name
      let value ← read reading
      next value) := by
  have hcomposes := keepsEnvironments_allowsChanges.toComposes
  have hchangeable : Respects KeepsEnvironments (requireChangeable name) := by
    refine .bind hcomposes (.get hcomposes) fun session => ?_
    split
    · exact respects_complain hcomposes _
    · exact .pure hcomposes _
  exact .bind hcomposes hchangeable fun _ session => requireRegistry_respectsAt hcomposes <|
    Respects.bind hcomposes (respects_read hcomposes reading) hnext session

theorem register_keepsEnvironments (registration : Reading Registration) :
    Respects KeepsEnvironments (register name registration) := by
  have hcomposes := keepsEnvironments_allowsChanges.toComposes
  refine changing_keepsEnvironments name registration ?_
  rintro ⟨source, dest, script⟩
  have hchanged := changed_keepsEnvironments name
    (fun registry => (registry.register source dest (script.conversion source) :)) id
    fun _ => .nothing
  dsimp only
  split
  · exact .bind hcomposes (onMachine_keepsEnvironments _) fun _ => hchanged
  · exact hchanged

theorem unregister_keepsEnvironments (types : Reading (ValueType × ValueType)) :
    Respects KeepsEnvironments (unregister name types) := by
  refine changing_keepsEnvironments name types ?_
  rintro ⟨source, dest⟩
  exact changed_keepsEnvironments name (fun registry => (registry.unregister source dest :))
    Prod.snd fun changed => .truth changed.1

end Registries

theorem newRegistry_keepsEnvironments (name : String) (contents : RegistryContents) :
    Respects KeepsEnvironments (step (.newRegistry name contents)) := by
  have hcomposes := keepsEnvironments_allowsChanges.toComposes
  have hset (registry : Registry) : Respects KeepsEnvironments (do
      setRegistry (.named name) registry
      return Answer.nothing) :=
    .bind hcomposes (setRegistry_keepsEnvironments _ registry) fun _ => .pure hcomposes _
  cases contents with
  | nothing => exact hset .empty
  | builtIns => exact .bind hcomposes (onMachine_keepsEnvironments _) hset

/-- Whatever the functions do that are called. -/
theorem call_keepsEnvironments (environmentName name : String)
    (arguments : List (Reading Argument)) (target? : Option String) :
    Respects KeepsEnvironments (call environmentName name arguments target?) :=
  fun _ => call_respectsAt .total keepsEnvironments_allowsChanges (fun _ _ _ _ => trivial) arguments
    target?

/-! ## Commands about environments -/

namespace HasBound

variable {name : String} {bindings : List (String × Native)}

theorem start (isFresh : Bool) : (start isFresh).HasBound .empty := rfl

theorem congr {after : Session} (hbound : session.HasBound record)
    (hsame : after.environments = session.environments) : after.HasBound record :=
  hsame.trans hbound

theorem get? (hbound : session.HasBound record) (name : String) :
    session.environments.get? name = (record.get? name).map Environment.ofBindings := by
  rw [show session.environments = _ from hbound, Directory.get?_map]

theorem insert (hbound : session.HasBound record) (name : String)
    (bindings : List (String × Native)) :
    HasBound { session with
      environments := session.environments.insert name (.ofBindings bindings) }
      (record.insert name bindings) := by
  unfold HasBound at hbound ⊢
  rw [hbound, Directory.map_insert]

theorem environment_run (hbound : session.HasBound record)
    (hbindings : record.get? name = some bindings) :
    (environment name).run session = (.ok (.ofBindings bindings), session) := by
  unfold environment
  rw [Action.run_bind_ok _ (Action.run_get session), hbound.get?, hbindings]
  rfl

/-- What is to be done with an environment that is not there is not begun. -/
theorem environment_run_none {α : Type} (hbound : session.HasBound record)
    (hnone : record.get? name = none) (next : Environment → SessionAction α) :
    (environment name >>= next).run session =
      (.error (.complaint (.noEnvironment name)), session) := by
  refine Action.run_bind_error next ?_
  unfold environment
  rw [Action.run_bind_ok _ (Action.run_get session), hbound.get?, hnone]
  rfl

theorem load_run (hbound : session.HasBound record)
    (hbindings : record.get? name = some bindings) (functions : FunctionModule) :
    ∃ machine, (step (.load name functions)).run session =
      (.ok (.name functions.name), { session with
        machine := machine
        environments := session.environments.insert name
          (.ofBindings (bindings ++ functions.exports)) }) := by
  have hload : (onMachine ((Environment.ofBindings bindings).load functions)).run session =
      (.ok ((Environment.ofBindings bindings).bindAll functions.exports), { session with
        machine := ((Environment.ofBindings bindings).load functions session.machine).2 }) :=
    run_onMachine_lift rfl
  rw [Environment.ofBindings_append]
  exact ⟨_, (Action.run_bind_ok _ (hbound.environment_run hbindings)).trans
    ((Action.run_bind_ok _ hload).trans rfl)⟩

theorem bind_run (hbound : session.HasBound record)
    (hbindings : record.get? name = some bindings) (bound : String) (function : Native) :
    (step (.bind name bound function)).run session =
      (.ok (.replacement (Environment.lastBound? bindings bound).isSome), { session with
        environments := session.environments.insert name
          (.ofBindings (bindings ++ [(bound, function)])) }) := by
  rw [Environment.ofBindings_concat, ← Environment.lookup_ofBindings]
  exact Action.run_bind_ok _ (hbound.environment_run hbindings)

/-- An environment with more bound in it, or none if there is none. -/
theorem binding (hbound : session.HasBound record) (name : String)
    (more : List (String × Native)) {next : Environment → SessionAction Answer}
    (hnext : ∀ bindings, record.get? name = some bindings →
      ∃ answer machine, (environment name >>= next).run session =
        (.ok answer, { session with
          machine := machine
          environments := session.environments.insert name (.ofBindings (bindings ++ more)) })) :
    (((environment name >>= next).run session).2).HasBound (record.binding name more) := by
  unfold BindingRecord.binding
  cases hbindings : record.get? name with
  | none =>
      rw [hbound.environment_run_none hbindings]
      exact hbound
  | some bindings =>
      obtain ⟨answer, machine, hrun⟩ := hnext bindings hbindings
      rw [hrun]
      exact hbound.insert name _

/-- A command changes the environments as the record says, in whatever way it ends. -/
theorem attempt (hbound : session.HasBound record) (command : Except Complaint Command) :
    (((Session.attempt command).run session).2).HasBound (record.after command) := by
  cases command with
  | error complaint => exact hbound
  | ok command =>
      cases huse : command.isUse with
      | true =>
          have hnothing : record.after (.ok command) = record := by
            cases command <;> first | rfl | cases huse
          rw [hnothing]
          exact hbound.congr (respects_use .total keepsEnvironments_allowsChanges huse session)
      | false =>
          cases command with
          | newRegistry name contents =>
              exact hbound.congr (newRegistry_keepsEnvironments name contents session)
          | register name registration =>
              exact hbound.congr (register_keepsEnvironments name registration session)
          | unregister name types =>
              exact hbound.congr (unregister_keepsEnvironments name types session)
          | newEnvironment name => exact hbound.insert name []
          | load name functions =>
              refine hbound.binding name functions.exports fun bindings hbindings => ?_
              exact ⟨_, hbound.load_run hbindings functions⟩
          | bind name bound function =>
              refine hbound.binding name [(bound, function)] fun bindings hbindings => ?_
              exact ⟨_, session.machine, hbound.bind_run hbindings bound function⟩
          | call environmentName name arguments target? =>
              exact hbound.congr
                (call_keepsEnvironments environmentName name arguments target? session)
          | _ => cases huse

/-- A run goes on with the record of its commands. -/
theorem mapM_report (hbound : session.HasBound record)
    (commands : List (Except Complaint Command)) :
    (commands.mapM report session).2.HasBound (commands.foldl BindingRecord.after record) := by
  induction commands generalizing session record with
  | nil => exact hbound
  | cons command rest ih =>
      rw [List.mapM_cons, Action.bind_apply, report_apply rfl, Action.bind_apply]
      exact ih ((hbound.attempt command).congr rfl)

end HasBound

theorem afterSteps_hasBound (isFresh : Bool) (commands : List (Except Complaint Command)) :
    (afterSteps isFresh commands).HasBound (.of commands) :=
  (HasBound.start isFresh).mapM_report commands

/-! ## What a session shows -/

/-- What a session answers about its environments is what a record of them says. A command that
starts with an environment that is not there does nothing. -/
structure AnswersBindings (session : Session) (record : BindingRecord) : Prop where
  environment : ∀ name bindings, record.get? name = some bindings →
    ∃ environment : Environment, environment.ShowsBindings bindings ∧
      (step (.environment name)).run session =
        (.ok (.environment environment.names environment.size environment.isEmpty
          environment.debugText), session)
  isBound : ∀ name bindings, record.get? name = some bindings → ∀ bound,
    (step (.isBound name bound)).run session =
      (.ok (.truth (Environment.lastBound? bindings bound).isSome), session)
  replacement : ∀ name bindings, record.get? name = some bindings → ∀ bound function,
    ((step (.bind name bound function)).run session).1 =
      .ok (.replacement (Environment.lastBound? bindings bound).isSome)
  loaded : ∀ name bindings, record.get? name = some bindings → ∀ functions,
    ((step (.load name functions)).run session).1 = .ok (.name functions.name)
  absent : ∀ command name, command.environment? = some name → record.get? name = none →
    (step command).run session = (.error (.complaint (.noEnvironment name)), session)

theorem HasBound.answersBindings (hbound : session.HasBound record) :
    session.AnswersBindings record where
  environment name bindings hbindings :=
    ⟨_, Environment.ofBindings_showsBindings bindings,
      Action.run_bind_ok _ (hbound.environment_run hbindings)⟩
  isBound name bindings hbindings bound := by
    rw [← Environment.lookup_ofBindings]
    exact Action.run_bind_ok _ (hbound.environment_run hbindings)
  replacement name bindings hbindings bound function := by
    rw [hbound.bind_run hbindings]
  loaded name bindings hbindings functions := by
    obtain ⟨machine, hrun⟩ := hbound.load_run hbindings functions
    rw [hrun]
  absent command name hname hnone := by
    cases command with
    | load | bind | isBound | environment =>
        cases hname
        exact hbound.environment_run_none hnone _
    | _ => cases hname

/-- In every run of a session, each environment shows what the commands have bound in it, whatever
the functions are: the last binding of a name counts, the names are in the order of their bytes, a
binding answers what it replaces, and only the call of a name that is not bound fails for want of a
function. The functions of the value module are called by their own names once it is loaded. They
check the number of their arguments first, and the two that convert an argument end as typed access
ends. -/
theorem environments_obey_their_bindings (isFresh : Bool)
    (commands : List (Except Complaint Command)) :
    (∀ name, Option.Rel Environment.ShowsBindings
        ((afterSteps isFresh commands).environments.get? name)
        ((BindingRecord.of commands).get? name)) ∧
      (afterSteps isFresh commands).AnswersBindings (.of commands) ∧
      (∀ function ∈ Native.ofSessions, function.AnswersForItself) ∧
      (∀ bindings name function, (name, function) ∈ FunctionModule.value.exports → ∀ arguments,
        (Environment.ofBindings (bindings ++ FunctionModule.value.exports)).call name arguments =
          function arguments) ∧
      FunctionModule.value.ChecksArguments ∧
      ∀ function, (("toint", function) ∈ FunctionModule.value.exports →
          function.ConvertsArgument "toint" (.integer .long)) ∧
        (("tonumber", function) ∈ FunctionModule.value.exports →
          function.ConvertsArgument "tonumber" (.float .double)) := by
  have hbound := afterSteps_hasBound isFresh commands
  refine ⟨fun name => ?_, hbound.answersBindings, Native.answersForItself_ofSessions,
    fun bindings _ _ hmem => FunctionModule.call_loaded_value bindings hmem,
    FunctionModule.value_checksArguments, fun function => ⟨fun hmem => ?_, fun hmem => ?_⟩⟩
  · rw [hbound.get?]
    cases (BindingRecord.of commands).get? name with
    | none => exact .none
    | some bindings => exact .some (Environment.ofBindings_showsBindings bindings)
  · have hfunction : function = Native.toInteger := by
      simpa [FunctionModule.value] using hmem
    rw [hfunction]
    exact Native.convertingTo_convertsArgument "toint" (.integer .long)
  · have hfunction : function = Native.toNumber := by
      simpa [FunctionModule.value] using hmem
    rw [hfunction]
    exact Native.convertingTo_convertsArgument "tonumber" (.float .double)

/-- An environment whose second module takes a name of the first and exports a name twice, and in
which a function is bound under the name of another one. -/
def shadowingSession : List (Except Complaint Command) :=
  [.ok (.newEnvironment "lib"), .ok (.load "lib" .value), .error (.unknownOperation "unload"),
    .ok (.load "lib" .extra), .ok (.bind "lib" "toint" Native.toNumber)]

/-- The last bindings count, and the number of arguments is checked under the own name. -/
theorem shadowing_session_shows_last_bindings :
    ∃ environment, (afterSteps true shadowingSession).environments.get? "lib" = some environment ∧
      environment.lookup "typeof" = some Native.count ∧
      environment.lookup "echo" = some Native.second ∧
      ((step (.bind "lib" "echo" Native.echo)).run (afterSteps true shadowingSession)).1 =
        .ok (.replacement true) ∧
      ∀ machine, (environment.call "toint" []).run machine =
        (.ok (.error (.wrongArgCount "tonumber" 1 0)), machine) := by
  obtain ⟨hshows, hanswers, -, -, hchecks, -⟩ :=
    environments_obey_their_bindings true shadowingSession
  have hbindings : (BindingRecord.of shadowingSession).get? "lib" =
      some (FunctionModule.value.exports ++ FunctionModule.extra.exports ++
        [("toint", Native.toNumber)]) := rfl
  have hlib := hshows "lib"
  rw [hbindings] at hlib
  cases hfound : (afterSteps true shadowingSession).environments.get? "lib" with
  | none =>
      rw [hfound] at hlib
      cases hlib
  | some environment =>
      rw [hfound, Option.rel_some_some] at hlib
      refine ⟨environment, rfl, hlib.lookup "typeof", hlib.lookup "echo",
        hanswers.replacement "lib" _ hbindings "echo" Native.echo, fun machine => ?_⟩
      rw [hlib.bound "toint" [] Native.toNumber rfl]
      exact hchecks.refuses "tonumber" Native.toNumber (by simp [FunctionModule.value]) [] machine
        (by decide)

end Session

end DynamicValue
