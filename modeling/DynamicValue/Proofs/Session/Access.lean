/-
# Asking for the value of a variable as a type

A variable is asked for its value as a type by three commands: one that names both types when it
fails, one that fails quietly, and one that writes over what it is given. The first two agree with
each other and, unless the variable holds exactly the requested type, with a coercion through the
global registry; if it does hold that type, they lend its payload and nothing else happens. None of
the three changes a variable, however it ends. All of this holds whatever the global registry is,
also if it has not been made yet.
-/

import DynamicValue.Proofs.Cell.Access
import DynamicValue.Proofs.Session.Frame
import DynamicValue.Proofs.Session.Steps

namespace DynamicValue

open DynamicValue.Action (Keeps)

/-- The commands that ask for the value of a variable as a type. -/
def Command.isAccess : Command → Bool
  | get .. | tryGet .. | getToMut .. => true
  | _ => false

/-- What an access makes of the result of a conversion between two types: a value of the caller's
own, or a failure that names both types. -/
def Accessed.ofConversion {type : ValueType} (source dest : TypeIdentity) :
    Except ConversionError type.Value → Except AccessError Accessed
  | .ok value => .ok ⟨⟨type, value⟩, false, type.textOf value⟩
  | .error cause => .error ⟨source, dest, cause⟩

namespace Session

/-- What the commands that ask for values as types do to the variables of a session. -/
structure GrantsAccess (session : Session) : Prop where
  /-- A payload is lent as its own type, and the session is not touched at all. -/
  lends : ∀ name contents, session.instanceIn? name = some contents →
    let lent : Accessed := ⟨contents.payload, true, contents.payload.text⟩
    (step (.get name (.ok contents.payload.type))).run session =
        (.ok (.access (.ok lent)), session) ∧
      (step (.tryGet name (.ok contents.payload.type))).run session =
        (.ok (.tryAccess (some lent)), session)
  /-- Any other type is reached as a coercion reaches it, which may also halt. -/
  converts : ∀ name cell type, session.cells.get? name = some cell →
    (∀ contents ∈ session.instanceIn? name, contents.payload.type ≠ type) →
    ∃ (dest : TypeIdentity) (outcome : Except Failure (Except ConversionError type.Value))
      (after : Session),
      cell.identity.type? = (session.instanceIn? name).map (·.payload.type) ∧
      after.machine.identity? type = some dest ∧
      (step (.coerce .global name (.ok type))).run session =
        (outcome.map fun result => .coercion (result.map (⟨type, ·⟩)), after) ∧
      (step (.get name (.ok type))).run session =
        (outcome.map fun result => .access (Accessed.ofConversion cell.identity dest result),
          after)
  /-- The quiet form is what is left of the other one without the cause. -/
  tries : ∀ name type, ∃ (outcome : Except Failure (Except AccessError Accessed)) (after : Session),
    (step (.get name type)).run session = (outcome.map .access, after) ∧
      (step (.tryGet name type)).run session =
        (outcome.map fun result => .tryAccess result.toOption, after)
  /-- A foreign type is had by those variables only that hold it. -/
  foreign : ∀ name type, type.isForeign = true →
    ((∃ accessed after, (step (.get name (.ok type))).run session =
        (.ok (.access (.ok accessed)), after)) ↔
      ∃ contents ∈ session.instanceIn? name, contents.payload.type = type)
  /-- A lent payload is copied before it is written over; if the copy fails, so does the command. -/
  copyFails : ∀ name contents payload halt, session.instanceIn? name = some contents →
    payload.type = contents.payload.type → contents.payload.copied = .error halt →
    ((step (.getToMut name (.ok payload))).run session).1 = .error (.halted halt)
  /-- No variable is changed, whatever is asked for or written and however that ends. -/
  unchanged : ∀ command, command.isAccess → ∀ name,
    let after := ((step command).run session).2
    after.cells.get? name = session.cells.get? name ∧
      after.instanceIn? name = session.instanceIn? name

section Access

variable {session : Session} {holdings : Directory (Option Holding)} {name : String} {cell : Cell}
  {type : ValueType} {machine : Machine}

/-! ## The commands and the operations on values -/

/-- A command that asks a variable that does not exist ends with a complaint. -/
theorem asking_run_of_none {α β : Type} (value : α) {next : α → Cell → SessionAction β}
    (hget : session.cells.get? name = none) :
    (do let value ← read (.ok value); next value (← valueOf name) : SessionAction β).run session =
      (.error (.complaint (.noVariable name)), session) := by
  have hread : (read (.ok value)).run session = (.ok value, session) := run_read _ _
  exact (Action.run_bind_ok _ hread).trans (Action.run_bind_error _ (run_valueOf_none hget))

section Running

variable (hget : session.cells.get? name = some cell)
include hget

theorem get_run {outcome : Except Halt (Except AccessError (Access type))}
    (hrun : (cell.get type).run session.machine = (outcome, machine)) :
    (step (.get name (.ok type))).run session =
      ((outcome.mapError .halted).map fun result => .access (result.map Access.accessed),
        { session with machine := machine }) :=
  (Action.run_bind_ok _ (run_valueOf_some hget)).trans
    (Action.run_bind_pure _ (run_onMachine hrun))

theorem tryGet_run {outcome : Except Halt (Option (Access type))}
    (hrun : (cell.tryGet type).run session.machine = (outcome, machine)) :
    (step (.tryGet name (.ok type))).run session =
      ((outcome.mapError .halted).map fun result => .tryAccess (result.map Access.accessed),
        { session with machine := machine }) :=
  (Action.run_bind_ok _ (run_valueOf_some hget)).trans
    (Action.run_bind_pure _ (run_onMachine hrun))

/-- A coercion by the global registry makes the registry if that has not been done yet. -/
theorem coerce_global_run {outcome : Except Halt (Except ConversionError type.Value)}
    (hrun : (cell.coerceGlobally type).run session.machine = (outcome, machine)) :
    (step (.coerce .global name (.ok type))).run session =
      ((outcome.mapError .halted).map fun result => .coercion (result.map (⟨type, ·⟩)),
        { session with machine := machine }) := by
  rw [Cell.coerceGlobally_eq] at hrun
  rcases hglobal : Machine.globalRegistry session.machine with ⟨global, made⟩
  rw [hglobal] at hrun
  have hregistry : (registry .global).run session =
      (.ok global, { session with machine := made }) := run_onMachine_lift hglobal
  have hread : (read (.ok type)).run session = (.ok type, session) := run_read (.ok type) session
  refine (Action.run_bind_ok _ (run_valueOf_some hget)).trans ?_
  refine (Action.run_bind_ok _ hread).trans ((Action.run_bind_ok _ hregistry).trans ?_)
  exact Action.run_bind_pure _ (run_onMachine hrun)

end Running

/-! ## What the commands leave -/

/-- Access goes on with the program and leaves the cells of the variables alone. -/
theorem keeps_cells_of_isAccess {command : Command} (haccess : command.isAccess) :
    Keeps cells (step command) := by
  have hcells : Allows (fun _ _ => True) fun state after : Session => after.cells = state.cells :=
    ⟨.same cells, fun _ _ _ => rfl⟩
  cases command with
  | get name type => exact fun session => get_respectsAt hcells name type fun _ _ _ _ => trivial
  | tryGet name type =>
      exact fun session => tryGet_respectsAt hcells name type fun _ _ _ _ => trivial
  | getToMut name payload =>
      exact fun session => getToMut_respectsAt Machine.AllowsUse.total.toAllows hcells name payload
        fun _ _ _ _ _ _ => trivial
  | _ => cases haccess

section Owning

variable (howns : session.Owns holdings [])
include howns

theorem Owns.settles_of_isAccess {command : Command} (haccess : command.isAccess) :
    Settles session holdings [] (step command) := by
  cases command with
  | get name type => exact get_settles howns name type
  | tryGet name type => exact tryGet_settles howns name type
  | getToMut name payload => exact getToMut_settles howns name payload
  | _ => cases haccess

theorem Owns.unchanged_of_isAccess {command : Command} (haccess : command.isAccess)
    (name : String) :
    let after := ((step command).run session).2
    after.cells.get? name = session.cells.get? name ∧
      after.instanceIn? name = session.instanceIn? name := by
  have hafter := (howns.settles_of_isAccess haccess).left.owns
  exact ⟨by rw [keeps_cells_of_isAccess haccess session],
    by rw [hafter.instanceIn?_eq, howns.instanceIn?_eq]⟩

/-! ## What the commands give -/

theorem Owns.lends {contents : Instance} (hcontents : session.instanceIn? name = some contents) :
    let lent : Accessed := ⟨contents.payload, true, contents.payload.text⟩
    (step (.get name (.ok contents.payload.type))).run session =
        (.ok (.access (.ok lent)), session) ∧
      (step (.tryGet name (.ok contents.payload.type))).run session =
        (.ok (.tryAccess (some lent)), session) := by
  obtain ⟨holding, hheld, rfl⟩ := howns.instanceIn?_eq_some_iff.mp hcontents
  obtain ⟨cell, hget, hholds⟩ := howns.exists_cell hheld
  have hextract := Cell.extract_of_held howns.accounts hholds (Owns.mem_accounts hheld _ rfl)
  have hidentity := hholds.identity?_eq howns.coherent
  exact ⟨get_run hget (Cell.get_of_extract hextract hidentity),
    tryGet_run hget (Cell.tryGet_of_extract hextract)⟩

theorem Owns.converts (hget : session.cells.get? name = some cell) (type : ValueType)
    (htype : ∀ contents ∈ session.instanceIn? name, contents.payload.type ≠ type) :
    ∃ (dest : TypeIdentity) (outcome : Except Failure (Except ConversionError type.Value))
      (after : Session),
      cell.identity.type? = (session.instanceIn? name).map (·.payload.type) ∧
      after.machine.identity? type = some dest ∧
      (step (.coerce .global name (.ok type))).run session =
        (outcome.map fun result => .coercion (result.map (⟨type, ·⟩)), after) ∧
      (step (.get name (.ok type))).run session =
        (outcome.map fun result => .access (Accessed.ofConversion cell.identity dest result),
          after) := by
  obtain ⟨holding?, hheld, hholds⟩ := howns.exists_holding hget
  have hsub : ∀ holding ∈ holding?, holding ∈ [] ++ holdings.values.reduceOption :=
    Owns.mem_accounts hheld
  rw [howns.instanceIn?_of_held hheld] at htype ⊢
  obtain ⟨dest, hdest⟩ :=
    Cell.exists_identity?_of_coerceGlobally howns.coherent howns.accounts hholds hsub type
  rcases hrun : (cell.coerceGlobally type).run session.machine with ⟨outcome, machine⟩
  rw [hrun] at hdest
  have hunheld : ∀ holding ∈ holding?, holding.payload.type ≠ type := fun holding hmem =>
    htype holding.contents (Option.mem_map_of_mem Holding.contents hmem)
  have hextract := Cell.extract_of_not_held howns.accounts hholds hsub hunheld hrun
  refine ⟨dest, outcome.mapError .halted, { session with machine := machine }, ?_, hdest,
    coerce_global_run hget hrun, ?_⟩
  · rw [hholds.identity_type?_eq howns.coherent, Option.map_map]
    rfl
  · rw [get_run hget (Cell.get_of_extract hextract hdest)]
    rcases outcome with halt | (cause | value) <;> rfl

theorem Owns.tries (name : String) (type : Reading ValueType) :
    ∃ (outcome : Except Failure (Except AccessError Accessed)) (after : Session),
      (step (.get name type)).run session = (outcome.map .access, after) ∧
        (step (.tryGet name type)).run session =
          (outcome.map fun result => .tryAccess result.toOption, after) := by
  cases type with
  | error complaint => exact ⟨.error (.complaint complaint), session, rfl, rfl⟩
  | ok type =>
      cases hget : session.cells.get? name with
      | none =>
          exact ⟨.error (.complaint (.noVariable name)), session, asking_run_of_none type hget,
            asking_run_of_none type hget⟩
      | some cell =>
          obtain ⟨holding?, hheld, hholds⟩ := howns.exists_holding hget
          obtain ⟨dest, hdest⟩ := Cell.exists_identity?_of_extract howns.coherent howns.accounts
            hholds (Owns.mem_accounts hheld) type
          rcases hrun : (cell.extract type).run session.machine with ⟨outcome, machine⟩
          rw [hrun] at hdest
          have hrunGet := get_run hget (Cell.get_of_extract hrun hdest)
          have hrunTry := tryGet_run hget (Cell.tryGet_of_extract hrun)
          rw [hrunGet, hrunTry]
          refine ⟨((outcome.map fun result => result.mapError (⟨cell.identity, dest, ·⟩)).mapError
            .halted).map fun result => result.map Access.accessed,
            { session with machine := machine }, ?_, ?_⟩
          · rcases outcome with halt | result <;> rfl
          · rcases outcome with halt | (cause | access) <;> rfl

/-- A foreign type is not converted to, so it is had only where it is lent. -/
theorem Owns.foreign (hforeign : type.isForeign = true) (name : String) :
    (∃ accessed after, (step (.get name (.ok type))).run session =
        (.ok (.access (.ok accessed)), after)) ↔
      ∃ contents ∈ session.instanceIn? name, contents.payload.type = type := by
  constructor
  · rintro ⟨accessed, after, hrun⟩
    by_contra hunheld
    cases hget : session.cells.get? name with
    | none =>
        cases (asking_run_of_none type hget).symm.trans hrun
    | some cell =>
        obtain ⟨dest, outcome, final, -, -, hcoerce, hgets⟩ :=
          howns.converts hget type fun contents hmem heq => hunheld ⟨contents, hmem, heq⟩
        obtain ⟨identity, known, hrefused⟩ :=
          Cell.coerceGlobally_foreign howns.coherent howns.accounts cell hforeign
        rw [coerce_global_run hget hrefused] at hcoerce
        rw [hgets] at hrun
        rcases outcome with failure | (cause | value)
        · cases hrun
        · cases hrun
        · cases hcoerce
  · rintro ⟨contents, hcontents, rfl⟩
    exact ⟨_, _, (howns.lends hcontents).1⟩

/-- The copy that is made of a lent payload before it is written over may fail. -/
theorem Owns.copyFails {contents : Instance} {payload : Payload} {halt : Halt}
    (hcontents : session.instanceIn? name = some contents)
    (htype : payload.type = contents.payload.type)
    (hcopied : contents.payload.copied = .error halt) :
    ((step (.getToMut name (.ok payload))).run session).1 = .error (.halted halt) := by
  obtain ⟨holding, hheld, rfl⟩ := howns.instanceIn?_eq_some_iff.mp hcontents
  obtain ⟨cell, hget, hholds⟩ := howns.exists_cell hheld
  obtain ⟨type, value⟩ := payload
  obtain rfl : type = holding.contents.payload.type := htype
  -- The payload that is to be written is there before the variable is looked at.
  have hcreate := run_onMachine_lift (Machine.create_apply ⟨_, value⟩ session.machine)
  have hmade := howns.accounts.create ⟨holding.contents.payload.type, value⟩ []
  have hcoherent := howns.coherent.advance session.machine.heap 1 [] []
  have hthere := hholds.mono (.advance session.machine session.machine.heap 1 [] [])
  have hsub : ∀ held ∈ some holding, held ∈ .loose ⟨session.machine.created, ⟨_, value⟩⟩ ::
      ([] ++ holdings.values.reduceOption) := fun held hsame =>
    List.mem_cons_of_mem _ (Owns.mem_accounts hheld held hsame)
  generalize session.machine.advance session.machine.heap 1 [] [] = made at *
  have hlent := Cell.get_of_extract
    (Cell.extract_of_held hmade hthere (hsub holding rfl)) (hthere.identity?_eq hcoherent)
  have hfound := Cell.instanceOf?_run_of_eq hmade hthere hsub rfl
  have hvariable : { session with machine := made }.cells.get? name = some cell := hget
  obtain ⟨after, hrun⟩ : ∃ after, (step (.getToMut name (.ok ⟨_, value⟩))).run session =
      (.error (.halted halt), after) := by
    apply Exists.intro
    refine (Action.run_bind_ok _ (run_read (.ok _) session)).trans ?_
    refine (Action.run_bind_ok _ hcreate).trans ?_
    apply Action.run_bind_error
    apply run_holding_halted
    refine (Action.run_bind_ok _ (run_valueOf_some hvariable)).trans ?_
    apply run_onMachine_error
    refine (Action.run_bind_ok _ hlent).trans ((Action.run_bind_ok _ hfound).trans ?_)
    exact Action.run_bind_error _ (Machine.clone_run_error hcopied made)
  rw [hrun]

theorem Owns.grantsAccess : session.GrantsAccess where
  lends _ _ hcontents := howns.lends hcontents
  converts _ _ type hget htype := howns.converts hget type htype
  tries := howns.tries
  foreign name _ hforeign := howns.foreign hforeign name
  copyFails _ _ _ _ hcontents htype hcopied := howns.copyFails hcontents htype hcopied
  unchanged _ haccess name := howns.unchanged_of_isAccess haccess name

end Owning

end Access

/-- In every state that a session reaches, with any registry at all in the place of the global one,
a variable lends its payload as the type that it holds, is converted to any other type as a coercion
converts it, and is left as it is. -/
theorem reached_sessions_grant_access (isFresh : Bool)
    (commands : List (Except Complaint Command))
    (hcommands : ∀ command, .ok command ∈ commands → command.BindsSessionFunctions)
    (global? : Option Registry) :
    let session := afterSteps isFresh commands
    GrantsAccess { session with machine := { session.machine with global? := global? } } := by
  obtain ⟨holdings, howns⟩ := (afterSteps_atRest isFresh hcommands).owns
  have hsettled :=
    (Machine.Settled.refl howns.coherent howns.accounts).withGlobal global?
  exact (howns.settled hsettled).owns.grantsAccess

/-- A session with a variable whose payload fails when it is copied. -/
def lendingSession : List (Except Complaint Command) :=
  [.ok (.new "bomb" (.ok (some ⟨.probe, ⟨"bomb", 0, .onClone⟩⟩)))]

/-- Nothing is registered, so the payload cannot be converted even to its own type. It is lent
nevertheless, and it stays when the copy fails that is to be written over. -/
theorem failing_copy_leaves_the_payload :
    (∀ command, .ok command ∈ lendingSession → command.BindsSessionFunctions) ∧
      let reached := afterSteps true lendingSession
      let session : Session :=
        { reached with machine := { reached.machine with global? := some .empty } }
      let bomb : Probe := ⟨"bomb", 0, .onClone⟩
      let writing := (step (.getToMut "bomb" (.ok ⟨.probe, ⟨"new", 0, .none⟩⟩))).run session
      (step (.get "bomb" (.ok .probe))).run session =
          (.ok (.access (.ok ⟨⟨.probe, bomb⟩, true, bomb.text⟩)), session) ∧
        writing.1 = .error (.halted (.panic ("clone bomb " ++ bomb.text))) ∧
        writing.2.instanceIn? "bomb" = some ⟨0, ⟨.probe, bomb⟩⟩ := by
  have hcommands : ∀ command, .ok command ∈ lendingSession → command.BindsSessionFunctions := by
    simp only [lendingSession, List.mem_cons, Except.ok.injEq, List.not_mem_nil, or_false]
    rintro command rfl
    trivial
  have hsession := reached_sessions_grant_access true lendingSession hcommands (some .empty)
  have hbomb : Session.instanceIn? { afterSteps true lendingSession with
      machine := { (afterSteps true lendingSession).machine with global? := some .empty } } "bomb" =
        some ⟨0, ⟨.probe, ⟨"bomb", 0, .onClone⟩⟩⟩ := rfl
  refine ⟨hcommands, ?_⟩
  dsimp only at hsession ⊢
  -- From here on the session is not evaluated any more.
  generalize ({ afterSteps true lendingSession with
    machine := { (afterSteps true lendingSession).machine with global? := some .empty } } :
      Session) = session at *
  refine ⟨(hsession.lends _ _ hbomb).1, hsession.copyFails _ _ _ _ hbomb rfl rfl, ?_⟩
  exact (hsession.unchanged _ rfl "bomb").2.trans hbomb

end Session

end DynamicValue
