/-
# The container refines the typed store

Everything that can be seen of a session of container commands is what the typed store shows: how
each step ends, the names and texts of the variables and the events after it, and of each variable
whether it is empty, its identity, the types it holds, its value under each type, its text, and the
payload that is moved out of it.

The last section adds what the store cannot speak about, the place of a payload: an assignment that
leaves a variable with the type it had leaves the payload where it was.
-/

import DynamicValue.Proofs.Session.Run
import DynamicValue.Proofs.Session.Simulation
import DynamicValue.Proofs.Session.StoreFrame

namespace DynamicValue

/-- Every observation of a dynamic value is that of a value of the typed store. -/
structure Cell.LooksLike (machine : Machine) (cell : Cell) (value? : Option Payload) : Prop where
  isEmpty : cell.isEmpty = value?.isNone
  identity : some cell.identity =
    value?.elim (some .null) fun payload => machine.identity? payload.type
  identityType : cell.identity.type? = value?.map Payload.type
  holds : ∀ type, (cell.holds type).run machine =
    (.ok (decide (value?.map Payload.type = some type)), machine)
  valueOf : ∀ type, (cell.valueOf? type).run machine =
    (.ok (value?.bind fun payload => payload.as? type), machine)
  text : cell.text.run machine = (.ok (value?.elim "" Payload.text), machine)
  unwrapped : (cell.intoInstance?.run machine).1.map (Option.map Instance.payload) = .ok value?

/-- The variable that an assignment changes. -/
def ContainerCommand.assignee? : ContainerCommand → Option String
  | assign _ target => some target
  | assignValue name _ => some name
  | _ => none

/-- A report without its log lines. -/
def StepReport.withoutLog (report : StepReport) : StepReport := { report with log := [] }

namespace Session

variable {session : Session} {holdings : Directory (Option Holding)}

/-! ## What a variable looks like -/

theorem Owns.looksLike (howns : session.Owns holdings []) {name : String} {cell : Cell}
    {holding? : Option Holding} (hheld : holdings.get? name = some holding?)
    (hholds : cell.Holds session.machine holding?) :
    cell.LooksLike session.machine (holding?.map Holding.payload) where
  isEmpty := by
    rw [hholds.isEmpty_eq]
    cases holding? <;> rfl
  identity := by
    cases holding? with
    | none => rw [hholds.eq_empty]; rfl
    | some holding => exact (hholds.identity?_eq howns.coherent).symm
  identityType := by
    rw [hholds.identity_type?_eq howns.coherent]
    cases holding? <;> rfl
  holds type := by
    rw [Cell.holds_run howns.accounts hholds (Owns.mem_accounts hheld)]
    cases holding? <;> simp
  valueOf type := by
    rw [Cell.valueOf?_run howns.accounts hholds (Owns.mem_accounts hheld)]
    cases holding? <;> rfl
  text := by
    rw [Cell.text_run howns.accounts hholds (Owns.mem_accounts hheld)]
    cases holding? <;> rfl
  unwrapped := by
    obtain ⟨heap, hinto, -⟩ := Cell.intoInstance?_run (howns.accounts.perm (held_perm hheld)) hholds
    rw [hinto]
    cases holding? <;> rfl

/-- Every variable looks like that of the store. -/
theorem Owns.looks (howns : session.Owns holdings []) (name : String) :
    Option.Rel (Cell.LooksLike session.machine) (session.cells.get? name)
      ((contentsOf holdings).get? name) := by
  cases hget : session.cells.get? name with
  | none =>
      rw [contentsOf_get?_none (howns.get?_eq_none_iff.mpr hget)]
      exact .none
  | some cell =>
      obtain ⟨holding?, hheld, hholds⟩ := howns.exists_holding hget
      rw [contentsOf_get?_some hheld]
      exact .some (howns.looksLike hheld hholds)

/-- A session shows the variables that the typed store shows. -/
theorem Owns.views_eq (howns : session.Owns holdings []) (events : List Event) :
    session.views = TypedStore.views ⟨contentsOf holdings, events⟩ := by
  have hshown : session.cells.map
      (fun cell => (cell.typeName, (cell.text.run session.machine).1.toOption.getD "")) =
      (contentsOf holdings).map fun value? =>
        (value?.elim "null" fun payload => payload.type.name, value?.elim "" Payload.text) := by
    refine Directory.ext_get? fun name => ?_
    rw [Directory.get?_map, Directory.get?_map, contentsOf_get?]
    cases hget : session.cells.get? name with
    | none => rw [howns.get?_eq_none_iff.mpr hget]; rfl
    | some cell =>
        obtain ⟨holding?, hheld, hholds⟩ := howns.exists_holding hget
        rw [hheld, Option.map_some, (howns.looksLike hheld hholds).text,
          hholds.typeName_eq howns.coherent]
        cases holding? <;> rfl
  have hentries := congrArg (fun shown : Directory (String × String) =>
    shown.entries.map fun (name, typeName, text) => VariableView.mk name typeName text) hshown
  simp only [Directory.map, List.map_map] at hentries
  exact hentries

/-! ## Whole runs -/

/-- An unreadable step fails on both sides in the same way. -/
theorem attempt_refines (howns : session.Owns holdings [])
    (command : Except Complaint ContainerCommand) :
    Refines ((attempt (command.map ContainerCommand.command)).run session)
      ((TypedStore.attempt command).run ⟨contentsOf holdings, session.machine.events⟩) := by
  cases command with
  | ok command => exact step_refines howns command
  | error complaint => exact .error howns _

/-- A report of a step is that of the typed store, but for the log. -/
theorem report_refines (howns : session.Owns holdings [])
    (command : Except Complaint ContainerCommand) :
    ∃ holdings', (report (command.map ContainerCommand.command) session).2.Owns holdings' [] ∧
      TypedStore.report command ⟨contentsOf holdings, session.machine.events⟩ =
        ((report (command.map ContainerCommand.command) session).1.withoutLog,
          ⟨contentsOf holdings',
            (report (command.map ContainerCommand.command) session).2.machine.events⟩) := by
  obtain ⟨houtcome, holdings', howns', hstore⟩ := attempt_refines howns command
  rcases hconcrete : (attempt (command.map ContainerCommand.command)).run session with
    ⟨outcome, after⟩
  rcases hideal :
    (TypedStore.attempt command).run ⟨contentsOf holdings, session.machine.events⟩ with
    ⟨outcome', store⟩
  rw [hconcrete] at houtcome howns' hstore
  rw [hideal] at houtcome hstore
  obtain rfl : outcome = outcome' := houtcome
  obtain rfl : store = ⟨contentsOf holdings', after.machine.events⟩ := hstore
  have hcleared : after.cleared.Owns holdings' [] := howns'.cleared
  rw [report_apply hconcrete, TypedStore.report_apply hideal, hcleared.views_eq []]
  exact ⟨holdings', hcleared, rfl⟩

/-- A session of container commands shows what the typed store shows, and its variables look like
those of the store afterwards. -/
theorem reports_refine (howns : session.Owns holdings [])
    (commands : List (Except Complaint ContainerCommand)) :
    ∃ holdings', ((commands.map (Except.map ContainerCommand.command)).mapM report session).2.Owns
        holdings' [] ∧
      commands.mapM TypedStore.report ⟨contentsOf holdings, session.machine.events⟩ =
        (((commands.map (Except.map ContainerCommand.command)).mapM report session).1.map
          StepReport.withoutLog,
          ⟨contentsOf holdings', ((commands.map (Except.map ContainerCommand.command)).mapM report
            session).2.machine.events⟩) := by
  induction commands generalizing session holdings with
  | nil => exact ⟨holdings, howns, rfl⟩
  | cons command rest ih =>
      obtain ⟨holdings', howns', hreport⟩ := report_refines howns command
      obtain ⟨final, hfinal, hreports⟩ := ih howns'
      rw [List.map_cons, List.mapM_cons, List.mapM_cons]
      refine ⟨final, hfinal, ?_⟩
      rw [Action.bind_apply, Action.bind_apply, hreport, hreports]
      rfl

/-! ## Assignments -/

/-- An assignment that leaves a variable with the type that it had leaves its payload in its place,
and it reports exactly whether the type is the same. -/
theorem assignment_place (howns : session.Owns holdings []) {command : ContainerCommand}
    {name : String} {before : Cell} (hassign : command.assignee? = some name)
    (hget : session.cells.get? name = some before) :
    ∃ after, ((step command.command).run session).2.cells.get? name = some after ∧
      (after.identity.type? = before.identity.type? → after.place = before.place) ∧
      ∀ reused, ((step command.command).run session).1 = .ok (.reuse reused) →
        reused = decide (after.identity.type? = before.identity.type?) := by
  obtain ⟨holding?, hheld, hholds⟩ := howns.exists_holding hget
  cases command with
  | assign source target =>
      obtain rfl : target = name := Option.some.inj hassign
      cases hsource : session.cells.get? source with
      | none =>
          have hrun : (step (.assign source target)).run session =
              (.error (.complaint (.noVariable source)), session) :=
            Action.run_bind_error _ (run_valueOf_none hsource)
          rw [ContainerCommand.command, hrun]
          exact ⟨before, hget, fun _ => rfl, nofun⟩
      | some other =>
          obtain ⟨theirs?, htheirs, hother⟩ := howns.exists_holding hsource
          have hrun := Action.run_bind_ok (fun other => tracked target
            (if source = target then pure () else Cell.assign other)) (run_valueOf_some hsource)
          rw [ContainerCommand.command, step, assign, hrun]
          exact (assign_variable_changes howns hheld hholds htheirs hother).tracked_place howns hget
            hheld
  | assignValue target payload =>
      obtain rfl : target = name := Option.some.inj hassign
      rw [ContainerCommand.command, step, assignValue, Action.run_bind_ok _ (run_valueOf_some hget)]
      cases payload with
      | error complaint => exact ⟨before, hget, fun _ => rfl, nofun⟩
      | ok payload =>
          rw [Action.run_bind_ok _ (run_read _ _), Action.run_bind_ok _
            (run_onMachine_lift (Machine.create_apply payload session.machine))]
          exact (assignValue_variable_changes howns hheld hholds payload).tracked_place
            (create_owns howns payload) hget hheld
  | _ => cases hassign

/-! ## The refinement -/

/-- A session of container commands, as seen from outside, is a run of the typed store. The steps
end in the same way, show the same variables and report the same events, none of them with a fault;
each variable looks like that of the store afterwards, and can be discarded at the end. From there
on, no command changes how a variable looks that it does not write, and an assignment leaves a
payload in its place and says so if and only if the variable has a value of the same type as before,
or none as before. -/
theorem container_session_refines_typed_store (isFresh : Bool)
    (commands : List (Except Complaint ContainerCommand)) :
    let steps := commands.map (Except.map ContainerCommand.command)
    let session := afterSteps isFresh steps
    let ideal := commands.mapM TypedStore.report TypedStore.empty
    (reports isFresh steps).map StepReport.withoutLog = ideal.1 ∧
    (∀ shown ∈ reports isFresh steps, ∀ fault, shown.outcome ≠ .error (.halted (.fault fault))) ∧
    (∀ name, Option.Rel (Cell.LooksLike session.machine) (session.cells.get? name)
      (ideal.2.contents.get? name)) ∧
    ((Cell.discardAll session.cells.values).run session.machine).1 = .ok () ∧
    (∀ command : ContainerCommand, ∀ other ∉ command.written,
      let after := ((step command.command).run session).2
      Option.Rel (Cell.LooksLike after.machine) (after.cells.get? other)
        (ideal.2.contents.get? other)) ∧
    (∀ (command : ContainerCommand) (name : String) (before : Cell),
      command.assignee? = some name → session.cells.get? name = some before →
      ∃ after, ((step command.command).run session).2.cells.get? name = some after ∧
        (after.identity.type? = before.identity.type? → after.place = before.place) ∧
        ∀ reused, ((step command.command).run session).1 = .ok (.reuse reused) →
          reused = decide (after.identity.type? = before.identity.type?)) := by
  intro steps session ideal
  obtain ⟨holdings, howns, hideal⟩ := reports_refine (.start isFresh) commands
  have howns : session.Owns holdings [] := howns
  have hideal : ideal = ((reports isFresh steps).map StepReport.withoutLog,
      ⟨contentsOf holdings, session.machine.events⟩) := hideal
  obtain ⟨machine, hdiscard, -⟩ := howns.discardAll_run rfl
  refine ⟨by rw [hideal], fun shown hmem fault => ?_, fun name => ?_, by rw [hdiscard],
    fun command other hother => ?_, fun command name before hassign hget => ?_⟩
  · have hsound := TypedStore.reports_sound commands .empty shown.withoutLog
    change shown.withoutLog ∈ ideal.1 → _ at hsound
    rw [hideal] at hsound
    exact hsound (List.mem_map_of_mem hmem) fault
  · rw [hideal]
    exact howns.looks name
  · obtain ⟨-, holdings', howns', hstore⟩ := step_refines howns command
    have hframe := (TypedStore.step_confined command).frame
      ⟨contentsOf holdings, session.machine.events⟩ other hother
    rw [hstore] at hframe
    rw [hideal, ← hframe]
    exact howns'.looks other
  · exact assignment_place howns hassign hget

end Session

end DynamicValue
