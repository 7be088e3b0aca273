/-
# Running sessions

A session carries out its steps one after the other and clears its trace after each of them.
Clearing the trace changes neither the variables nor who holds what, so what each step keeps is kept
by the whole run, and the end of the session finds every variable in order.
-/

import DynamicValue.Proofs.Session.Holdings
import DynamicValue.Session.Run

namespace DynamicValue.Session

/-- The session when its trace has been taken. -/
def cleared (session : Session) : Session :=
  { session with machine := { session.machine with events := [], log := [] } }

/-- A step as it is given to a session: a command, or the complaint about an unreadable one. -/
def attempt : Except Complaint Command → SessionAction Answer
  | .ok command => step command
  | .error complaint => complain complaint

/-- The session after its steps. -/
def afterSteps (isFresh : Bool) (commands : List (Except Complaint Command)) : Session :=
  (commands.mapM report (start isFresh)).2

/-- What the session shows of its steps. -/
def reports (isFresh : Bool) (commands : List (Except Complaint Command)) : List StepReport :=
  (commands.mapM report (start isFresh)).1

variable {session after : Session} {command : Except Complaint Command}
  {outcome : Except Failure Answer}

/-- A report tells how a step ended and shows what it left. -/
theorem report_apply (hrun : (attempt command).run session = (outcome, after)) :
    report command session =
      (⟨outcome, after.cleared.views, after.machine.events, after.machine.log⟩, after.cleared) := by
  cases command with
  | ok command =>
      have hstep : (step command).run session = (outcome, after) := hrun
      unfold report
      simp only []
      rw [Action.bind_apply, hstep]
      rfl
  | error complaint =>
      cases hrun
      rfl

/-- What a step keeps, a session keeps. -/
theorem afterSteps_induction (invariant : Session → Prop) {isFresh : Bool}
    {commands : List (Except Complaint Command)} (hstart : invariant (start isFresh))
    (hstep : ∀ command ∈ commands, ∀ session, invariant session →
      invariant (((attempt command).run session).2).cleared) :
    invariant (afterSteps isFresh commands) := by
  unfold afterSteps
  generalize start isFresh = session at hstart
  induction commands generalizing session with
  | nil => exact hstart
  | cons command rest ih =>
      rw [List.mapM_cons, Action.bind_apply, Action.bind_apply, report_apply rfl]
      refine ih (fun command hmem => hstep command (List.mem_cons_of_mem _ hmem)) _ ?_
      exact hstep command List.mem_cons_self session hstart

namespace Owns

variable {holdings : Directory (Option Holding)} {pending : List Holding}

/-- Taking the trace leaves everything else as it is. -/
theorem cleared (howns : session.Owns holdings pending) : session.cleared.Owns holdings pending :=
  howns.onMachine (howns.coherent.congr rfl rfl) ⟨List.prefix_rfl, List.prefix_rfl⟩
    ⟨howns.accounts.instances, howns.accounts.boxes⟩

/-- Discarding all variables leaves nothing that is held. -/
theorem discardAll_run {cells : List Cell} (howns : session.Owns holdings [])
    (hcells : session.cells.values = cells) :
    ∃ machine, (Cell.discardAll cells).run session.machine = (.ok (), machine) ∧
      machine.created = session.machine.created ∧ machine.Accounts [] := by
  induction cells generalizing session holdings with
  | nil =>
      refine ⟨session.machine, rfl, rfl, ?_⟩
      have hempty : session.cells = .empty := Directory.ext (List.map_eq_nil_iff.mp hcells)
      have hnone : holdings = .empty := by
        refine Directory.eq_empty_iff.mpr fun name => ?_
        rw [howns.get?_eq_none_iff, hempty]
        rfl
      have haccounts := howns.accounts
      rwa [hnone] at haccounts
  | cons cell rest ih =>
      obtain ⟨⟨name, found⟩, entries, hentries, rfl, hrest⟩ := List.map_eq_cons_iff.mp hcells
      have hget : session.cells.get? name = some found := by
        rw [← Directory.mem_entries_iff, hentries]
        exact List.mem_cons_self
      obtain ⟨holding?, hheld, hholds⟩ := howns.exists_holding hget
      have herased := howns.erase name
      rw [hheld, Option.join_some, List.append_nil] at herased
      obtain ⟨heap, hdiscard, haccounts⟩ := Cell.discard_run herased.accounts hholds
      have hafter : Owns { session with machine := _, cells := session.cells.erase name }
          (holdings.erase name) [] :=
        herased.onMachine (howns.coherent.advance _ _ _ _) (.advance _ _ _ _ _) haccounts
      obtain ⟨machine, hrun, hcreated, hend⟩ := ih hafter
        (by rw [← hrest]; exact congrArg _ (Directory.entries_erase_of_cons hentries))
      exact ⟨machine,
        (Action.run_bind_ok (fun _ => Cell.discardAll rest) hdiscard).trans hrun, hcreated, hend⟩

/-- At the end of a session everything that was created has been destroyed, and nothing was created
at the end. -/
theorem finish_apply (howns : session.Owns holdings []) :
    (finish session).2.cells = .empty ∧
      (finish session).2.machine.created = session.machine.created ∧
      (finish session).2.machine.destroyed.Perm (List.range session.machine.created) := by
  obtain ⟨machine, hrun, hcreated, hend⟩ := howns.discardAll_run rfl
  have hfinish : finish session = (machine.events,
      { session with machine := { machine with events := [], log := [] }, cells := .empty }) := by
    have hprogram : (programAction (Cell.discardAll session.cells.values)).run
        { session with cells := .empty } =
        (.ok (), { session with machine := machine, cells := .empty }) := by
      unfold programAction
      rw [Action.run_within, hrun]
    have htrace : finish session =
        ((takeTrace ((programAction (Cell.discardAll session.cells.values)).run
          { session with cells := .empty }).2).1.1,
        (takeTrace ((programAction (Cell.discardAll session.cells.values)).run
          { session with cells := .empty }).2).2) := rfl
    rw [htrace, hprogram]
    rfl
  rw [hfinish]
  refine ⟨rfl, hcreated, ?_⟩
  rw [← hcreated]
  simpa using hend.instances

end Owns

end DynamicValue.Session
