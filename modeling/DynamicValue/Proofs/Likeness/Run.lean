/-
# The order in which types are used first

Steps that ask for identities, tables or counts, or that make the global registry, change nothing
but what the program knows about types. So a session that such steps were put in front of starts
from a state that is like that of the session without them, and goes on in the same way: its results
and its failures, its variables and its events are the same, up to the numbers that are handed out
in the order of first use.
-/

import DynamicValue.Proofs.Likeness.Step
import DynamicValue.Proofs.Session.Run

namespace DynamicValue

/-- The steps that ask for identities, tables and counts, or that look into a registry. The global
registry is made for them if it has not been made yet. -/
def Command.isQuery : Command → Bool
  | identity .. | sameIdentity .. | counts | table .. | contains .. | registrySize .. => true
  | _ => false

namespace Session

variable {α β : Type} {first second after : Session} {commands : List (Except Complaint Command)}

/-! ## Reports on sessions that are alike -/

/-- Taking the trace leaves sessions alike. -/
theorem Alike.cleared (halike : first.Alike second) : first.cleared.Alike second.cleared := by
  have hcoherent : first.cleared.machine.Coherent := halike.machine.coherent.congr rfl rfl
  have hcoherent' : second.cleared.machine.Coherent := halike.machine.otherCoherent.congr rfl rfl
  have hextends : first.machine.Extends first.cleared.machine :=
    ⟨List.prefix_rfl, List.prefix_rfl⟩
  have hextends' : second.machine.Extends second.cleared.machine :=
    ⟨List.prefix_rfl, List.prefix_rfl⟩
  have hmachines : first.cleared.machine.Alike second.cleared.machine := {
    coherent := hcoherent
    otherCoherent := hcoherent'
    heap := halike.machine.heap
    created := halike.machine.created
    destroyed := halike.machine.destroyed
    events := rfl
    global := fun registry hglobal => by
      obtain ⟨counterpart, hcounterpart, hregistries⟩ := halike.machine.global registry hglobal
      exact ⟨counterpart, hcounterpart, hregistries.mono hextends hcoherent hextends' hcoherent'⟩
    ahead := fun hglobal registry hregistry =>
      (halike.machine.ahead hglobal registry hregistry).mono hextends' hcoherent' }
  exact (halike.withMachine ⟨hmachines, hextends, hextends'⟩).alike

/-- Sessions that are alike show the same of their variables. -/
theorem Alike.views_eq (halike : first.Alike second) : first.views = second.views := by
  unfold views
  rw [← List.forall₂_eq_eq_eq, List.forall₂_map_left_iff, List.forall₂_map_right_iff]
  refine (Directory.forall₂_entries halike.cells).imp ?_
  rintro ⟨name, cell⟩ ⟨_, cell'⟩ ⟨rfl, hcells⟩
  have htext := (Cell.text_agrees halike.machine hcells).2
  have htexts : (cell.text.run first.machine).1 = (cell'.text.run second.machine).1 := by
    generalize (cell.text.run first.machine).1 = text at htext ⊢
    generalize (cell'.text.run second.machine).1 = text' at htext ⊢
    cases htext with
    | ok hvalues => exact congrArg Except.ok hvalues
    | error hfailures => exact congrArg Except.error hfailures
  simp only [hcells.typeName_eq halike.machine, htexts]

theorem attempt_agrees (halike : first.Alike second) {command : Except Complaint Command}
    (hbinds : ∀ given, command = .ok given → given.BindsSessionFunctions) :
    Agree first second (attempt command) (attempt command) AnswersAlike := by
  cases command with
  | ok command => exact step_agrees halike (hbinds command rfl)
  | error complaint => exact .throw halike _

/-- A step leaves sessions alike, and the reports on it differ in nothing but numbers and log
lines. -/
theorem report_alike (halike : first.Alike second) {command : Except Complaint Command}
    (hbinds : ∀ given, command = .ok given → given.BindsSessionFunctions) :
    (report command first).1.anonymous = (report command second).1.anonymous ∧
      (report command first).2.Alike (report command second).2 := by
  obtain ⟨hlater, hends⟩ := attempt_agrees halike hbinds
  rcases hfirst : (attempt command).run first with ⟨outcome, after⟩
  rcases hsecond : (attempt command).run second with ⟨outcome', after'⟩
  rw [hfirst, hsecond] at hlater hends
  have hafter : after.Alike after' := hlater.alike
  have houtcomes : outcome.map Answer.anonymous = outcome'.map Answer.anonymous := by
    cases hends with
    | ok hanswers => exact congrArg Except.ok hanswers
    | error hfailures => exact congrArg Except.error hfailures
  rw [report_apply hfirst, report_apply hsecond]
  refine ⟨?_, hafter.cleared⟩
  simp only [StepReport.anonymous, houtcomes, hafter.cleared.views_eq, hafter.machine.events]

theorem reports_alike (halike : first.Alike second)
    (hbinds : ∀ command, .ok command ∈ commands → command.BindsSessionFunctions) :
    (commands.mapM report first).1.map StepReport.anonymous =
        (commands.mapM report second).1.map StepReport.anonymous ∧
      (commands.mapM report first).2.Alike (commands.mapM report second).2 := by
  induction commands generalizing first second with
  | nil => exact ⟨rfl, halike⟩
  | cons command rest ih =>
      obtain ⟨hreports, hafter⟩ := report_alike halike fun given hgiven =>
        hbinds given (hgiven ▸ List.mem_cons_self)
      obtain ⟨hrest, hend⟩ := ih hafter fun given hmem => hbinds given (List.mem_cons_of_mem _ hmem)
      rw [List.mapM_cons]
      exact ⟨congrArg₂ List.cons hreports hrest, hend⟩

/-- The ends of sessions that are alike report the same. -/
theorem finish_alike (halike : first.Alike second) : (finish first).1 = (finish second).1 := by
  have hvalues : List.Forall₂ (Cell.Alike first.machine second.machine) first.cells.values
      second.cells.values := by
    unfold Directory.values
    rw [List.forall₂_map_left_iff, List.forall₂_map_right_iff]
    exact (Directory.forall₂_entries halike.cells).imp fun _ _ hentries => hentries.2
  exact (Cell.discardAll_agrees halike.machine hvalues).1.alike.events.symm

/-! ## Steps that only ask -/

/-- A part of a step that does not matter to a session that waits meanwhile: the sessions stay
alike. -/
def Unnoticed (waiting : Session) (action : SessionAction α) : Prop :=
  ∀ session, waiting.Alike session → waiting.Alike (action.run session).2

namespace Unnoticed

variable {waiting : Session} {action : SessionAction α}

theorem pure (value : α) : Unnoticed waiting (Pure.pure value) := fun _ halike => halike

theorem throw (failure : Failure) : Unnoticed waiting (throw failure : SessionAction α) :=
  fun _ halike => halike

theorem looking : Unnoticed waiting get := fun _ halike => halike

theorem bind {next : α → SessionAction β} (haction : Unnoticed waiting action)
    (hnext : ∀ value, Unnoticed waiting (next value)) : Unnoticed waiting (action >>= next) := by
  intro session halike
  have hafter := haction session halike
  rcases hrun : action.run session with ⟨outcome, after⟩
  rw [hrun] at hafter
  cases outcome with
  | error failure =>
      rw [Action.run_bind_error _ hrun]
      exact hafter
  | ok value =>
      rw [Action.run_bind_ok _ hrun]
      exact hnext value after hafter

theorem reading (reading : Reading α) : Unnoticed waiting (read reading) := by
  cases reading with
  | error complaint => exact throw _
  | ok value => exact pure value

theorem orComplain (complaint : Complaint) (found? : Option α) :
    Unnoticed waiting (orComplain complaint found?) := by
  cases found? with
  | none => exact throw _
  | some value => exact pure value

/-- A part of the program that changes nothing but what the program knows. -/
theorem onMachine {part : StateM Machine α}
    (hpart : ∀ machine, waiting.machine.Alike machine →
      Later waiting.machine machine waiting.machine (part machine).2) :
    Unnoticed waiting (onMachine part) := by
  intro session halike
  have hrun : (Session.onMachine part).run session =
      (.ok (part session.machine).1, { session with machine := (part session.machine).2 }) :=
    run_onMachine_lift rfl
  rw [hrun]
  exact (halike.withMachine (hpart session.machine halike.machine)).alike

theorem learning {part : StateM Machine α} (hpart : Machine.OnlyLearns part) :
    Unnoticed waiting (Session.onMachine part) := by
  refine onMachine fun machine halike => ?_
  obtain ⟨hlearns, hafter⟩ := hpart machine halike.otherCoherent
  exact halike.learn (.refl _) halike.coherent hlearns hafter

theorem identityOf (type? : Reading (Option ValueType)) :
    Unnoticed waiting (identityOf type?) := by
  refine (reading type?).bind fun type? => learning ?_
  cases type? with
  | none => exact .pure _
  | some type => exact .identify type

theorem requireRegistry (name : RegistryName) : Unnoticed waiting (requireRegistry name) := by
  cases name with
  | global => exact pure ()
  | named name => exact looking.bind fun session => (orComplain _ _).bind fun _ => pure ()

/-- The global registry may be made long before the waiting session needs it. -/
theorem registry (hglobal : waiting.machine.global? = none) (name : RegistryName) :
    Unnoticed waiting (registry name) := by
  cases name with
  | named name => exact looking.bind fun session => orComplain _ _
  | global =>
      refine onMachine fun machine halike => ?_
      cases hother : machine.global? with
      | some registry =>
          rw [Machine.globalRegistry_of_some hother]
          exact .refl halike
      | none =>
          rw [Machine.globalRegistry_of_none hother]
          obtain ⟨hlearns, hafter⟩ :=
            Machine.OnlyLearns.withBuiltIns machine halike.otherCoherent
          have hlater := halike.learn (.refl _) halike.coherent hlearns hafter
          exact hlater.trans (hlater.alike.ahead_of_none hglobal
            (.withBuiltIns halike.otherCoherent))

/-- Steps that only ask do not matter to a session that waits. -/
theorem query (hglobal : waiting.machine.global? = none) {command : Command}
    (hquery : command.isQuery) : Unnoticed waiting (step command) := by
  cases command with
  | identity type? => exact (identityOf type?).bind fun _ => pure _
  | sameIdentity firstType secondType =>
      exact (identityOf firstType).bind fun _ => (identityOf secondType).bind fun _ => pure _
  | counts =>
      refine looking.bind fun session => ?_
      split
      · exact throw _
      · exact pure _
  | table type =>
      refine (reading type).bind fun type => ?_
      exact (learning (.tableFor type)).bind fun _ =>
        (learning (.tableFor type)).bind fun _ => pure _
  | contains name source dest =>
      exact (requireRegistry name).bind fun _ => (identityOf source).bind fun _ =>
        (identityOf dest).bind fun _ => (registry hglobal name).bind fun _ => pure _
  | registrySize name => exact (registry hglobal name).bind fun _ => pure _
  | _ => cases hquery

end Unnoticed

/-- A session that such steps were put in front of is like the one without them. -/
theorem mapM_query_alike {waiting : Session} {queries : List (Except Complaint Command)}
    (hglobal : waiting.machine.global? = none) (hcleared : waiting.cleared = waiting)
    (hqueries : ∀ command, .ok command ∈ queries → command.isQuery)
    {session : Session} (halike : waiting.Alike session) :
    waiting.Alike (queries.mapM report session).2 := by
  induction queries generalizing session with
  | nil => exact halike
  | cons command rest ih =>
      have hafter : waiting.Alike (report command session).2 := by
        have hattempt : Unnoticed waiting (attempt command) := by
          cases command with
          | error complaint => exact .throw _
          | ok command => exact .query hglobal (hqueries command List.mem_cons_self)
        rw [report_apply rfl, ← hcleared]
        exact (hattempt session halike).cleared
      rw [List.mapM_cons]
      exact ih (fun given hmem => hqueries given (List.mem_cons_of_mem _ hmem)) hafter

/-! ## Whole sessions -/

theorem Alike.start (isFresh : Bool) : (start isFresh).Alike (start isFresh) where
  machine := {
    coherent := .fresh
    otherCoherent := .fresh
    heap := rfl
    created := rfl
    destroyed := rfl
    events := rfl
    global := fun _ hglobal => by cases hglobal
    ahead := fun _ _ hglobal => by cases hglobal }
  cells _ := .none
  registries _ := .none
  environments := rfl
  functions _ _ hfound := by cases hfound
  isFresh := rfl

/-- The steps of a session that other steps were put in front of. -/
theorem mapM_report_append (queries commands : List (Except Complaint Command))
    (session : Session) :
    (queries ++ commands).mapM report session =
      ((queries.mapM report session).1 ++ (commands.mapM report (queries.mapM report session).2).1,
        (commands.mapM report (queries.mapM report session).2).2) := by
  rw [List.mapM_append]
  rfl

/-- A session that goes on has been at the state where it goes on. -/
theorem afterSteps_append (isFresh : Bool) (commands more : List (Except Complaint Command)) :
    afterSteps isFresh (commands ++ more) = (more.mapM report (afterSteps isFresh commands)).2 := by
  unfold afterSteps
  rw [mapM_report_append]

theorem length_mapM_report (commands : List (Except Complaint Command)) (session : Session) :
    (commands.mapM report session).1.length = commands.length := by
  induction commands generalizing session with
  | nil => rfl
  | cons command rest ih =>
      rw [List.mapM_cons]
      exact congrArg (· + 1) (ih _)

/-- The results of a session do not depend on the order in which types are used first. Steps that
only ask for identities, tables or counts, or that make the global registry, may be put in front of
any session: its own steps have the same results, show the same variables and report the same
events, up to the numbers of identities and tables, the counts of them and the log lines. The
states that are reached and the events at the end are the same in this sense too. -/
theorem results_independent_of_first_use (isFresh : Bool)
    (queries commands : List (Except Complaint Command))
    (hqueries : ∀ command, .ok command ∈ queries → command.isQuery)
    (hcommands : ∀ command, .ok command ∈ commands → command.BindsSessionFunctions) :
    let plain := run isFresh commands
    let extended := run isFresh (queries ++ commands)
    (extended.steps.drop queries.length).map StepReport.anonymous =
        plain.steps.map StepReport.anonymous ∧
      extended.endEvents = plain.endEvents ∧
      (afterSteps isFresh commands).Alike (afterSteps isFresh (queries ++ commands)) := by
  have hprepared := mapM_query_alike rfl rfl hqueries (Alike.start isFresh)
  obtain ⟨hreports, hafter⟩ := reports_alike hprepared hcommands
  have hsteps : (run isFresh (queries ++ commands)).steps =
      ((queries ++ commands).mapM report (start isFresh)).1 := rfl
  have hend : (run isFresh (queries ++ commands)).endEvents =
      (finish ((queries ++ commands).mapM report (start isFresh)).2).1 := rfl
  have hstate : afterSteps isFresh (queries ++ commands) =
      ((queries ++ commands).mapM report (start isFresh)).2 := rfl
  rw [mapM_report_append] at hsteps hend hstate
  intro plain extended
  refine ⟨?_, ?_, ?_⟩
  · rw [hsteps, List.drop_left' (length_mapM_report queries _)]
    exact hreports.symm
  · rw [hend]
    exact (finish_alike hafter).symm
  · rw [hstate]
    exact hafter

/-- Steps that use two types and the global registry. -/
def askingSteps : List (Except Complaint Command) :=
  [.ok (.table (.ok .probe)),
    .ok (.contains .global (.ok (some .boolean)) (.ok (some .text))),
    .ok .counts]

/-- A session that calls a function on a copy of a variable and keeps the result. -/
def callingSession : List (Except Complaint Command) :=
  [.ok (.new "number" (.ok (some ⟨.text, "7"⟩))),
    .ok (.newEnvironment "functions"),
    .ok (.load "functions" .value),
    .ok (.call "functions" "toint" [.ok (.copyOf "number")] (some "result"))]

theorem asking_first_changes_no_results :
    (∀ command, .ok command ∈ askingSteps → command.isQuery) ∧
      (∀ command, .ok command ∈ callingSession → command.BindsSessionFunctions) ∧
      (((run true (askingSteps ++ callingSession)).steps.drop 3).map StepReport.anonymous =
        (run true callingSession).steps.map StepReport.anonymous) := by
  have hqueries : ∀ command, .ok command ∈ askingSteps → command.isQuery := by
    simp [askingSteps, Command.isQuery]
  have hvalue : ∀ entry ∈ FunctionModule.value.exports, entry.2 ∈ Native.ofSessions :=
    fun entry hmem => List.mem_map_of_mem
      (List.mem_append_left _ (List.mem_append_right Native.named hmem))
  have hcommands : ∀ command, .ok command ∈ callingSession → command.BindsSessionFunctions := by
    simp only [callingSession, List.mem_cons, Except.ok.injEq, List.not_mem_nil, or_false]
    rintro command (rfl | rfl | rfl | rfl)
    · trivial
    · trivial
    · exact hvalue
    · trivial
  exact ⟨hqueries, hcommands,
    (results_independent_of_first_use true askingSteps callingSession hqueries hcommands).1⟩

end Session

end DynamicValue
