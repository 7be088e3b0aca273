/-
# Sessions as a whole

A session carries out its steps one after the other; a step that fails does not stop it. After each
step the session shows all its variables and what happened since the step before. At the end it
discards what is left, in the order of the names.
-/

import DynamicValue.Session.Step

namespace DynamicValue

/-- What a session shows of a variable. -/
structure VariableView where
  name : String
  typeName : String
  text : String

/-- What a session shows after a step. -/
structure StepReport where
  outcome : Except Failure Answer
  views : List VariableView
  events : List Event
  log : List LogLine

/-- What a session shows when it is over: a report of each step and the events at the end. -/
structure SessionReport where
  steps : List StepReport
  endEvents : List Event

namespace Session

/-- The variables as they are now. -/
def views (session : Session) : List VariableView :=
  session.cells.entries.map fun (name, cell) =>
    ⟨name, cell.typeName, (cell.text.run session.machine).1.toOption.getD ""⟩

/-- Takes the events and the log lines since they were last taken. -/
def takeTrace : StateM Session (List Event × List LogLine) := do
  let session ← get
  set { session with machine := { session.machine with events := [], log := [] } }
  pure (session.machine.events, session.machine.log)

/-- Carries out a step and reports on it. A step may be unreadable, which is its failure. -/
def report (command : Except Complaint Command) : StateM Session StepReport := do
  let outcome ← match command with
    | .ok command => (step command).run
    | .error complaint => pure (.error (.complaint complaint))
  let (events, log) ← takeTrace
  return ⟨outcome, (← get).views, events, log⟩

/-- Discards all variables in the order of their names. -/
def finish : StateM Session (List Event) := do
  let cells := (← get).cells.values
  modify fun session => { session with cells := .empty }
  let _ ← (programAction (Cell.discardAll cells)).run
  return (← takeTrace).1

/-- A session from its start to its end. -/
def run (isFresh : Bool) (commands : List (Except Complaint Command)) : SessionReport :=
  ((do return ⟨← commands.mapM report, ← finish⟩ : StateM Session SessionReport).run
    (start isFresh)).1

end Session

end DynamicValue
