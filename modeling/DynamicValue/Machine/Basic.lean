/-
# The state of a running program

A program that works with dynamic values has handed out identities and built operation tables, has a
heap, has created and destroyed payloads, and may have made the global registry. Its trace is what
it reported and logged.

An action changes such a state and ends with a result or with a halt. A halt keeps the changes made
before it, as a panic does.
-/

import DynamicValue.Registry.Basic
import DynamicValue.Trace.Log

namespace DynamicValue

/-- A payload that lives somewhere in the program. The serial number tells it from all others. -/
structure Instance where
  serial : Nat
  payload : Payload

/-- The operations on the values of a type, kept once for each type. Two tables are the same when
their numbers are. -/
structure OperationTable where
  number : Nat
  type : ValueType
  identity : TypeIdentity
  deriving DecidableEq

namespace OperationTable

/-- Whether values of the table's type are stored in the slot itself. -/
def isInline (table : OperationTable) : Bool := table.type.isInline

/-- Whether two tables are one and the same. -/
def same (first second : OperationTable) : Bool := first.number = second.number

/-- The diagnostic form of a table. -/
def debugText (table : OperationTable) : String :=
  Text.record "OpTable"
    [("type_identity", table.identity.debugText), ("inline", boolText table.isInline)]

end OperationTable

/-- A use of memory that no operation may make. -/
inductive Fault
  | uninitialised
  | dangling
  | wrongType
  deriving DecidableEq, Repr

/-- Why an action ended early: a panic with its message, a fault, or nested conversions without end.
-/
inductive Halt
  | panic (message : String)
  | fault (fault : Fault)
  | exhausted
  deriving DecidableEq, Repr

/-- The state of a running program. -/
structure Machine where
  identities : List TypeIdentity
  tables : List OperationTable
  heap : List (Option Instance)
  created : Nat
  destroyed : List Nat
  events : List Event
  log : List LogLine
  global? : Option Registry

namespace Machine

/-- The state of a program that has not used any type yet. -/
def fresh : Machine := ⟨[], [], [], 0, [], [], [], none⟩

end Machine

/-- An action on a state: it ends with a result or with a halt, in a changed state. -/
abbrev Action (σ : Type) : Type → Type := ExceptT Halt (StateM σ)

namespace Action

variable {σ τ α : Type}

/-- The action that runs on a part of a larger state. -/
def within (part : σ → τ) (replace : σ → τ → σ) (action : Action τ α) : Action σ α :=
  ExceptT.mk fun state =>
    let (outcome, changed) := action.run (part state)
    (outcome, replace state changed)

/-- The action that has a local value of its own while it runs. If it halts, what the local value is
then is given up; if not, the caller gets it. -/
def withLocal (start : τ) (giveUp : τ → Action σ Unit) (action : Action (σ × τ) α) :
    Action σ (α × τ) :=
  ExceptT.mk do
    let (outcome, state, final) := action.run (← get, start)
    set state
    match outcome with
    | .ok result => pure (.ok (result, final))
    | .error halt =>
      let _ ← (giveUp final).run
      pure (.error halt)

/-- An action whose halt is followed by a clean-up before it goes on. The clean-up runs while the
halt unwinds and cannot halt itself. -/
def unwinding (action : Action σ α) (cleanUp : Action σ Unit) : Action σ α :=
  ExceptT.mk do
    match ← action.run with
    | .ok result => pure (.ok result)
    | .error halt =>
      let _ ← cleanUp.run
      pure (.error halt)

/-- The end of an action with a panic. -/
def panic (message : String) : Action σ α := throw (.panic message)

/-- The end of an action with a fault. -/
def fault (fault : Fault) : Action σ α := throw (.fault fault)

end Action

end DynamicValue
