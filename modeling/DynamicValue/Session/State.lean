/-
# The state of a session

A session consists of the state of its program and of named variables, registries and environments.
A session in a fresh program may also change the global registry and look at the numbers of
identities, which depend on everything that the program did before.
-/

import DynamicValue.Cell.Assignment
import DynamicValue.Session.Answer
import DynamicValue.Session.Command

namespace DynamicValue

/-- The state of a session. -/
structure Session where
  machine : Machine
  cells : Directory Cell
  registries : Directory Registry
  environments : Directory Environment
  isFresh : Bool

/-- A step of a session: it gives a result or fails, in a changed state. -/
abbrev SessionAction : Type → Type := ExceptT Failure (StateM Session)

namespace Session

variable {α : Type}

/-- The start of a session. -/
def start (isFresh : Bool) : Session := ⟨.fresh, .empty, .empty, .empty, isFresh⟩

/-- Fails with a complaint. -/
def complain (complaint : Complaint) : SessionAction α := throw (.complaint complaint)

/-- The entry of a directory, or a complaint. -/
def orComplain (complaint : Complaint) : Option α → SessionAction α
  | some value => pure value
  | none => complain complaint

/-- An action of the session as a step: a halt makes the step fail. -/
def running (action : Action Session α) : SessionAction α :=
  ExceptT.mk do return (← action.run).mapError .halted

/-- An action on the whole session that only the program takes part in. -/
def programAction (action : Action Machine α) : Action Session α :=
  action.within Session.machine fun session machine => { session with machine := machine }

/-- What a part of the command stands for, or the complaint about it. -/
def read (reading : Reading α) : SessionAction α := ExceptT.mk (pure (reading.mapError .complaint))

/-- An action of the program. -/
def onMachine (action : Action Machine α) : SessionAction α := running (programAction action)

/-- A step that is carried out while the command holds something of its own. A complaint ends the
command in order, so what it holds is destroyed; a halt unwinds, so it is given up. -/
def holding (destroy giveUp : Action Machine Unit) (action : SessionAction α) : SessionAction α :=
  ExceptT.mk do
    match ← action.run with
    | .ok result => pure (.ok result)
    | .error (.complaint complaint) =>
      (do onMachine destroy; complain complaint : SessionAction α).run
    | .error (.halted halt) =>
      let _ ← (programAction giveUp).run
      pure (.error (.halted halt))

/-- A step that is carried out while the command holds a payload. -/
def holdingInstance (held : Instance) (action : SessionAction α) : SessionAction α :=
  holding (Machine.destroy held) (Machine.discard held) action

/-- A step that is carried out while the command holds dynamic values. -/
def holdingCells (held : List Cell) (action : SessionAction α) : SessionAction α :=
  holding (Cell.destroyAll held) (Cell.discardAll held) action

/-- The value of a variable. -/
def valueOf (name : String) : SessionAction Cell := do
  orComplain (.noVariable name) ((← get).cells.get? name)

/-- An action on a variable, which holds the value that the action leaves also when the action
halts. -/
def onVariable (name : String) (action : Action Focus α) : SessionAction α := do
  let cell ← valueOf name
  running (action.within (fun session => ⟨session.machine, cell⟩) fun session focus =>
    { session with
      machine := focus.machine
      cells := session.cells.insert name focus.cell })

/-- Stores a value in a variable. The value that the variable had is destroyed when the new one is
in place. -/
def storing (name : String) (cell : Cell) : Action Session Unit := do
  let session ← get
  set { session with cells := session.cells.insert name cell }
  match session.cells.get? name with
  | some old => programAction old.destroy
  | none => pure ()

/-- Stores a value in a variable. -/
def store (name : String) (cell : Cell) : SessionAction Unit := running (storing name cell)

/-- Makes sure that a registry exists, without making the global one. -/
def requireRegistry : RegistryName → SessionAction Unit
  | .global => pure ()
  | .named name => do
    let _ ← orComplain (.noRegistry name) ((← get).registries.get? name)

/-- A registry. The global one is made now if it has not been used yet. -/
def registry : RegistryName → SessionAction Registry
  | .global => onMachine Machine.globalRegistry
  | .named name => do orComplain (.noRegistry name) ((← get).registries.get? name)

/-- Puts a changed registry in its place. -/
def setRegistry (name : RegistryName) (registry : Registry) : SessionAction Unit :=
  match name with
  | .global => onMachine (Machine.setGlobalRegistry registry)
  | .named name =>
    modify fun session => { session with registries := session.registries.insert name registry }

/-- The global registry may only be changed in a fresh program. -/
def requireChangeable (name : RegistryName) : SessionAction Unit := do
  if name = .global && !(← get).isFresh then complain .needsFreshSession

/-- An environment. -/
def environment (name : String) : SessionAction Environment := do
  orComplain (.noEnvironment name) ((← get).environments.get? name)

/-- Puts a changed environment in its place. -/
def setEnvironment (name : String) (environment : Environment) : SessionAction Unit :=
  modify fun session =>
    { session with environments := session.environments.insert name environment }

/-- The identity of a type, or that of the empty value. -/
def identify : Option ValueType → StateM Machine TypeIdentity
  | some type => Machine.identify type
  | none => pure .null

end Session

end DynamicValue
