/-
# The typed store

An ideal machine for the variables of a session: a variable is empty or has a typed value, and that
is all there is. There are no tables, no slots, no heap and no instances. What can be observed of
the life of a value are the events of its copies and of its end, and the panics that they may end
in.

The commands are those that make, copy, move, change, destroy and look at the values of variables.
Each is described by what becomes of the variables it names.
-/

import DynamicValue.Proofs.Machine.Holdings
import DynamicValue.Session.Run

namespace DynamicValue

/-- The commands that work on the values of variables alone. -/
inductive ContainerCommand
  | new (name : String) (payload? : Reading (Option Payload))
  | clone (source target : String)
  | assign (source target : String)
  | assignValue (name : String) (payload : Reading Payload)
  | swap (first second : String)
  | take (source target : String)
  | reset (name : String)
  | drop (name : String)
  | intoInner (name : String) (type : Reading ValueType)
  | mutate (name : String) (payload : Reading Payload)
  | append (name suffix : String)
  | holds (name : String) (type : Reading ValueType)
  | downcast (name : String) (type : Reading ValueType)

/-- The command of a session. -/
def ContainerCommand.command : ContainerCommand → Command
  | new name payload? => .new name payload?
  | clone source target => .clone source target
  | assign source target => .assign source target
  | assignValue name payload => .assignValue name payload
  | swap first second => .swap first second
  | take source target => .take source target
  | reset name => .reset name
  | drop name => .drop name
  | intoInner name type => .intoInner name type
  | mutate name payload => .mutate name payload
  | append name suffix => .append name suffix
  | holds name type => .holds name type
  | downcast name type => .downcast name type

/-- The variables with their values, and the events so far. -/
structure TypedStore where
  contents : Directory (Option Payload)
  events : List Event

/-- A step of the typed store: it gives a result or fails, in a changed store. -/
abbrev StoreAction : Type → Type := ExceptT Failure (StateM TypedStore)

namespace TypedStore

variable {α : Type}

/-- The store without variables. -/
def empty : TypedStore := ⟨.empty, []⟩

/-! ## The parts of the steps -/

/-- Fails with a complaint. -/
def complain (complaint : Complaint) : StoreAction α := throw (.complaint complaint)

/-- What a part of the command stands for, or the complaint about it. -/
def read (reading : Reading α) : StoreAction α := ExceptT.mk (pure (reading.mapError .complaint))

/-- A result, or the halt in its place. -/
def ending (outcome : Except Halt α) : StoreAction α :=
  ExceptT.mk (pure (outcome.mapError .halted))

/-- Adds events to the trace. -/
def emit (events : List Event) : StoreAction Unit :=
  modify fun store => { store with events := store.events ++ events }

/-- The value of a variable. -/
def valueOf (name : String) : StoreAction (Option Payload) := do
  match (← get).contents.get? name with
  | some value? => pure value?
  | none => complain (.noVariable name)

/-- Gives a variable a value, or makes it empty. -/
def put (name : String) (value? : Option Payload) : StoreAction Unit :=
  modify fun store => { store with contents := store.contents.insert name value? }

/-- Removes a variable. -/
def erase (name : String) : StoreAction Unit :=
  modify fun store => { store with contents := store.contents.erase name }

/-- The copy of a value. -/
def copy (payload : Payload) : StoreAction Payload := do
  emit payload.copyEvents
  ending payload.copied

/-- The copy of the value of a variable, if it has one. -/
def copyOf : Option Payload → StoreAction (Option Payload)
  | some payload => do return some (← copy payload)
  | none => pure none

/-- The end of the value of a variable, if it had one. -/
def destroy (value? : Option Payload) : StoreAction Unit := do
  emit (Payload.dropEventsOf value?)
  ending (Payload.droppedOf value?)

/-- Gives a variable a value and ends the one that it had. -/
def store (name : String) (value? : Option Payload) : StoreAction Unit := do
  let old? := ((← get).contents.get? name).join
  put name value?
  destroy old?

/-- The type of a value, if there is one. -/
def typeOf (value? : Option Payload) : Option ValueType := value?.map Payload.type

/-- Changes a variable and tells whether it has a value of the same type as before, or is empty as
before. -/
def tracked (name : String) (change : Option Payload → StoreAction Unit) : StoreAction Answer := do
  let before? ← valueOf name
  change before?
  return .reuse (typeOf (← valueOf name) = typeOf before?)

/-! ## The steps -/

/-- A variable becomes empty, and then its old value ends. -/
def reset (name : String) (mine? : Option Payload) : StoreAction Unit := do
  put name none
  destroy mine?

/-- A value goes over into a variable as a copy. A copy of the same type is ready before the old
value ends; a variable of another type is empty before the copy is made. -/
def copyOver (name : String) (theirs? mine? : Option Payload) : StoreAction Unit :=
  match theirs? with
  | none => reset name mine?
  | some theirs =>
    if typeOf mine? = some theirs.type then do
      let copied ← copy theirs
      put name (some copied)
      destroy mine?
    else do
      reset name mine?
      put name (some (← copy theirs))

/-- A new value goes over into a variable. One of another type is lost if the old value panics at
its end. -/
def moveOver (name : String) (payload : Payload) (mine? : Option Payload) : StoreAction Unit :=
  if typeOf mine? = some payload.type then do
    put name (some payload)
    destroy mine?
  else do
    put name none
    emit (Payload.dropEventsOf mine?)
    match Payload.droppedOf mine? with
    | .ok () => put name (some payload)
    | .error halt => do
      emit payload.dropEvents
      ending (.error halt)

/-- A new value is written over that of a variable if that has its type, and ends at once if not. -/
def mutate (name : String) (payload : Payload) (mine? : Option Payload) : StoreAction Bool :=
  if typeOf mine? = some payload.type then do
    put name (some payload)
    destroy mine?
    return true
  else do
    destroy (some payload)
    return false

/-- A text grows by another one; any other value stays as it is. -/
def append (name suffix : String) (mine? : Option Payload) : StoreAction Bool :=
  match mine? with
  | some ⟨.text, text⟩ => do
    put name (some ⟨.text, text ++ suffix⟩)
    return true
  | _ => return false

/-- What each command does. -/
def step : ContainerCommand → StoreAction Answer
  | .new name payload? => do
    store name (← read payload?)
    return .nothing
  | .clone source target => do
    store target (← copyOf (← valueOf source))
    return .nothing
  | .assign source target => do
    let theirs? ← valueOf source
    tracked target fun mine? => if source = target then pure () else copyOver target theirs? mine?
  | .assignValue name payload => do
    let _ ← valueOf name
    let payload ← read payload
    tracked name (moveOver name payload)
  | .swap first second => do
    if first = second then complain .sameVariable
    let firstValue? ← valueOf first
    let secondValue? ← valueOf second
    put first secondValue?
    put second firstValue?
    return .nothing
  | .take source target => do
    let value? ← valueOf source
    put source none
    store target value?
    return .nothing
  | .reset name => do
    reset name (← valueOf name)
    return .nothing
  | .drop name => do
    match (← get).contents.get? name with
    | none => return .truth false
    | some value? =>
      erase name
      destroy value?
      return .truth true
  | .intoInner name type => do
    let value? ← valueOf name
    let type ← read type
    match value? with
    | some payload =>
      if payload.type = type then
        erase name
        destroy (some payload)
        return .unwrapped payload
      else return .mismatch
    | none => return .mismatch
  | .mutate name payload => do
    let mine? ← valueOf name
    let payload ← read payload
    return .truth (← mutate name payload mine?)
  | .append name suffix => do return .truth (← append name suffix (← valueOf name))
  | .holds name type => do
    let type ← read type
    return .truth (typeOf (← valueOf name) = some type)
  | .downcast name type => do
    let type ← read type
    let value? ← valueOf name
    return .payload (value?.filter fun payload => payload.type = type)

/-! ## Running the parts -/

section Running

variable {contents : Directory (Option Payload)} {events : List Event} {name : String}
  {value? : Option Payload}

theorem run_read (reading : Reading α) (store : TypedStore) :
    (read reading).run store = (reading.mapError .complaint, store) := rfl

theorem run_ending (outcome : Except Halt α) (store : TypedStore) :
    (ending outcome).run store = (outcome.mapError .halted, store) := rfl

theorem run_emit (added : List Event) :
    (emit added).run ⟨contents, events⟩ = (.ok (), ⟨contents, events ++ added⟩) := rfl

theorem run_put (name : String) (value? : Option Payload) :
    (put name value?).run ⟨contents, events⟩ =
      (.ok (), ⟨contents.insert name value?, events⟩) := rfl

theorem run_erase (name : String) :
    (erase name).run ⟨contents, events⟩ = (.ok (), ⟨contents.erase name, events⟩) := rfl

theorem run_valueOf_some (hget : contents.get? name = some value?) :
    (valueOf name).run ⟨contents, events⟩ = (.ok value?, ⟨contents, events⟩) := by
  unfold valueOf
  rw [Action.run_bind_ok _ (Action.run_get _)]
  simp only [hget, Action.run_pure]

theorem run_valueOf_none (hget : contents.get? name = none) :
    (valueOf name).run ⟨contents, events⟩ =
      (.error (.complaint (.noVariable name)), ⟨contents, events⟩) := by
  unfold valueOf
  rw [Action.run_bind_ok _ (Action.run_get _)]
  simp only [hget]
  rfl

theorem run_copy_ok {payload copied : Payload} (hcopied : payload.copied = .ok copied) :
    (copy payload).run ⟨contents, events⟩ =
      (.ok copied, ⟨contents, events ++ payload.copyEvents⟩) := by
  unfold copy
  rw [Action.run_bind_ok _ (run_emit _), run_ending, hcopied]
  rfl

theorem run_copy_error {payload : Payload} {halt : Halt} (hcopied : payload.copied = .error halt) :
    (copy payload).run ⟨contents, events⟩ =
      (.error (.halted halt), ⟨contents, events ++ payload.copyEvents⟩) := by
  unfold copy
  rw [Action.run_bind_ok _ (run_emit _), run_ending, hcopied]
  rfl

theorem run_copyOf_ok {payload copied : Payload} (hcopied : payload.copied = .ok copied) :
    (copyOf (some payload)).run ⟨contents, events⟩ =
      (.ok (some copied), ⟨contents, events ++ payload.copyEvents⟩) :=
  Action.run_bind_ok _ (run_copy_ok hcopied)

theorem run_copyOf_error {payload : Payload} {halt : Halt}
    (hcopied : payload.copied = .error halt) :
    (copyOf (some payload)).run ⟨contents, events⟩ =
      (.error (.halted halt), ⟨contents, events ++ payload.copyEvents⟩) :=
  Action.run_bind_error _ (run_copy_error hcopied)

theorem run_destroy (value? : Option Payload) :
    (destroy value?).run ⟨contents, events⟩ = ((Payload.droppedOf value?).mapError .halted,
      ⟨contents, events ++ Payload.dropEventsOf value?⟩) := by
  unfold destroy
  rw [Action.run_bind_ok _ (run_emit _), run_ending]

theorem run_destroy_ok (hdropped : Payload.droppedOf value? = .ok ()) :
    (destroy value?).run ⟨contents, events⟩ =
      (.ok (), ⟨contents, events ++ Payload.dropEventsOf value?⟩) := by
  rw [run_destroy, hdropped]
  rfl

theorem run_destroy_error {halt : Halt} (hdropped : Payload.droppedOf value? = .error halt) :
    (destroy value?).run ⟨contents, events⟩ =
      (.error (.halted halt), ⟨contents, events ++ Payload.dropEventsOf value?⟩) := by
  rw [run_destroy, hdropped]
  rfl

theorem run_reset (contents : Directory (Option Payload)) (events : List Event) (name : String)
    (mine? : Option Payload) :
    (reset name mine?).run ⟨contents, events⟩ = ((Payload.droppedOf mine?).mapError .halted,
      ⟨contents.insert name none, events ++ Payload.dropEventsOf mine?⟩) := by
  unfold reset
  rw [Action.run_bind_ok _ (run_put _ _), run_destroy]

/-- The end of a value, followed by an answer. -/
theorem run_destroy_bind (payload : Payload) (value : α) :
    (destroy (some payload) >>= fun _ => pure value).run ⟨contents, events⟩ =
      ((payload.dropped.map fun _ => value).mapError .halted,
        ⟨contents, events ++ payload.dropEvents⟩) := by
  cases hdropped : payload.dropped with
  | error halt =>
      have hend : Payload.droppedOf (some payload) = .error halt := hdropped
      rw [Action.run_bind_error _ (run_destroy_error hend)]
      rfl
  | ok result =>
      have hend : Payload.droppedOf (some payload) = .ok () := hdropped
      rw [Action.run_bind_ok _ (run_destroy_ok hend)]
      rfl

theorem run_store (name : String) (value? : Option Payload) :
    (store name value?).run ⟨contents, events⟩ =
      ((Payload.droppedOf (contents.get? name).join).mapError .halted,
        ⟨contents.insert name value?,
          events ++ Payload.dropEventsOf (contents.get? name).join⟩) := by
  unfold store
  rw [Action.run_bind_ok _ (Action.run_get _), Action.run_bind_ok _ (run_put _ _), run_destroy]

end Running

/-! ## Whole runs -/

/-- The variables as they are now. -/
def views (store : TypedStore) : List VariableView :=
  store.contents.entries.map fun (name, value?) =>
    ⟨name, value?.elim "null" fun payload => payload.type.name, value?.elim "" Payload.text⟩

/-- A step as it is given to the store: a command, or the complaint about an unreadable one. -/
def attempt : Except Complaint ContainerCommand → StoreAction Answer
  | .ok command => step command
  | .error complaint => complain complaint

/-- Carries out a step and reports on it. The store has no log. -/
def report (command : Except Complaint ContainerCommand) : StateM TypedStore StepReport := do
  let outcome ← (attempt command).run
  let store ← get
  set { store with events := [] }
  return ⟨outcome, store.views, store.events, []⟩

theorem report_apply {command : Except Complaint ContainerCommand} {store after : TypedStore}
    {outcome : Except Failure Answer} (hrun : (attempt command).run store = (outcome, after)) :
    report command store =
      (⟨outcome, views { after with events := [] }, after.events, []⟩,
        { after with events := [] }) := by
  unfold report
  rw [Action.bind_apply, hrun]
  rfl

end TypedStore

end DynamicValue
