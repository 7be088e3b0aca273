/-
# Changing a dynamic value

The operations that change a value in place. They run on the value together with the state of the
program, so that what a panic leaves behind is part of their outcome: a payload is only overwritten
when the new one is ready, and a value that destroys its payload is empty before the payload is
destroyed.
-/

import DynamicValue.Cell.Lifetime

namespace DynamicValue

/-- A value that is being changed, and the state of the program. -/
structure Focus where
  machine : Machine
  cell : Cell

namespace Focus

variable {α : Type}

/-- An action of the program that leaves the value alone. -/
def onMachine (action : Action Machine α) : Action Focus α :=
  action.within Focus.machine fun focus machine => { focus with machine := machine }

/-- The value as it is now. -/
def current : Action Focus Cell := do
  return (← get).cell

/-- Changes the value. -/
def put (cell : Cell) : Action Focus Unit :=
  modify fun focus => { focus with cell := cell }

end Focus

namespace Cell

open Focus

/-- Empties a value and destroys what it held. -/
def reset : Action Focus Unit := do
  let cell ← current
  put empty
  onMachine cell.destroy

/-- Stores a payload of the type that the value holds in place of the one it has, which is destroyed
when the new one is in place. -/
def overwrite (table : OperationTable) (contents : Instance) : Action Focus Unit := do
  let cell ← current
  let (slot, old) ← onMachine (cell.slot.exchange contents)
  put ⟨some table, slot⟩
  onMachine (Machine.destroy old)

/-- Makes the value a copy of another one. A value of the same type keeps its place. -/
def assign (other : Cell) : Action Focus Unit := do
  let cell ← current
  match cell.table?, other.table? with
  | _, none => reset
  | none, some _ => put (← onMachine other.clone)
  | some mine, some theirs =>
    if mine.same theirs then
      let copy ← onMachine do Machine.clone (← other.slot.read theirs.type)
      overwrite mine copy
    else
      reset
      put (← onMachine other.clone)

/-- Gives the value a new payload. A value of the same type keeps its place; any other is reset
first, and the new payload is lost if that fails. -/
def assignInstance (contents : Instance) : Action Focus Unit := do
  let cell ← current
  match cell.table?, ← onMachine (cell.instanceOf? contents.payload.type) with
  | some table, some _ => overwrite table contents
  | _, _ =>
    Action.unwinding reset (onMachine (Machine.discard contents))
    put (← onMachine (ofInstance contents))

/-- Moves the value out; an empty one stays behind. -/
def take : Action Focus Cell := do
  let cell ← current
  put empty
  pure cell

/-- Writes a payload over the one that the value holds, if that has the same type. A payload of
another type is destroyed. -/
def mutate (contents : Instance) : Action Focus Bool := do
  let cell ← current
  match cell.table?, ← onMachine (cell.instanceOf? contents.payload.type) with
  | some table, some _ =>
    overwrite table contents
    pure true
  | _, _ =>
    onMachine (Machine.destroy contents)
    pure false

/-- Adds a text to the end of the text that the value holds, if it holds one that can grow. The
payload stays the same instance. -/
def append (suffix : String) : Action Focus Bool := do
  let cell ← current
  match cell.table?, ← onMachine (cell.instanceOf? .text) with
  | some table, some ⟨serial, ⟨.text, text⟩⟩ =>
    let (slot, _) ← onMachine (cell.slot.exchange ⟨serial, ⟨.text, text ++ suffix⟩⟩)
    put ⟨some table, slot⟩
    pure true
  | _, _ => pure false

end Cell

end DynamicValue
