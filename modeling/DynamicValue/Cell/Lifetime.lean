/-
# Making, copying and destroying dynamic values

A dynamic value owns its payload: it is made with one, copies by making a copy of it, and destroys
it when it is itself destroyed. A value that is destroyed while a panic unwinds discards its
payload.
-/

import DynamicValue.Cell.Basic

namespace DynamicValue.Cell

/-- A value that takes over a payload. The table of the payload's type is looked up first. -/
def ofInstance (contents : Instance) : StateM Machine Cell := do
  let table ← Machine.tableFor contents.payload.type
  return ⟨some table, ← Slot.fill contents⟩

/-- A value with a new payload. -/
def ofPayload (payload : Payload) : StateM Machine Cell := do
  ofInstance (← Machine.create payload)

/-- A copy of a value, with a copy of its payload. -/
def clone (cell : Cell) : Action Machine Cell := do
  match cell.table? with
  | some table =>
    let copy ← Machine.clone (← cell.slot.read table.type)
    return ⟨some table, ← Slot.fill copy⟩
  | none => pure empty

/-- Moves the payload out of a value that is not used any more. -/
def intoInstance? (cell : Cell) : Action Machine (Option Instance) :=
  match cell.table? with
  | some table => some <$> cell.slot.empty table.type
  | none => pure none

/-- Destroys a value. -/
def destroy (cell : Cell) : Action Machine Unit := do
  match ← cell.intoInstance? with
  | some contents => Machine.destroy contents
  | none => pure ()

/-- Destroys a value without a panic. -/
def discard (cell : Cell) : Action Machine Unit := do
  match ← cell.intoInstance? with
  | some contents => Machine.discard contents
  | none => pure ()

/-- Runs an action in the scope of a value: the value is destroyed at the end of the action, and
discarded if the action halts. -/
def inScope {α : Type} (cell : Cell) (action : Action Machine α) : Action Machine α := do
  let result ← Action.unwinding action cell.discard
  cell.destroy
  pure result

/-- Discards values in their order. -/
def discardAll (cells : List Cell) : Action Machine Unit := cells.forM discard

/-- Destroys values in their order. After a panic the rest is discarded. -/
def destroyAll : List Cell → Action Machine Unit
  | [] => pure ()
  | cell :: cells => do
    Action.unwinding cell.destroy (discardAll cells)
    destroyAll cells

end DynamicValue.Cell
