/-
# Dynamic values

A dynamic value is a cell: a reference to the operation table of the type it holds, or none if it is
empty, and a slot of one word. A payload that fits is kept in the slot itself; for any other the
slot has the address of a box on the heap. The table alone says which of the two it is, and every
reading of a slot checks that the slot really holds what the table says.
-/

import DynamicValue.Machine.Identities
import DynamicValue.Machine.Instances
import DynamicValue.Payload.Host

namespace DynamicValue

/-- The word in which a cell keeps its payload. -/
inductive Slot
  | blank
  | direct (contents : Instance)
  | boxed (address : Nat)

/-- Where the payload of a cell is: nowhere if the cell is empty, in the cell, or in a box. -/
inductive Place
  | nowhere
  | inSlot
  | onHeap (address : Nat)
  deriving DecidableEq

/-- A dynamic value. -/
structure Cell where
  table? : Option OperationTable
  slot : Slot

namespace Slot

/-- Reads the payload of a type out of a slot. -/
def read (type : ValueType) (slot : Slot) : Action Machine Instance := do
  let contents ← match slot, type.isInline with
    | direct contents, true => pure contents
    | boxed address, false => Machine.load address
    | _, _ => Action.fault .uninitialised
  if contents.payload.type = type then pure contents else Action.fault .wrongType

/-- Puts a payload into a blank slot, in the way its type asks for. -/
def fill (contents : Instance) : StateM Machine Slot := do
  if contents.payload.type.isInline then pure (direct contents)
  else return boxed (← Machine.allocate contents)

/-- Puts another payload of the same type in place of the one in a slot. Gives the changed slot and
the payload that was there. -/
def exchange (slot : Slot) (contents : Instance) : Action Machine (Slot × Instance) := do
  let old ← slot.read contents.payload.type
  match slot with
  | boxed address =>
    Machine.store address contents
    pure (slot, old)
  | _ => pure (direct contents, old)

/-- Takes the payload of a type out of a slot, which is blank then; its box is freed. -/
def empty (type : ValueType) (slot : Slot) : Action Machine Instance := do
  let contents ← slot.read type
  match slot with
  | boxed address => Machine.free address
  | _ => pure contents

end Slot

namespace Cell

/-- The empty value. -/
def empty : Cell := ⟨none, .blank⟩

/-- Whether the value is empty. -/
def isEmpty (cell : Cell) : Bool := cell.table?.isNone

/-- The identity of the type that the value holds. -/
def identity (cell : Cell) : TypeIdentity :=
  match cell.table? with
  | some table => table.identity
  | none => .null

/-- The name of the type that the value holds. -/
def typeName (cell : Cell) : String := cell.identity.name

/-- Whether the payload is stored in the slot itself. -/
def isInline (cell : Cell) : Bool :=
  match cell.table? with
  | some table => table.isInline
  | none => false

/-- Where the payload is. -/
def place (cell : Cell) : Place :=
  match cell.table?, cell.slot with
  | some _, .direct _ => .inSlot
  | some _, .boxed address => .onHeap address
  | _, _ => .nowhere

/-- Whether a value has the type and the place of its payload in common with what it was before. -/
def reuses (after before : Cell) : Bool :=
  after.typeName = before.typeName && after.place = before.place

/-- The payload, if the value is not empty. -/
def contents? (cell : Cell) : Action Machine (Option Instance) :=
  match cell.table? with
  | some table => some <$> cell.slot.read table.type
  | none => pure none

/-- Whether the value holds a payload of a type. -/
def holds (cell : Cell) (type : ValueType) : Action Machine Bool := do
  match ← cell.contents? with
  | some contents => pure (contents.payload.type = type)
  | none => pure false

/-- Whether the value holds one of the two kinds of text. -/
def holdsText (cell : Cell) : Action Machine Bool := do
  if ← cell.holds .text then pure true else cell.holds .literal

/-- The payload, if it has the given type. -/
def instanceOf? (cell : Cell) (type : ValueType) : Action Machine (Option Instance) := do
  match ← cell.contents? with
  | some contents => pure (if contents.payload.type = type then some contents else none)
  | none => pure none

/-- The value of the payload, if it has the given type. -/
def valueOf? (cell : Cell) (type : ValueType) : Action Machine (Option type.Value) := do
  match ← cell.contents? with
  | some contents => pure (contents.payload.as? type)
  | none => pure none

/-- The text of the payload; the empty value has an empty one. -/
def text (cell : Cell) : Action Machine String := do
  match ← cell.contents? with
  | some contents => pure contents.payload.text
  | none => pure ""

/-- The diagnostic form of the value. -/
def debugText (cell : Cell) : Action Machine String := do
  match cell.table? with
  | some table =>
    return Text.variant "Any" [table.identity.name ++ ": " ++ Text.quoted (← cell.text)]
  | none => return Text.variant "Any" ["null"]

/-- Pushes the value onto the stack of a host. -/
def pushOnto (cell : Cell) (stack : List HostValue) : Action Machine (List HostValue) := do
  match ← cell.contents? with
  | some contents => pure (stack ++ [contents.payload.hostValue])
  | none => pure (stack ++ [.nothing])

end Cell

end DynamicValue
