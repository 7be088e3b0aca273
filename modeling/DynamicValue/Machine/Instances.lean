/-
# The life of payloads

A payload is created once, as a new value or as a copy, and destroyed once. A probe reports its
copies and its end, and then panics if it was told to. While a panic unwinds, payloads are
discarded: they are destroyed and report it, but they do not panic. The heap keeps the payloads that
are too large for a slot.
-/

import DynamicValue.Machine.Basic

namespace DynamicValue.Machine

/-- Adds an event to the trace. -/
def report (event : Event) : StateM Machine Unit :=
  modify fun machine => { machine with events := machine.events ++ [event] }

/-- A new instance of a payload. -/
def create (payload : Payload) : StateM Machine Instance := do
  let machine ← get
  set { machine with created := machine.created + 1 }
  pure ⟨machine.created, payload⟩

/-- A copy of an instance. A probe reports the copy before it is made. -/
def clone (source : Instance) : Action Machine Instance := do
  match source.payload.probe? with
  | some probe =>
    report (.cloned probe)
    if probe.bomb = .onClone then Action.panic ("clone bomb " ++ probe.text)
  | none => pure ()
  create source.payload.copy

/-- Destroys an instance without a panic. -/
def discard (doomed : Instance) : StateM Machine Unit := do
  match doomed.payload.probe? with
  | some probe => report (.dropped probe)
  | none => pure ()
  modify fun machine => { machine with destroyed := machine.destroyed ++ [doomed.serial] }

/-- Destroys an instance. A probe panics after it has reported its end, if it was told to. -/
def destroy (doomed : Instance) : Action Machine Unit := do
  discard doomed
  match doomed.payload.probe? with
  | some probe =>
    if probe.bomb = .onDrop then Action.panic ("drop bomb " ++ probe.text)
  | none => pure ()

/-- Puts an instance on the heap and gives its address. -/
def allocate (contents : Instance) : StateM Machine Nat := do
  let machine ← get
  set { machine with heap := machine.heap ++ [some contents] }
  pure machine.heap.length

/-- The instance at an address of the heap. -/
def load (address : Nat) : Action Machine Instance := do
  match (← get).heap[address]? with
  | some (some contents) => pure contents
  | _ => Action.fault .dangling

/-- Replaces the instance at an address of the heap. -/
def store (address : Nat) (contents : Instance) : StateM Machine Unit :=
  modify fun machine => { machine with heap := machine.heap.set address (some contents) }

/-- Takes the instance at an address off the heap. -/
def free (address : Nat) : Action Machine Instance := do
  let contents ← load address
  modify fun machine => { machine with heap := machine.heap.set address none }
  pure contents

end DynamicValue.Machine
