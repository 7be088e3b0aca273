/-
# Converting through a registry

A registry converts the value of a dynamic value to a type in three gates: nothing is converted to a
foreign type, nothing is converted from the empty value, and the pair of types has to be registered.
Then the registered conversion runs. It may ask the same registry for further conversions.

The inner form, the cast, is given types as identities only, which need not be those of the value at
hand and of the receiver of the result. It calls a conversion only if they are those that the
conversion was registered with, and it changes the receiver only with a result in hand.
-/

import DynamicValue.Cell.Lifetime

namespace DynamicValue

/-- The place for the result of a cast: it takes values of one type and may hold one already. -/
structure Receiver where
  type : ValueType
  content? : Option Instance

namespace Receiver

/-- The receiver without a value. -/
def blank (type : ValueType) : Receiver := ⟨type, none⟩

/-- Destroys what a receiver holds, without a panic. -/
def discard (receiver : Receiver) : Action Machine Unit :=
  match receiver.content? with
  | some contents => Machine.discard contents
  | none => pure ()

/-- Destroys what a receiver holds. -/
def destroy (receiver : Receiver) : Action Machine Unit :=
  match receiver.content? with
  | some contents => Machine.destroy contents
  | none => pure ()

end Receiver

/-- The state of a cast: the program and the receiver. -/
abbrev Casting : Type := Machine × Receiver

namespace Casting

/-- An action of the program that leaves the receiver alone. -/
def onMachine {α : Type} (action : Action Machine α) : Action Casting α :=
  action.within Prod.fst fun state machine => (machine, state.2)

/-- Stores a result in the receiver. What was there is destroyed when the result is in place. -/
def receive (contents : Instance) : Action Casting Unit := do
  let receiver := (← get).2
  modify fun state => (state.1, { receiver with content? := some contents })
  onMachine receiver.destroy

end Casting

/-- How the requests of a plan are met. -/
abbrev Converter : Type :=
  Cell → (dest : ValueType) → Action Machine (Except ConversionError dest.Value)

/-- Carries out a plan for the conversion of an instance. The values that are made on the way live
until the plan has ended; the last one made is destroyed first. -/
def Plan.run {α : Type} (converter : Converter) (input : Instance) :
    Plan α → Action Machine (Except ConversionError α)
  | .give value => pure (.ok value)
  | .fail error => pure (.error error)
  | .identify type next => do
    let identity ← Machine.identify type
    (next identity).run converter input
  | .report event next => do
    Machine.report event
    next.run converter input
  | .convert source dest next => do
    let cell ← Cell.ofPayload source
    cell.inScope do
      (next (← converter cell dest)).run converter input
  | .convertCopy dest next => do
    let cell ← Cell.ofInstance (← Machine.clone input)
    cell.inScope do
      (next (← converter cell dest)).run converter input

namespace RegistryEntry

/-- Calls a registered conversion, if the source and the receiver have the types that it was
registered with. -/
def apply (entry : RegistryEntry) (converter : Converter) (source : Instance) :
    Action Casting (Except ConversionError Unit) := do
  let receiver := (← get).2
  match source.payload.as? entry.source with
  | none => pure (.error (.noConversion entry.sourceIdentity entry.destIdentity))
  | some value =>
    if receiver.type = entry.dest then
      match ← Casting.onMachine ((entry.conversion value).run converter source) with
      | .error error => pure (.error error)
      | .ok result =>
        Casting.receive (← Casting.onMachine (Machine.create ⟨entry.dest, result⟩))
        pure (.ok ())
    else pure (.error (.noConversion entry.sourceIdentity entry.destIdentity))

end RegistryEntry

namespace Registry

/-- The cast, with a way to meet the requests of conversions. -/
def castWith (registry : Registry) (converter : Converter) (source : Instance)
    (sourceType destType : TypeIdentity) : Action Casting (Except ConversionError Unit) :=
  if destType.isForeign then pure (.error (.foreignDestination destType))
  else if sourceType.isNull then pure (.error .emptySource)
  else
    match registry.lookup sourceType destType with
    | none => pure (.error (.noConversion sourceType destType))
    | some entry => entry.apply converter source

/-- Converts a dynamic value; requests of conversions may be nested to the given depth. -/
def coerceWithin (registry : Registry) : Nat → Converter
  | 0, _, _ => throw .exhausted
  | depth + 1, cell, dest => do
    let destIdentity ← Machine.identify dest
    if destIdentity.isForeign then return .error (.foreignDestination destIdentity)
    match ← cell.contents? with
    | none => return .error .emptySource
    | some source =>
      let (outcome, receiver) ← Action.withLocal (.blank dest) Receiver.discard
        (registry.castWith (registry.coerceWithin depth) source cell.identity destIdentity)
      match outcome, receiver.content? with
      | .error error, _ => return .error error
      | .ok (), none => return .error (.noConversion cell.identity destIdentity)
      | .ok (), some contents =>
        Machine.discard contents
        match contents.payload.as? dest with
        | some value => return .ok value
        | none => return .error (.noConversion cell.identity destIdentity)

/-- Converts a dynamic value to a type. -/
def coerce (registry : Registry) : Converter := registry.coerceWithin registry.nestingLimit

/-- Converts an instance of a claimed type into the receiver, which is to be of a claimed type. -/
def cast (registry : Registry) (source : Instance) (sourceType destType : TypeIdentity) :
    Action Casting (Except ConversionError Unit) :=
  registry.castWith (registry.coerceWithin registry.nestingLimit) source sourceType destType

/-- The registry with a conversion between two types, which get their identities now if they are
new. -/
def register (registry : Registry) (source dest : ValueType) (conversion : Conversion source dest) :
    StateM Machine Registry := do
  let sourceIdentity ← Machine.identify source
  let destIdentity ← Machine.identify dest
  if registry.contains sourceIdentity destIdentity then
    Machine.writeLog (.replaced source dest)
  return registry.insert ⟨source, dest, sourceIdentity, destIdentity, conversion⟩

/-- The registry without the conversion between two types, and whether there was one. -/
def unregister (registry : Registry) (source dest : ValueType) :
    StateM Machine (Bool × Registry) := do
  let sourceIdentity ← Machine.identify source
  let destIdentity ← Machine.identify dest
  return (registry.contains sourceIdentity destIdentity,
    registry.erase sourceIdentity destIdentity)

/-- A registry with the built-in conversions. -/
def withBuiltIns : StateM Machine Registry := do
  let registry ← BuiltIn.all.foldlM
    (fun registry builtIn =>
      registry.register builtIn.source builtIn.dest builtIn.rule.conversion) empty
  Machine.writeLog (.registryReady registry.size)
  return registry

end Registry

namespace Machine

/-- The global registry, which is made with the built-in conversions when it is used first. -/
def globalRegistry : StateM Machine Registry := do
  match (← get).global? with
  | some registry => pure registry
  | none =>
    let registry ← Registry.withBuiltIns
    modify fun machine => { machine with global? := some registry }
    pure registry

/-- Puts a changed registry in place of the global one. -/
def setGlobalRegistry (registry : Registry) : StateM Machine Unit :=
  modify fun machine => { machine with global? := some registry }

end Machine

end DynamicValue
