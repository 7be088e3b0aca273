/-
# The steps of a session

What each command does. A command looks its parts up in an order of its own, and a part that is
missing or unreadable ends it there, with what it has done so far. A halt in the middle of a command
leaves what the halted operation leaves. Either way the values that the command itself still holds
are destroyed.
-/

import DynamicValue.Session.State

namespace DynamicValue.Session

/-- Everything that can be seen of a dynamic value. -/
def inspect (cell : Cell) : Action Machine Inspection := do
  return {
    typeName := cell.typeName
    isEmpty := cell.isEmpty
    isInline := cell.isInline
    isText := ← cell.holdsText
    place := cell.place
    types := ← ValueType.all.filterM cell.holds
    text := ← cell.text
    debugText := ← cell.debugText
    identity := cell.identity
    pushes := ← cell.pushOnto []
    payload? := (← cell.contents?).map Instance.payload }

/-- A new dynamic value, the empty one if there is no payload. -/
def newCell : Option Payload → StateM Machine Cell
  | some payload => Cell.ofPayload payload
  | none => pure .empty

/-- Changes a variable by an operation that may keep the payload in its place, and tells whether it
did. -/
def tracked (name : String) (action : Action Focus Unit) : SessionAction Answer := do
  let before ← valueOf name
  onVariable name action
  let after ← valueOf name
  return .reuse (after.reuses before)

/-- Makes a variable a copy of another one. Nothing happens to a variable assigned to itself. -/
def assign (source target : String) : SessionAction Answer := do
  let other ← valueOf source
  tracked target (if source = target then pure () else Cell.assign other)

/-- Gives a variable a new payload. -/
def assignValue (name : String) (payload : Reading Payload) : SessionAction Answer := do
  let _ ← valueOf name
  let contents ← onMachine (Machine.create (← read payload))
  tracked name (Cell.assignInstance contents)

/-- Exchanges the values of two variables. -/
def swap (first second : String) : SessionAction Answer := do
  if first = second then complain .sameVariable
  let firstCell ← valueOf first
  let secondCell ← valueOf second
  modify fun session =>
    { session with
      cells := (session.cells.insert first secondCell).insert second firstCell }
  return .nothing

/-- Moves a value from one variable to another. -/
def take (source target : String) : SessionAction Answer := do
  let cell ← onVariable source Cell.take
  store target cell
  return .nothing

/-- Removes a variable with its value. -/
def drop (name : String) : SessionAction Answer := do
  match (← get).cells.get? name with
  | none => return .truth false
  | some cell =>
    modify fun session => { session with cells := session.cells.erase name }
    onMachine cell.destroy
    return .truth true

/-- Moves the payload out of a variable, which is gone then, if it has the given type. The payload
is destroyed at the end. -/
def intoInner (name : String) (type : Reading ValueType) : SessionAction Answer := do
  let cell ← valueOf name
  if ← onMachine (cell.holds (← read type)) then
    modify fun session => { session with cells := session.cells.erase name }
    match ← onMachine cell.intoInstance? with
    | some contents =>
      onMachine (Machine.destroy contents)
      return .unwrapped contents.payload
    | none => return .mismatch
  else return .mismatch

/-- Writes a payload over the one that a variable holds, if that has the same type. -/
def mutate (name : String) (payload : Reading Payload) : SessionAction Answer := do
  let _ ← valueOf name
  let contents ← onMachine (Machine.create (← read payload))
  return .truth (← onVariable name (Cell.mutate contents))

/-- Asks for a value as the type of a payload, makes the result the caller's own and writes the
payload over it. A lent payload is copied for that, and the copy is destroyed when it is
overwritten. -/
def getToMut (name : String) (payload : Reading Payload) : SessionAction Answer := do
  let payload ← read payload
  let contents ← onMachine (Machine.create payload)
  let result ← holdingInstance contents do
    let cell ← valueOf name
    onMachine do
      match ← cell.get payload.type with
      | .error error => pure (.error error)
      | .ok access =>
        if access.borrowed then
          match ← cell.instanceOf? payload.type with
          | some lent => Machine.destroy (← Machine.clone lent)
          | none => pure ()
        pure (.ok ⟨payload, false, payload.text⟩)
  onMachine (Machine.destroy contents)
  return .access result

/-- Registers a scripted conversion. -/
def register (name : RegistryName) (registration : Reading Registration) :
    SessionAction Answer := do
  requireChangeable name
  requireRegistry name
  let ⟨source, dest, script⟩ ← read registration
  if name = .global then onMachine (Machine.writeLog (.registering source dest))
  let registry ← registry name
  setRegistry name (← onMachine (registry.register source dest (script.conversion source)))
  return .nothing

/-- Removes a conversion from a registry. -/
def unregister (name : RegistryName) (types : Reading (ValueType × ValueType)) :
    SessionAction Answer := do
  requireChangeable name
  requireRegistry name
  let (source, dest) ← read types
  let registry ← registry name
  let (found, rest) ← onMachine (registry.unregister source dest)
  setRegistry name rest
  return .truth found

/-- The identity that a part of a command asks for. -/
def identityOf (type? : Reading (Option ValueType)) : SessionAction TypeIdentity := do
  onMachine (identify (← read type?))

/-- Looks for a conversion in a registry. The identities of the two types come first. -/
def contains (name : RegistryName) (source dest : Reading (Option ValueType)) :
    SessionAction Answer := do
  requireRegistry name
  let sourceIdentity ← identityOf source
  let destIdentity ← identityOf dest
  let registry ← registry name
  return .registered (registry.contains sourceIdentity destIdentity)
    (registry.lookup sourceIdentity destIdentity).isSome

/-- Converts a variable through a registry. -/
def coerce (name : RegistryName) (variableName : String) (type : Reading ValueType) :
    SessionAction Answer := do
  requireRegistry name
  let cell ← valueOf variableName
  let type ← read type
  let registry ← registry name
  let result ← onMachine (registry.coerce cell type)
  return .coercion (result.map (⟨type, ·⟩))

/-- Casts a payload under claimed types. The receiver and the source are destroyed at the end. -/
def cast (name : RegistryName) (source : Reading Payload)
    (sourceType destType : Reading (Option ValueType)) (receiver : Reading ReceiverDescription) :
    SessionAction Answer := do
  requireRegistry name
  let input ← onMachine (Machine.create (← read source))
  let (result, receiver) ← holdingInstance input do
    let sourceIdentity ← identityOf sourceType
    let destIdentity ← identityOf destType
    let ⟨type, value?⟩ ← read receiver
    let registry ← registry name
    onMachine do
      let content? ← value?.mapM fun value =>
        (Machine.create ⟨type, value⟩ : Action Machine Instance)
      Action.withLocal ⟨type, content?⟩ Receiver.discard
        (registry.cast input sourceIdentity destIdentity)
  onMachine do
    Action.unwinding receiver.destroy (Machine.discard input)
    Machine.destroy input
  return .casting result (receiver.content?.map Instance.payload)

/-- The value of an argument: a new one, or a copy of that of a variable. -/
def buildArgument (argument : Reading Argument) : SessionAction Cell := do
  match ← read argument with
  | .value payload? => onMachine (newCell payload?)
  | .copyOf name => onMachine (← valueOf name).clone

/-- The values of the arguments of a call, from left to right. -/
def buildArguments (built : List Cell) : List (Reading Argument) → SessionAction (List Cell)
  | [] => pure built
  | argument :: rest => do
    let cell ← holdingCells built (buildArgument argument)
    buildArguments (built ++ [cell]) rest

/-- Calls a function of an environment. The arguments come before the environment. A result is
stored in the variable that is to have it, and destroyed otherwise; the arguments are destroyed
last. -/
def call (environmentName name : String) (arguments : List (Reading Argument))
    (target? : Option String) : SessionAction Answer := do
  let cells ← buildArguments [] arguments
  let result ← holdingCells cells do
    let environment ← environment environmentName
    match ← onMachine (environment.call name cells) with
    | .error error => return .error error
    | .ok result =>
      let payload? := (← onMachine result.contents?).map Instance.payload
      match target? with
      | some target => store target result
      | none => onMachine result.destroy
      return .ok payload?
  onMachine (Cell.destroyAll cells)
  return .call result

/-- Carries out a command. -/
def step : Command → SessionAction Answer
  | .new name payload? => do
    store name (← onMachine (newCell (← read payload?)))
    return .nothing
  | .clone source target => do
    store target (← onMachine (← valueOf source).clone)
    return .nothing
  | .assign source target => assign source target
  | .assignValue name payload => assignValue name payload
  | .swap first second => swap first second
  | .take source target => take source target
  | .reset name => do
    onVariable name Cell.reset
    return .nothing
  | .drop name => drop name
  | .intoInner name type => intoInner name type
  | .inspect name => do return .inspection (← onMachine (inspect (← valueOf name)))
  | .push name => do return .pushes (← onMachine ((← valueOf name).pushOnto []))
  | .holds name type => do
    let type ← read type
    return .truth (← onMachine ((← valueOf name).holds type))
  | .downcast name type => do
    let type ← read type
    let value? ← onMachine ((← valueOf name).valueOf? type)
    return .payload (value?.map (⟨type, ·⟩))
  | .mutate name payload => mutate name payload
  | .append name suffix => do return .truth (← onVariable name (Cell.append suffix))
  | .get name type => do
    let type ← read type
    return .access ((← onMachine ((← valueOf name).get type)).map Access.accessed)
  | .tryGet name type => do
    let type ← read type
    return .tryAccess ((← onMachine ((← valueOf name).tryGet type)).map Access.accessed)
  | .getToMut name payload => getToMut name payload
  | .identity type? => do return .identity (← identityOf type?)
  | .sameIdentity first second => do
    let firstIdentity ← identityOf first
    let secondIdentity ← identityOf second
    return .truth (firstIdentity.same secondIdentity)
  | .counts => do
    let session ← get
    if !session.isFresh then complain .needsFreshSession
    return .counts session.machine.identities.length session.machine.tables.length
  | .table type => do
    let type ← read type
    let table ← onMachine (Machine.tableFor type)
    let again ← onMachine (Machine.tableFor type)
    return .table table (table.same again)
  | .newRegistry name contents => do
    let registry ← match contents with
      | .nothing => pure Registry.empty
      | .builtIns => onMachine Registry.withBuiltIns
    setRegistry (.named name) registry
    return .nothing
  | .register name registration => register name registration
  | .unregister name types => unregister name types
  | .contains name source dest => contains name source dest
  | .registrySize name => do
    let registry ← registry name
    return .registrySize registry.size registry.isEmpty
  | .coerce name variableName type => coerce name variableName type
  | .cast name source sourceType destType receiver => cast name source sourceType destType receiver
  | .newEnvironment name => do
    setEnvironment name .empty
    return .nothing
  | .load name functions => do
    setEnvironment name (← onMachine ((← environment name).load functions))
    return .name functions.name
  | .bind environmentName name function => do
    let (replaced?, changed) := (← environment environmentName).bind name function
    setEnvironment environmentName changed
    return .replacement replaced?.isSome
  | .isBound environmentName name => do
    return .truth ((← environment environmentName).lookup name).isSome
  | .environment name => do
    let environment ← environment name
    return .environment environment.names environment.size environment.isEmpty
      environment.debugText
  | .call environmentName name arguments target? => call environmentName name arguments target?

end DynamicValue.Session
