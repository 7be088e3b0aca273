/-
# Single requests

Requests that need no session: each works on values of its own in a program that has just started.
They convert a value in all ways at once, inspect one, call a function of the value module, and
build errors and messages.
-/

import DynamicValue.Session.Step

namespace DynamicValue

/-- What comes of a value that is asked for as a type in every way. -/
structure ConversionReport where
  access : Except AccessError Accessed
  tryAccess : Option Accessed
  coercion : Except ConversionError Payload
  isRegistered : Bool

/-- What is known of a conversion error: its kind and the fields of this kind. Only the errors
without a text can be about the empty value. -/
inductive ConversionErrorDescription
  | foreignDestination (dest : Option ValueType)
  | noConversion (source dest : Option ValueType)
  | outOfRange (value : String) (dest : ValueType)
  | inexact (value : String) (dest : ValueType)
  | invalidText (text : String) (dest : ValueType)
  | emptySource

/-- The context that an error of a conversion is put into: the types of the accessor that failed,
and the function and the argument that it was to serve. -/
structure ErrorContext where
  source : Option ValueType
  dest : Option ValueType
  argument? : Option (Nat × String)

/-- Errors built on top of each other, and the comparison with another one. -/
structure ConversionErrorReport where
  error : ConversionError
  isSame? : Option Bool
  accessError? : Option AccessError
  callError? : Option CallError

namespace Request

/-- Runs an action in a program that has just started. -/
def run {α : Type} (action : Action Machine α) : Except Halt α := (action.run .fresh).1

/-- Runs an action on a new value, which is destroyed afterwards. -/
def withValue {α : Type} (payload? : Option Payload) (action : Cell → Action Machine α) :
    Action Machine α := do
  let cell ← Session.newCell payload?
  cell.inScope (action cell)

/-- Asks for a value as a type in every way, and whether a conversion is registered. The value is
there before the type is read. -/
def convert (payload? : Option Payload) (type : Reading ValueType) :
    Action Machine (Reading ConversionReport) :=
  withValue payload? fun cell => do
    match type with
    | .error complaint => return .error complaint
    | .ok type =>
      let access ← cell.get type
      let tryAccess ← cell.tryGet type
      let coercion ← cell.coerceGlobally type
      let dest ← Machine.identify type
      let registry ← Machine.globalRegistry
      return .ok {
        access := access.map Access.accessed
        tryAccess := tryAccess.map Access.accessed
        coercion := coercion.map (⟨type, ·⟩)
        isRegistered := registry.contains cell.identity dest }

/-- Everything that can be seen of a value. -/
def inspect (payload? : Option Payload) : Action Machine Inspection :=
  withValue payload? Session.inspect

/-- Calls a function of the value module, in a session that has nothing but an environment with it.
-/
def call (name : String) (arguments : List (Reading Argument)) : Except Failure Answer :=
  let calling : SessionAction Answer := do
    let _ ← Session.step (.newEnvironment "")
    let _ ← Session.step (.load "" .value)
    Session.step (.call "" name arguments none)
  (calling.run (Session.start false)).1

/-- The error with a description. -/
def describedError : ConversionErrorDescription → StateM Machine ConversionError
  | .foreignDestination dest => do return .foreignDestination (← Session.identify dest)
  | .noConversion source dest => do
    return .noConversion (← Session.identify source) (← Session.identify dest)
  | .outOfRange value dest => do return .outOfRange value (← Machine.identify dest)
  | .inexact value dest => do return .inexact value (← Machine.identify dest)
  | .invalidText text dest => do return .invalidText text (← Machine.identify dest)
  | .emptySource => return .emptySource

/-- Builds an error, compares it with another one and puts it into a context. -/
def conversionError (description : ConversionErrorDescription)
    (other? : Option ConversionErrorDescription) (context? : Option ErrorContext) :
    Action Machine ConversionErrorReport := do
  let error ← describedError description
  let isSame? ← other?.mapM fun other =>
    (do return error.same (← describedError other) : Action Machine Bool)
  match context? with
  | none => return ⟨error, isSame?, none, none⟩
  | some context =>
    let accessError : AccessError :=
      ⟨← Session.identify context.source, ← Session.identify context.dest, error⟩
    let callError? := context.argument?.map fun (index, name) =>
      CallError.badArgument index name accessError
    return ⟨error, isSame?, some accessError, callError?⟩

/-- The error of a call: of an unknown function, or of a function that expects another number of
arguments. -/
def callError (name : String) (expected? : Option Nat) (found : Nat) : CallError :=
  match expected? with
  | none => .unknownFunction name
  | some expected => .wrongArgCount name expected found

end Request

end DynamicValue
