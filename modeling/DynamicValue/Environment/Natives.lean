/-
# Native functions

The functions of the value module, which look at a value and convert it, and a few plain functions
that sessions can bind. Each checks the number of its arguments before it looks at any, and names
itself in its errors, whatever name it is called by. An argument is taken out of the list by its
index, which would be a panic if the list were too short.
-/

import DynamicValue.Environment.Basic

namespace DynamicValue.Native

/-- The arguments of a call, if there are as many as the function expects. -/
def expectArguments (name : String) (arguments : List Cell) (expected : Nat) :
    Except CallError (List Cell) :=
  if arguments.length = expected then .ok arguments
  else .error (.wrongArgCount name expected arguments.length)

/-- The argument with an index, counted from zero. An index behind the last one is a panic. -/
def argument (arguments : List Cell) (index : Nat) : Action Machine Cell :=
  match arguments[index]? with
  | some cell => pure cell
  | none =>
    Action.panic ("index out of bounds: the len is " ++ Decimal.naturalText arguments.length ++
      " but the index is " ++ Decimal.naturalText index)

/-- A function that expects a number of arguments. -/
def expecting (name : String) (expected : Nat)
    (body : List Cell → Action Machine (Except CallError Cell)) : Native := fun arguments =>
  match expectArguments name arguments expected with
  | .ok arguments => body arguments
  | .error error => pure (.error error)

/-- A function that expects a number of arguments and works on the one with an index. -/
def onArgument (name : String) (expected index : Nat)
    (body : Cell → Action Machine (Except CallError Cell)) : Native :=
  expecting name expected fun arguments => do body (← argument arguments index)

section Arguments

variable {name : String} {expected index : Nat} {arguments : List Cell} {cell : Cell}

theorem expecting_of_length (body : List Cell → Action Machine (Except CallError Cell))
    (hlength : arguments.length = expected) :
    expecting name expected body arguments = body arguments := by
  unfold expecting expectArguments
  rw [if_pos hlength]

theorem expecting_of_length_ne (body : List Cell → Action Machine (Except CallError Cell))
    (hlength : arguments.length ≠ expected) :
    expecting name expected body arguments =
      pure (.error (.wrongArgCount name expected arguments.length)) := by
  unfold expecting expectArguments
  rw [if_neg hlength]

variable (body : Cell → Action Machine (Except CallError Cell))

/-- An argument that is there is found without a panic. -/
theorem onArgument_of_length (hlength : arguments.length = expected)
    (hcell : arguments[index]? = some cell) :
    onArgument name expected index body arguments = body cell := by
  unfold onArgument argument
  rw [expecting_of_length _ hlength, hcell]
  exact pure_bind cell body

theorem onArgument_of_length_ne (hlength : arguments.length ≠ expected) :
    onArgument name expected index body arguments =
      pure (.error (.wrongArgCount name expected arguments.length)) :=
  expecting_of_length_ne _ hlength

end Arguments

/-- A new value as the result of a function. -/
def giving (type : ValueType) (value : type.Value) : Action Machine (Except CallError Cell) := do
  return .ok (← Cell.ofPayload ⟨type, value⟩)

/-- The argument with an index, counted from one, as a value of a type. -/
def converting (name : String) (index : Nat) (argument : Cell) (type : ValueType) :
    Action Machine (Except CallError Cell) := do
  match ← argument.get type with
  | .ok access => giving type access.value
  | .error cause => return .error (.badArgument index name cause)

/-- A function that gives one of its arguments as a value of a type. -/
def convertingTo (name : String) (expected index : Nat) (type : ValueType) : Native :=
  onArgument name expected index fun argument => converting name (index + 1) argument type

/-- The name of the type of a value. -/
def typeName : Native := onArgument "typeof" 1 0 fun argument => giving .text argument.typeName

/-- The text of a value. -/
def toText : Native := onArgument "tostring" 1 0 fun argument => do
  giving .text (← argument.text)

/-- A value as a number. -/
def toNumber : Native := convertingTo "tonumber" 1 0 (.float .double)

/-- A value as an integer. -/
def toInteger : Native := convertingTo "toint" 1 0 (.integer .long)

/-- Whether a value is empty. -/
def isNull : Native := onArgument "isnull" 1 0 fun argument => giving .boolean argument.isEmpty

/-- A copy of the argument. -/
def echo : Native := onArgument "echo" 1 0 fun argument => do return .ok (← argument.clone)

/-- A copy of the second of two arguments. -/
def second : Native := onArgument "second" 2 1 fun argument => do return .ok (← argument.clone)

/-- The second of two arguments as a number from 0 to 255. -/
def byte : Native := convertingTo "byte" 2 1 (.integer ⟨false, .bits8⟩)

/-- The empty value. -/
def nothing : Native := expecting "nothing" 0 fun _ => do return .ok Cell.empty

/-- The number of arguments. A number that has no room in 32 bits is cut off at them. -/
def count : Native := fun arguments =>
  giving (.integer ⟨false, .bits32⟩) (IntKind.lowBits .bits32 arguments.length)

/-- The functions that sessions can bind, by their own names. -/
def named : List (String × Native) :=
  [("echo", echo), ("count", count), ("second", second), ("byte", byte), ("nothing", nothing)]

end DynamicValue.Native

namespace DynamicValue.FunctionModule

/-- The functions on values. -/
def value : FunctionModule where
  name := "std.value"
  exports :=
    [("typeof", Native.typeName), ("tostring", Native.toText), ("tonumber", Native.toNumber),
      ("toint", Native.toInteger), ("isnull", Native.isNull)]

/-- A second module, which takes the name of a function of the first and exports a name twice. -/
def extra : FunctionModule where
  name := "oracle.extra"
  exports := [("typeof", Native.count), ("echo", Native.echo), ("echo", Native.second)]

end DynamicValue.FunctionModule
