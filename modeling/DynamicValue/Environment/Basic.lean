/-
# Environments

Native functions take dynamic values and give one, or fail. An environment binds them to names; a
later binding of a name replaces the one before. A module is a list of functions that are bound
together.
-/

import DynamicValue.Cell.Access
import DynamicValue.Directory
import DynamicValue.Error.Call

namespace DynamicValue

/-- A native function. -/
abbrev Native : Type := List Cell → Action Machine (Except CallError Cell)

/-- A named list of functions to be bound together. -/
structure FunctionModule where
  name : String
  exports : List (String × Native)

/-- The functions that can be called by name. -/
structure Environment where
  functions : Directory Native

namespace Environment

/-- The environment without functions. -/
def empty : Environment := ⟨.empty⟩

/-- The function that is bound to a name. -/
def lookup (environment : Environment) (name : String) : Option Native :=
  environment.functions.get? name

/-- The environment with a function bound to a name, and the function that was bound to it. -/
def bind (environment : Environment) (name : String) (function : Native) :
    Option Native × Environment :=
  (environment.lookup name, ⟨environment.functions.insert name function⟩)

/-- The environment with all functions of a list bound, in the order of the list. -/
def bindAll (environment : Environment) (exports : List (String × Native)) : Environment :=
  exports.foldl (fun bound entry => (bound.bind entry.1 entry.2).2) environment

/-- The environment with a module loaded. -/
def load (environment : Environment) (functions : FunctionModule) : StateM Machine Environment := do
  Machine.writeLog (.loading functions.name functions.exports.length)
  return environment.bindAll functions.exports

/-- Calls the function that is bound to a name. -/
def call (environment : Environment) (name : String) (arguments : List Cell) :
    Action Machine (Except CallError Cell) :=
  match environment.lookup name with
  | some function => function arguments
  | none => pure (.error (.unknownFunction name))

/-- The bound names, in ascending order. -/
def names (environment : Environment) : List String := environment.functions.names

/-- The number of bound names. -/
def size (environment : Environment) : Nat := environment.functions.size

/-- Whether no name is bound. -/
def isEmpty (environment : Environment) : Bool := environment.functions.isEmpty

/-- The diagnostic form of an environment. -/
def debugText (environment : Environment) : String :=
  Text.record "Environment" [("functions", Text.listing (environment.names.map Text.quoted))]

end Environment

end DynamicValue
