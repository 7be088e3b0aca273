/-
# Commands of a session

A session has named variables, registries and environments. Its commands change a variable, look at
one, convert one, ask for identities and tables, or work on a registry or an environment.
-/

import DynamicValue.Conversion.Scripted
import DynamicValue.Environment.Natives
import DynamicValue.Session.Complaint

namespace DynamicValue

/-- A registry of a session: the global one, or one that the session made. -/
inductive RegistryName
  | global
  | named (name : String)
  deriving DecidableEq

/-- A scripted conversion with the types between which it is to be registered. -/
structure Registration where
  source : ValueType
  dest : ValueType
  script : ConversionScript dest

/-- The receiver of a cast: the type that it takes and the value that it holds already. -/
structure ReceiverDescription where
  type : ValueType
  content? : Option type.Value

/-- An argument of a call: a new value, the empty one if there is no payload, or a copy of a
variable. -/
inductive Argument
  | value (payload? : Option Payload)
  | copyOf (name : String)

/-- The two ways to make a registry. -/
inductive RegistryContents
  | nothing
  | builtIns
  deriving DecidableEq

/-- A command of a session. -/
inductive Command
  | new (name : String) (payload? : Reading (Option Payload))
  | clone (source target : String)
  | assign (source target : String)
  | assignValue (name : String) (payload : Reading Payload)
  | swap (first second : String)
  | take (source target : String)
  | reset (name : String)
  | drop (name : String)
  | intoInner (name : String) (type : Reading ValueType)
  | inspect (name : String)
  | push (name : String)
  | holds (name : String) (type : Reading ValueType)
  | downcast (name : String) (type : Reading ValueType)
  | mutate (name : String) (payload : Reading Payload)
  | append (name suffix : String)
  | get (name : String) (type : Reading ValueType)
  | tryGet (name : String) (type : Reading ValueType)
  | getToMut (name : String) (payload : Reading Payload)
  | identity (type? : Reading (Option ValueType))
  | sameIdentity (first second : Reading (Option ValueType))
  | counts
  | table (type : Reading ValueType)
  | newRegistry (name : String) (contents : RegistryContents)
  | register (registry : RegistryName) (registration : Reading Registration)
  | unregister (registry : RegistryName) (types : Reading (ValueType × ValueType))
  | contains (registry : RegistryName) (source dest : Reading (Option ValueType))
  | registrySize (registry : RegistryName)
  | coerce (registry : RegistryName) (name : String) (type : Reading ValueType)
  | cast (registry : RegistryName) (source : Reading Payload)
      (sourceType destType : Reading (Option ValueType)) (receiver : Reading ReceiverDescription)
  | newEnvironment (name : String)
  | load (environment : String) (functions : FunctionModule)
  | bind (environment name : String) (function : Native)
  | isBound (environment name : String)
  | environment (name : String)
  | call (environment name : String) (arguments : List (Reading Argument))
      (target? : Option String)

end DynamicValue
