/-
# Answers of a session

What a command answers when it succeeds, and why it fails: the request cannot be carried out as it
stands, or the program halted while it was.
-/

import DynamicValue.Environment.Basic
import DynamicValue.Session.Complaint

namespace DynamicValue

/-- Everything that can be seen of a dynamic value. -/
structure Inspection where
  typeName : String
  isEmpty : Bool
  isInline : Bool
  isText : Bool
  place : Place
  types : List ValueType
  text : String
  debugText : String
  identity : TypeIdentity
  pushes : List HostValue
  payload? : Option Payload

/-- A value that was asked for as a type, and its text. -/
structure Accessed where
  payload : Payload
  borrowed : Bool
  text : String

/-- What an access gave. -/
def Access.accessed {type : ValueType} (access : Access type) : Accessed :=
  ⟨⟨type, access.value⟩, access.borrowed, access.text⟩

/-- The answer of a command. -/
inductive Answer
  | nothing
  | truth (value : Bool)
  | name (value : String)
  | reuse (reused : Bool)
  | payload (payload? : Option Payload)
  | unwrapped (payload : Payload)
  | mismatch
  | access (result : Except AccessError Accessed)
  | tryAccess (result : Option Accessed)
  | inspection (inspection : Inspection)
  | pushes (values : List HostValue)
  | identity (identity : TypeIdentity)
  | table (table : OperationTable) (same : Bool)
  | counts (types tables : Nat)
  | registered (contained found : Bool)
  | registrySize (size : Nat) (isEmpty : Bool)
  | coercion (result : Except ConversionError Payload)
  | casting (result : Except ConversionError Unit) (slot : Option Payload)
  | replacement (replaced : Bool)
  | environment (names : List String) (size : Nat) (isEmpty : Bool) (debugText : String)
  | call (result : Except CallError (Option Payload))

/-- The text of a halt. -/
def Halt.text : Halt → String
  | panic message => message
  | fault .uninitialised => "read of an uninitialised slot"
  | fault .dangling => "read of a freed box"
  | fault .wrongType => "read of a payload at another type"
  | exhausted => "conversions nested too deeply"

/-- Why a command failed. -/
inductive Failure
  | complaint (complaint : Complaint)
  | halted (halt : Halt)
  deriving DecidableEq

end DynamicValue
