/-
# Complaints

A request can name what does not exist: an operation, a type, a variable, a registry. Such a request
is not carried out and gets a complaint. The parts of a command that give types or values are
readings: a part that cannot be read is a complaint that is made only when the command comes to that
part, so what the command does before then has happened.
-/

namespace DynamicValue

/-- Why a request cannot be carried out as it stands. -/
inductive Complaint
  | unknownOperation (name : String)
  | unknownStep (name : String)
  | unknownType (tag : String)
  | unknownLocale (tag : String)
  | noVariable (name : String)
  | noRegistry (name : String)
  | noEnvironment (name : String)
  | sameVariable
  | needsFreshSession
  deriving DecidableEq

/-- The text of a complaint. -/
def Complaint.text : Complaint → String
  | unknownOperation name => "unknown op " ++ name
  | unknownStep name => "unknown step " ++ name
  | unknownType tag => "unknown type " ++ tag
  | unknownLocale tag => "unknown locale " ++ tag
  | noVariable name => "no variable " ++ name
  | noRegistry name => "no registry " ++ name
  | noEnvironment name => "no environment " ++ name
  | sameVariable => "swap needs two variables"
  | needsFreshSession => "needs a fresh session"

/-- A part of a request: what it stands for, or the complaint about it. -/
abbrev Reading (α : Type) : Type := Except Complaint α

end DynamicValue
