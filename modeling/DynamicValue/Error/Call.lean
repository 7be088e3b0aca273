/-
# Errors of calls

A call of a native function by its name fails because no such function is bound, because the number
of arguments is wrong, or because an argument cannot be had as the type that the function needs.
-/

import DynamicValue.Error.Conversion

namespace DynamicValue

/-- Why a call failed. Arguments are counted from one. -/
inductive CallError
  | unknownFunction (name : String)
  | wrongArgCount (name : String) (expected found : Nat)
  | badArgument (index : Nat) (name : String) (cause : AccessError)
  deriving DecidableEq

namespace CallError

/-- The name of the kind of error. -/
def kindName : CallError → String
  | unknownFunction .. => "UnknownFunction"
  | wrongArgCount .. => "WrongArgCount"
  | badArgument .. => "BadArgument"

/-- The text of an error. -/
def text : CallError → String
  | unknownFunction name => "Unknown function: '" ++ name ++ "'"
  | wrongArgCount name expected found =>
    "'" ++ name ++ "' expects " ++ Decimal.naturalText expected ++ " argument(s), but found " ++
      Decimal.naturalText found
  | badArgument index name cause =>
    "Bad argument #" ++ Decimal.naturalText index ++ " to '" ++ name ++ "': " ++ cause.text

/-- The message of an error in a language; the nested message is in the same language. -/
def message (locale : Locale) : CallError → String
  | unknownFunction name => Message.unknownFunction.format locale [name]
  | wrongArgCount name expected found =>
    Message.wrongArgCount.format locale
      [name, Decimal.naturalText expected, Decimal.naturalText found]
  | badArgument index name cause =>
    Message.badArgument.format locale [Decimal.naturalText index, name, cause.message locale]

/-- The texts of the chain of causes, the nearest first. -/
def causeTexts : CallError → List String
  | unknownFunction .. | wrongArgCount .. => []
  | badArgument _ _ cause => cause.text :: cause.causeTexts

/-- The diagnostic form of an error. -/
def debugText (error : CallError) : String :=
  match error with
  | unknownFunction name => Text.variant error.kindName [Text.quoted name]
  | wrongArgCount name expected found =>
    Text.record error.kindName [("name", Text.quoted name),
      ("expected", Decimal.naturalText expected), ("found", Decimal.naturalText found)]
  | badArgument index name cause =>
    Text.record error.kindName [("index", Decimal.naturalText index), ("name", Text.quoted name),
      ("cause", cause.debugText)]

end CallError

end DynamicValue
