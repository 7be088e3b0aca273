/-
# Conversions

What a conversion does with a value is described by a plan: it ends with a result or an error, and
on the way it may leave an event, ask for the identity of a type, and ask the registry that it is
registered in to convert another value or a copy of its own. A plan does nothing by itself; a
registry carries it out. So a conversion is an ordinary function from values to plans, whatever its
plans ask for.
-/

import DynamicValue.Conversion.BuiltIn
import DynamicValue.Error.Conversion
import DynamicValue.Trace.Event

namespace DynamicValue

/-- What a conversion to a value of type `α` does. -/
inductive Plan (α : Type) : Type
  | give (value : α)
  | fail (error : ConversionError)
  | identify (type : ValueType) (next : TypeIdentity → Plan α)
  | report (event : Event) (next : Plan α)
  | convert (source : Payload) (dest : ValueType)
      (next : Except ConversionError dest.Value → Plan α)
  | convertCopy (dest : ValueType) (next : Except ConversionError dest.Value → Plan α)

/-- A conversion between two types. -/
abbrev Conversion (source dest : ValueType) : Type := source.Value → Plan dest.Value

/-- The error that a refusal is for a destination. -/
def Refusal.conversionError (dest : TypeIdentity) : Refusal → ConversionError
  | outOfRange value => .outOfRange value dest
  | inexact value => .inexact value dest
  | invalidText text => .invalidText text dest

/-- The conversion that a rule describes. -/
def Rule.conversion {source dest : ValueType} (rule : Rule source dest) : Conversion source dest :=
  fun value =>
    match rule value with
    | .ok result => .give result
    | .error refusal => .identify dest fun identity => .fail (refusal.conversionError identity)

/-- Ends with the given result. -/
def Plan.ofResult {α : Type} : Except ConversionError α → Plan α
  | .ok value => .give value
  | .error error => .fail error

end DynamicValue
