/-
# Conversions described by a script

The conversions that a session registers. Each reports its calls and then does one of four things:
it gives a fixed value, fails with a chosen kind of error that shows the text of its source,
converts the text of its source, or converts a copy of its source by way of a third type. The last
two ask the registry that they are registered in.
-/

import DynamicValue.Conversion.Plan

namespace DynamicValue

/-- What a scripted conversion to a type does after it has reported its call. -/
inductive ConversionScript (dest : ValueType)
  | constant (value : dest.Value)
  | failing (kind : ConversionErrorKind)
  | throughText
  | chain (middle : ValueType)

namespace ConversionScript

variable {dest : ValueType}

/-- The conversion that fails with the kind of error that has the given name: unreadable text, where
the name is that of no kind. -/
def failingWith (name : String) : ConversionScript dest :=
  failing ((ConversionErrorKind.ofName? name).getD .invalidText)

/-- What the conversion does after its report. -/
def body (source : ValueType) (value : source.Value) :
    ConversionScript dest → Plan dest.Value
  | constant result => .give result
  | failing kind =>
    .identify source fun sourceIdentity => .identify dest fun destIdentity =>
      .fail (.ofKind kind (source.textOf value) sourceIdentity destIdentity)
  | throughText => .convert ⟨.text, source.textOf value⟩ dest .ofResult
  | chain middle =>
    .convertCopy middle fun
      | .error error => .fail error
      | .ok step => .convert ⟨middle, step⟩ dest .ofResult

/-- The conversion from a type that the script describes. -/
def conversion (script : ConversionScript dest) (source : ValueType) : Conversion source dest :=
  fun value => .report (.converted source dest) (script.body source value)

end ConversionScript

end DynamicValue
