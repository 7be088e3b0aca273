/-
# Typed access

A value is asked for as a type. If it holds exactly that type, its own payload is lent, without a
registry; otherwise the global registry converts it and the result belongs to the caller. Either way
the value stays as it is.
-/

import DynamicValue.Registry.Coercion

namespace DynamicValue

/-- What an access gives: a value, lent by the dynamic value or made for the caller. -/
structure Access (type : ValueType) where
  value : type.Value
  borrowed : Bool

namespace Access

variable {type : ValueType}

/-- The text of the value. -/
def text (access : Access type) : String := type.textOf access.value

end Access

namespace Cell

/-- Converts a value with the global registry. -/
def coerceGlobally : Converter := fun cell type => do
  (← Machine.globalRegistry).coerce cell type

/-- The value as a type, or why it cannot be had as that. -/
def extract (cell : Cell) (type : ValueType) :
    Action Machine (Except ConversionError (Access type)) := do
  match ← cell.valueOf? type with
  | some value => return .ok ⟨value, true⟩
  | none => return (← cell.coerceGlobally type).map (⟨·, false⟩)

/-- The value as a type, if it can be had as that. -/
def tryGet (cell : Cell) (type : ValueType) : Action Machine (Option (Access type)) := do
  return (← cell.extract type).toOption

/-- The value as a type, or a failure that names both types. -/
def get (cell : Cell) (type : ValueType) : Action Machine (Except AccessError (Access type)) := do
  match ← cell.extract type with
  | .ok access => return .ok access
  | .error cause => return .error ⟨cell.identity, ← Machine.identify type, cause⟩

end Cell

end DynamicValue
