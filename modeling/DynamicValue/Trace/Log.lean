/-
# Log lines

The lines that the library logs: identities and operation tables as they come into being, the
registries that are made or changed, and the modules that are loaded.
-/

import DynamicValue.Decimal.Natural
import DynamicValue.Payload.Text
import DynamicValue.Type.Identity

namespace DynamicValue

/-- A line of the log. -/
inductive LogLine
  | allocated (identity : TypeIdentity)
  | builtTable (type : ValueType)
  | registryReady (conversions : Nat)
  | registering (source dest : ValueType)
  | replaced (source dest : ValueType)
  | loading (moduleName : String) (functions : Nat)
  deriving DecidableEq

namespace LogLine

/-- The level of a line: details of types are traced, the rest is for debugging. -/
def level : LogLine → String
  | allocated _ | builtTable _ => "TRACE"
  | registryReady _ | registering .. | replaced .. | loading .. => "DEBUG"

/-- What a line says. -/
def content : LogLine → String
  | allocated identity =>
    "allocated type id " ++ Decimal.naturalText identity.number ++ " for " ++ identity.name ++
      " (" ++ identity.typeClass.name ++ ")"
  | builtTable type =>
    "built op table for " ++ type.name ++ " (inline: " ++ boolText type.isInline ++ ")"
  | registryReady conversions =>
    "coercion registry ready with " ++ Decimal.naturalText conversions ++ " built-in conversions"
  | registering source dest => "registering coercion " ++ source.name ++ " -> " ++ dest.name
  | replaced source dest => "replaced coercion " ++ source.name ++ " -> " ++ dest.name
  | loading moduleName functions =>
    "loading stdlib module " ++ moduleName ++ " (" ++ Decimal.naturalText functions ++ " functions)"

/-- The text of a line. -/
def text (line : LogLine) : String := line.level ++ " " ++ line.content

end LogLine

end DynamicValue
