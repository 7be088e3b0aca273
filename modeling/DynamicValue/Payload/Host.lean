/-
# Values for a host

A host interpreter has a stack of values of its own: nothing, truth values, integers of 64 bits,
numbers of double width and texts. Each payload is pushed as one of them.
-/

import DynamicValue.Number.Rounding
import DynamicValue.Payload.Text

namespace DynamicValue

/-- A value on the stack of a host. -/
inductive HostValue
  | nothing
  | boolean (value : Bool)
  | integer (value : IntKind.long.Value)
  | number (value : Binary .double)
  | text (value : String)

namespace Payload

/-- What a payload is for a host: an integer stays one if the host's integers hold it and becomes
the nearest number otherwise; types that the host does not know become their texts. -/
def hostValue (payload : Payload) : HostValue :=
  match payload with
  | ⟨.integer _, n⟩ =>
    match IntKind.long.ofInt? n.val with
    | some value => .integer value
    | none => .number (.ofInt .double n.val)
  | ⟨.float .single, x⟩ => .number x.widen
  | ⟨.float .double, x⟩ => .number x
  | ⟨.boolean, b⟩ => .boolean b
  | other => .text other.text

end Payload

end DynamicValue
