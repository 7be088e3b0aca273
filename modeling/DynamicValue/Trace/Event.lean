/-
# Events

What happens to payloads while they are copied, destroyed and converted. Probes report their copies
and their ends; conversions that were registered by hand report each of their calls.
-/

import DynamicValue.Payload.Basic

namespace DynamicValue

/-- An event in the life of payloads. -/
inductive Event
  | cloned (probe : Probe)
  | dropped (probe : Probe)
  | converted (source dest : ValueType)
  deriving DecidableEq

/-- The text of an event. -/
def Event.text : Event → String
  | cloned probe => "clone " ++ probe.text
  | dropped probe => "drop " ++ probe.text
  | converted source dest => "convert " ++ source.tag ++ "->" ++ dest.tag

end DynamicValue
