/-
# Payloads

The values of each type, and payloads: values together with their type. Probes are values that
report when they are copied and destroyed, and that can be told to fail then; they make the life of
a payload visible. Nothing else about copying or destroying a payload can be observed.
-/

import DynamicValue.Decimal.Natural
import DynamicValue.Type.Basic

namespace DynamicValue

/-- A point of the plane. -/
structure Point where
  x : IntKind.Value ⟨true, .bits32⟩
  y : IntKind.Value ⟨true, .bits32⟩

/-- Four machine words, too large for a slot. -/
structure Block where
  first : IntKind.Value ⟨false, .bits64⟩
  second : IntKind.Value ⟨false, .bits64⟩
  third : IntKind.Value ⟨false, .bits64⟩
  fourth : IntKind.Value ⟨false, .bits64⟩

/-- When a probe fails. -/
inductive Bomb
  | none
  | onClone
  | onDrop
  deriving DecidableEq, Repr

/-- A value whose copies and whose end are reported. The generation counts the copies that led to
it. -/
structure Probe where
  label : String
  generation : Nat
  bomb : Bomb
  deriving DecidableEq, Repr

namespace Probe

/-- The text of a probe: its label and its generation. -/
def text (probe : Probe) : String := probe.label ++ "#" ++ Decimal.naturalText probe.generation

/-- The copy of a probe belongs to the next generation. -/
def copy (probe : Probe) : Probe := { probe with generation := probe.generation + 1 }

end Probe

/-- The values of a type. -/
@[reducible] def ValueType.Value : ValueType → Type
  | integer kind => kind.Value
  | float kind => Binary kind
  | boolean => Bool
  | character => Char
  | text => String
  | literal => String
  | point => Point
  | block => Block
  | handle => Unit
  | over16 => Unit
  | tagged => String
  | fixed => IntKind.Value ⟨true, .bits64⟩
  | probe => Probe
  | bigProbe => Probe

/-- A value together with its type. -/
structure Payload where
  type : ValueType
  value : type.Value

namespace Payload

/-- The value of a payload, if it has the given type. -/
def as? (payload : Payload) (type : ValueType) : Option type.Value :=
  if h : payload.type = type then some (h ▸ payload.value) else none

/-- The probe that a payload is, if it is one. -/
def probe? (payload : Payload) : Option Probe :=
  match payload with
  | ⟨.probe, probe⟩ => some probe
  | ⟨.bigProbe, probe⟩ => some probe
  | _ => none

/-- The copy of a payload: equal to it, but for the generation of a probe. -/
def copy (payload : Payload) : Payload :=
  match payload with
  | ⟨.probe, probe⟩ => ⟨.probe, probe.copy⟩
  | ⟨.bigProbe, probe⟩ => ⟨.bigProbe, probe.copy⟩
  | other => other

theorem copy_type (payload : Payload) : payload.copy.type = payload.type := by
  obtain ⟨type, value⟩ := payload
  cases type <;> rfl

theorem as?_self (payload : Payload) : payload.as? payload.type = some payload.value := by
  simp [as?]

theorem as?_eq_none_iff {payload : Payload} {type : ValueType} :
    payload.as? type = none ↔ payload.type ≠ type := by
  unfold as?
  split <;> simp_all

end Payload

end DynamicValue
