/-
# Exchanging the two types of probes

A probe comes in two types that differ in nothing but their size: one is stored in the slot of a
dynamic value, the other one in a box on the heap. The exchange of the two is an involution on types
that keeps the values of a type, so it carries over to whatever has types in it: payloads, events,
identities and errors.

What a payload shows of itself and what comes of copying or destroying it are the same before and
after the exchange. Only its type tells the two apart.
-/

import DynamicValue.Proofs.Cell.Observation
import DynamicValue.Proofs.Likeness.Anonymous
import Mathlib.Data.List.Nodup
import Mathlib.Data.List.ProdSigma

namespace DynamicValue

/-! ## Types and values -/

namespace ValueType

/-- The type with the two types of probes exchanged. -/
def exchanged : ValueType → ValueType
  | probe => bigProbe
  | bigProbe => probe
  | other => other

variable {first second type : ValueType}

@[simp] theorem exchanged_exchanged (type : ValueType) : type.exchanged.exchanged = type := by
  cases type <;> rfl

@[simp] theorem exchanged_inj : first.exchanged = second.exchanged ↔ first = second := by
  refine ⟨fun heq => ?_, congrArg exchanged⟩
  rw [← exchanged_exchanged first, heq, exchanged_exchanged]

/-- The values of a type are those of the other one. -/
theorem value_exchanged (type : ValueType) : type.Value = type.exchanged.Value := by
  cases type <;> rfl

/-- A value of a type as one of the type in its place. -/
def exchangeValue (value : type.Value) : type.exchanged.Value := cast type.value_exchanged value

@[simp] theorem textOf_exchanged (value : type.Value) :
    type.exchanged.textOf (exchangeValue value) = type.textOf value := by
  cases type <;> rfl

@[simp] theorem typeClass_exchanged (type : ValueType) :
    type.exchanged.typeClass = type.typeClass := by
  cases type <;> rfl

@[simp] theorem isForeign_exchanged (type : ValueType) :
    type.exchanged.isForeign = type.isForeign := by
  unfold isForeign
  rw [typeClass_exchanged]

/-- The name of a type with the names of the two types of probes exchanged. -/
def exchangeName (name : String) : String :=
  if name = probe.name then bigProbe.name else if name = bigProbe.name then probe.name else name

theorem exchangeName_name (type : ValueType) : exchangeName type.name = type.exchanged.name := by
  have hall : ∀ type ∈ all, exchangeName type.name = type.exchanged.name := by decide +kernel
  exact hall type (mem_all type)

theorem exchangeName_shownName (type? : Option ValueType) :
    exchangeName (Cell.shownName type?) = Cell.shownName (type?.map exchanged) := by
  cases type? with
  | none => decide
  | some type => exact exchangeName_name type

/-- The exchange does nothing to the pairs of types as a whole. -/
theorem pairs_exchanged_perm :
    ((all ×ˢ all).map (Prod.map exchanged exchanged)).Perm (all ×ˢ all) := by
  have hall : all.Nodup := names_nodup.of_map
  have hinj : Function.Injective (Prod.map exchanged exchanged) := fun first second heq =>
    Prod.ext (exchanged_inj.mp (congrArg Prod.fst heq)) (exchanged_inj.mp (congrArg Prod.snd heq))
  rw [List.perm_ext_iff_of_nodup ((hall.product hall).map hinj) (hall.product hall)]
  rintro ⟨first, second⟩
  refine iff_of_true (List.mem_map.mpr ⟨(first.exchanged, second.exchanged), ?_, ?_⟩) ?_
  · exact List.pair_mem_product.mpr ⟨mem_all _, mem_all _⟩
  · rw [Prod.map_apply, exchanged_exchanged, exchanged_exchanged]
  · exact List.pair_mem_product.mpr ⟨mem_all _, mem_all _⟩

end ValueType

/-! ## Payloads -/

namespace Payload

open ValueType (exchangeValue)

/-- The payload as one of the type in the place of its own. -/
def exchanged (payload : Payload) : Payload := ⟨payload.type.exchanged, exchangeValue payload.value⟩

variable (payload : Payload)

@[simp] theorem exchanged_type : payload.exchanged.type = payload.type.exchanged := rfl

@[simp] theorem text_exchanged : payload.exchanged.text = payload.text :=
  ValueType.textOf_exchanged payload.value

@[simp] theorem hostValue_exchanged : payload.exchanged.hostValue = payload.hostValue := by
  obtain ⟨type, value⟩ := payload
  cases type <;> rfl

@[simp] theorem probe?_exchanged : payload.exchanged.probe? = payload.probe? := by
  obtain ⟨type, value⟩ := payload
  cases type <;> rfl

theorem copy_exchanged : payload.exchanged.copy = payload.copy.exchanged := by
  obtain ⟨type, value⟩ := payload
  cases type <;> rfl

/-- The payload under a type is found under the type in its place. -/
theorem as?_exchanged (type : ValueType) :
    payload.exchanged.as? type.exchanged = (payload.as? type).map exchangeValue := by
  by_cases htype : payload.type = type
  · subst htype
    rw [as?_self, Option.map_some]
    exact payload.exchanged.as?_self
  · rw [as?_eq_none_iff.mpr htype, Option.map_none, as?_eq_none_iff, exchanged_type, ne_eq,
      ValueType.exchanged_inj]
    exact htype

/-- A copy may fail, and does so for either type. -/
theorem copied_exchanged : payload.exchanged.copied = payload.copied.map exchanged := by
  unfold copied
  rw [probe?_exchanged, copy_exchanged]
  split
  · split <;> rfl
  · rfl

@[simp] theorem dropped_exchanged : payload.exchanged.dropped = payload.dropped := by
  unfold dropped
  rw [probe?_exchanged]

@[simp] theorem droppedOf_exchanged (payload? : Option Payload) :
    droppedOf (payload?.map exchanged) = droppedOf payload? := by
  cases payload? with
  | none => rfl
  | some payload => exact payload.dropped_exchanged

end Payload

/-! ## Events -/

namespace Event

/-- The event with the types in it exchanged. -/
def exchanged : Event → Event
  | converted source dest => converted source.exchanged dest.exchanged
  | other => other

end Event

namespace Payload

theorem copyEvents_exchanged (payload : Payload) :
    payload.exchanged.copyEvents = payload.copyEvents.map Event.exchanged := by
  unfold copyEvents
  rw [probe?_exchanged]
  split <;> rfl

theorem dropEvents_exchanged (payload : Payload) :
    payload.exchanged.dropEvents = payload.dropEvents.map Event.exchanged := by
  unfold dropEvents
  rw [probe?_exchanged]
  split <;> rfl

theorem dropEventsOf_exchanged (payload? : Option Payload) :
    dropEventsOf (payload?.map exchanged) = (dropEventsOf payload?).map Event.exchanged := by
  cases payload? with
  | none => rfl
  | some payload => exact payload.dropEvents_exchanged

end Payload

/-! ## Identities and errors -/

/-- The identity with its type exchanged. -/
def TypeIdentity.exchanged (identity : TypeIdentity) : TypeIdentity :=
  ⟨identity.number, identity.type?.map ValueType.exchanged⟩

namespace TypeIdentity

/-- Two identities, the second one of the type in the place of the first one's. Their numbers are
those of different programs. -/
def Exchanged (first second : TypeIdentity) : Prop :=
  second.anonymous = first.exchanged.anonymous

variable {first second : TypeIdentity}

theorem Exchanged.null : Exchanged .null .null := rfl

theorem Exchanged.type?_eq (hsame : first.Exchanged second) :
    second.type? = first.type?.map ValueType.exchanged := by
  have htype : first.exchanged.type? = first.type?.map ValueType.exchanged := rfl
  rw [type?_of_anonymous hsame, htype]

theorem Exchanged.isNull_eq (hsame : first.Exchanged second) : second.isNull = first.isNull := by
  have hnull : first.exchanged.isNull = first.isNull := rfl
  rw [isNull_of_anonymous hsame, hnull]

theorem Exchanged.isForeign_eq (hsame : first.Exchanged second) :
    second.isForeign = first.isForeign := by
  unfold isForeign typeClass
  rw [hsame.type?_eq]
  cases first.type? with
  | none => rfl
  | some type => simp

end TypeIdentity

/-- The error with its types exchanged. -/
def ConversionError.exchanged : ConversionError → ConversionError
  | foreignDestination dest => foreignDestination dest.exchanged
  | noConversion source dest => noConversion source.exchanged dest.exchanged
  | outOfRange value dest => outOfRange value dest.exchanged
  | inexact value dest => inexact value dest.exchanged
  | invalidText text dest => invalidText text dest.exchanged
  | emptySource => emptySource

namespace ConversionError

/-- Two errors, the second one with the types in the places of the first one's. -/
def Exchanged (first second : ConversionError) : Prop :=
  second.anonymous = first.exchanged.anonymous

variable {source source' dest dest' : TypeIdentity}

theorem Exchanged.foreignDestination (hdest : dest.Exchanged dest') :
    Exchanged (.foreignDestination dest) (.foreignDestination dest') :=
  congrArg ConversionError.foreignDestination hdest

theorem Exchanged.noConversion (hsource : source.Exchanged source') (hdest : dest.Exchanged dest') :
    Exchanged (.noConversion source dest) (.noConversion source' dest') :=
  congrArg₂ ConversionError.noConversion hsource hdest

theorem Exchanged.ofKind (kind : ConversionErrorKind) (text : String)
    (hsource : source.Exchanged source') (hdest : dest.Exchanged dest') :
    Exchanged (.ofKind kind text source dest) (.ofKind kind text source' dest') := by
  unfold TypeIdentity.Exchanged at hsource hdest
  cases kind <;> simp only [Exchanged, ConversionError.ofKind, anonymous, exchanged, hsource, hdest]

end ConversionError

theorem Refusal.conversionError_exchanged (refusal : Refusal) {dest dest' : TypeIdentity}
    (hdest : dest.Exchanged dest') :
    (refusal.conversionError dest).Exchanged (refusal.conversionError dest') := by
  unfold TypeIdentity.Exchanged at hdest
  cases refusal <;>
    simp only [ConversionError.Exchanged, conversionError, ConversionError.anonymous,
      ConversionError.exchanged, hdest]

/-- The failure with its types exchanged. -/
def AccessError.exchanged (error : AccessError) : AccessError :=
  ⟨error.source.exchanged, error.dest.exchanged, error.cause.exchanged⟩

end DynamicValue
