/-
# What conversions ask for and how they fail

A plan depends on the answers that it gets, so what it asks for is a matter of all its branches that
an answer can lead to. Two things are said of plans here. One is which types and pairs of types they
have to do with. The other is that they hand failures on: when a request fails, the plan fails with
the same error and does nothing more, and when it fails by itself, its error names no other types
than those that it converts between. The built-in rules and all scripts are of this kind.
-/

import DynamicValue.Conversion.Scripted

namespace DynamicValue

/-- Answers that can be given to a request for the conversion of a payload to a type. -/
abbrev Answers : Type :=
  Payload → (dest : ValueType) → Except ConversionError dest.Value → Prop

/-- An error names no other types than a source and a destination. -/
def ConversionError.Names (source? : Option ValueType) (dest : ValueType) : ConversionError → Prop
  | foreignDestination identity => identity.type? = some dest
  | noConversion sourceIdentity identity =>
    sourceIdentity.type? = source? ∧ identity.type? = some dest
  | outOfRange _ identity => identity.type? = some dest
  | inexact _ identity => identity.type? = some dest
  | invalidText _ identity => identity.type? = some dest
  | emptySource => True

namespace Plan

variable {α : Type}

/-- A plan that converts the given payload has only to do with some types and asks only for some
pairs of types, if each request gets one of the given answers. -/
def AsksOnly (types : ValueType → Prop) (pairs : ValueType → ValueType → Prop) (answers : Answers)
    (input : Payload) : Plan α → Prop
  | give _ => True
  | fail _ => True
  | identify type next =>
    types type ∧ ∀ identity : TypeIdentity, identity.type? = some type →
      (next identity).AsksOnly types pairs answers input
  | report _ next => next.AsksOnly types pairs answers input
  | convert source dest next =>
    pairs source.type dest ∧ ∀ answer, answers source dest answer →
      (next answer).AsksOnly types pairs answers input
  | convertCopy dest next =>
    pairs input.type dest ∧ ∀ answer, answers input.copy dest answer →
      (next answer).AsksOnly types pairs answers input

/-- What asks only for some pairs asks only for any others that cover them. -/
theorem AsksOnly.imp {types : ValueType → Prop} {pairs others : ValueType → ValueType → Prop}
    {answers : Answers} {input : Payload} {plan : Plan α}
    (hasks : plan.AsksOnly types pairs answers input)
    (hpairs : ∀ source dest, pairs source dest → others source dest) :
    plan.AsksOnly types others answers input := by
  induction plan with
  | give => trivial
  | fail => trivial
  | identify _ _ ih => exact ⟨hasks.1, fun identity htype => ih identity (hasks.2 identity htype)⟩
  | report _ _ ih => exact ih hasks
  | convert _ _ _ ih =>
      exact ⟨hpairs _ _ hasks.1, fun answer hanswer => ih answer (hasks.2 answer hanswer)⟩
  | convertCopy _ _ ih =>
      exact ⟨hpairs _ _ hasks.1, fun answer hanswer => ih answer (hasks.2 answer hanswer)⟩

/-- A plan for a conversion between two types hands the failures of its requests on, and what it
fails with by itself names only the two types. -/
def HandsFailuresOn (source dest : ValueType) : Plan α → Prop
  | give _ => True
  | fail error => error.Names (some source) dest
  | identify type next =>
    ∀ identity : TypeIdentity, identity.type? = some type →
      (next identity).HandsFailuresOn source dest
  | report _ next => next.HandsFailuresOn source dest
  | convert _ _ next | convertCopy _ next =>
    (∀ error, next (.error error) = .fail error) ∧
      ∀ value, (next (.ok value)).HandsFailuresOn source dest

/-- A plan that leaves no events. -/
def IsSilent : Plan α → Prop
  | give _ => True
  | fail _ => True
  | identify _ next => ∀ identity, (next identity).IsSilent
  | report _ _ => False
  | convert _ _ next | convertCopy _ next => ∀ answer, (next answer).IsSilent

theorem ofResult_handsFailuresOn {source dest : ValueType} :
    (∀ error, (ofResult (.error error) : Plan α) = .fail error) ∧
      ∀ value : α, (ofResult (.ok value)).HandsFailuresOn source dest :=
  ⟨fun _ => rfl, fun _ => trivial⟩

theorem ofResult_isSilent (result : Except ConversionError α) : (ofResult result).IsSilent := by
  cases result <;> exact trivial

end Plan

/-! ## Rules -/

namespace Rule

variable {source dest : ValueType}

theorem conversion_handsFailuresOn (rule : Rule source dest) (value : source.Value) :
    (rule.conversion value).HandsFailuresOn source dest := by
  unfold conversion
  cases rule value with
  | ok result => exact trivial
  | error refusal =>
      intro identity hidentity
      cases refusal <;> exact hidentity

theorem conversion_isSilent (rule : Rule source dest) (value : source.Value) :
    (rule.conversion value).IsSilent := by
  unfold conversion
  cases rule value <;> simp [Plan.IsSilent]

end Rule

/-! ## Scripts -/

namespace ConversionScript

variable {source dest : ValueType}

theorem conversion_handsFailuresOn (script : ConversionScript dest) (value : source.Value) :
    (script.conversion source value).HandsFailuresOn source dest := by
  cases script with
  | constant result => exact trivial
  | failing kind =>
      intro sourceIdentity hsource destIdentity hdest
      cases kind with
      | noConversion => exact ⟨hsource, hdest⟩
      | emptySource => exact trivial
      | foreignDestination => exact hdest
      | outOfRange => exact hdest
      | inexact => exact hdest
      | invalidText => exact hdest
  | throughText => exact Plan.ofResult_handsFailuresOn
  | chain middle => exact ⟨fun _ => rfl, fun _ => Plan.ofResult_handsFailuresOn⟩

/-- A script leaves no events but the one with which it begins. -/
theorem body_isSilent (script : ConversionScript dest) (value : source.Value) :
    (script.body source value).IsSilent := by
  cases script with
  | constant result => exact trivial
  | failing kind => exact fun _ _ => trivial
  | throughText => exact Plan.ofResult_isSilent
  | chain middle =>
      intro answer
      cases answer with
      | error error => exact trivial
      | ok step => exact Plan.ofResult_isSilent

end ConversionScript

end DynamicValue
