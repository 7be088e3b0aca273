/-
# Conversions that make nothing of numbers

A conversion is handed identities, and the errors of other conversions, which have identities in
them. It is blind to numbers if what it does with them does not depend on their numbers: its plans
for identities of the same type take the same course, and errors that it ends with differ in numbers
only. All conversions that a session can register are blind, and so are the built-in ones.
-/

import DynamicValue.Proofs.Likeness.Anonymous
import DynamicValue.Proofs.Registry.History

namespace DynamicValue

/-- Two actions end alike: both with values, or both with failures, that correspond to each
other. -/
inductive EndsAlike {ε α β : Type} (failures : ε → ε → Prop) (values : α → β → Prop) :
    Except ε α → Except ε β → Prop
  | ok {value : α} {other : β} (hvalues : values value other) :
      EndsAlike failures values (.ok value) (.ok other)
  | error {failure other : ε} (hfailures : failures failure other) :
      EndsAlike failures values (.error failure) (.error other)

/-- Errors that differ in nothing but the numbers of identities. -/
def ConversionError.Alike (first second : ConversionError) : Prop :=
  first.anonymous = second.anonymous

/-- Results of conversions that differ in nothing but the numbers of identities. -/
abbrev ResultsAlike {α : Type} : Except ConversionError α → Except ConversionError α → Prop :=
  EndsAlike ConversionError.Alike Eq

theorem ResultsAlike.mapError_eq {α : Type} {first second : Except ConversionError α}
    (halike : ResultsAlike first second) :
    first.mapError ConversionError.anonymous = second.mapError ConversionError.anonymous := by
  cases halike with
  | ok hvalues => exact congrArg Except.ok hvalues
  | error hfailures => exact congrArg Except.error hfailures

/-- Plans that take the same course, whatever numbers the identities have that they are handed. -/
inductive Plan.Alike {α : Type} : Plan α → Plan α → Prop
  | give (value : α) : Alike (.give value) (.give value)
  | fail {error other : ConversionError} (herrors : error.Alike other) :
      Alike (.fail error) (.fail other)
  | identify (type : ValueType) {next other : TypeIdentity → Plan α}
      (hnext : ∀ first second, first.anonymous = second.anonymous →
        Alike (next first) (other second)) :
      Alike (.identify type next) (.identify type other)
  | report (event : Event) {next other : Plan α} (hnext : Alike next other) :
      Alike (.report event next) (.report event other)
  | convert (source : Payload) (dest : ValueType)
      {next other : Except ConversionError dest.Value → Plan α}
      (hnext : ∀ first second, ResultsAlike first second → Alike (next first) (other second)) :
      Alike (.convert source dest next) (.convert source dest other)
  | convertCopy (dest : ValueType) {next other : Except ConversionError dest.Value → Plan α}
      (hnext : ∀ first second, ResultsAlike first second → Alike (next first) (other second)) :
      Alike (.convertCopy dest next) (.convertCopy dest other)

theorem Plan.Alike.ofResult {α : Type} {first second : Except ConversionError α}
    (halike : ResultsAlike first second) :
    Plan.Alike (Plan.ofResult first) (Plan.ofResult second) := by
  cases halike with
  | ok hvalues =>
      subst hvalues
      exact .give _
  | error hfailures => exact .fail hfailures

/-- A conversion whose plans do not depend on the numbers of identities. -/
def Conversion.IsBlind {source dest : ValueType} (conversion : Conversion source dest) : Prop :=
  ∀ value, (conversion value).Alike (conversion value)

/-- The conversion that a rule describes shows the identity of its destination in errors only. -/
theorem Rule.conversion_isBlind {source dest : ValueType} (rule : Rule source dest) :
    Conversion.IsBlind rule.conversion := by
  intro value
  unfold Rule.conversion
  cases rule value with
  | ok result => exact .give result
  | error refusal =>
      exact .identify dest fun _ _ hsame => .fail (refusal.conversionError_anonymous hsame)

/-- A scripted conversion passes identities and errors on. -/
theorem ConversionScript.conversion_isBlind {dest : ValueType} (script : ConversionScript dest)
    (source : ValueType) : Conversion.IsBlind (script.conversion source) := by
  intro value
  refine .report _ ?_
  cases script with
  | constant result => exact .give result
  | failing kind =>
      refine .identify source fun first second hsource => ?_
      refine .identify dest fun _ _ hdest => .fail ?_
      exact ConversionError.ofKind_anonymous kind _ hsource hdest
  | throughText => exact .convert _ dest fun _ _ => Plan.Alike.ofResult
  | chain middle =>
      refine .convertCopy middle fun first second halike => ?_
      cases halike with
      | ok hvalues =>
          subst hvalues
          exact .convert _ dest fun _ _ => Plan.Alike.ofResult
      | error hfailures => exact .fail hfailures

/-! ## Histories of blind conversions -/

/-- A change to a registry that puts no other than a blind conversion into it. -/
def RegistryOperation.IsBlind : RegistryOperation → Prop
  | register _ _ conversion => conversion.IsBlind
  | unregister _ _ => True

/-- What is live after blind conversions were registered is blind. -/
theorem isBlind_of_liveConversion? {history : List RegistryOperation}
    (hblind : ∀ operation ∈ history, operation.IsBlind) {source dest : ValueType}
    {conversion : Conversion source dest}
    (hlive : liveConversion? history source dest = some conversion) : conversion.IsBlind :=
  hblind _ (register_mem_of_live hlive)

theorem BuiltIn.registrations_isBlind : ∀ operation ∈ registrations, operation.IsBlind := by
  intro operation hmem
  obtain ⟨builtIn, -, rfl⟩ := List.mem_map.mp hmem
  exact builtIn.rule.conversion_isBlind

end DynamicValue
