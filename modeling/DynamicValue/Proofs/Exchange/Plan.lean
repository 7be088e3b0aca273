/-
# Conversions with their types exchanged

A conversion corresponds to another one, between the types in the places of its own, if the two take
the same course on every value: they ask for the same identities and conversions up to the exchange,
report the same events, and go on in the same way with answers that correspond.

No built-in conversion leads from or to a probe, so each of them corresponds to itself. A scripted
conversion corresponds to the one whose script has the types in it exchanged. What is live in a
registry corresponds as long as the operations on the registries do.
-/

import DynamicValue.Proofs.Exchange.Types
import DynamicValue.Proofs.Likeness.Plan

namespace DynamicValue

open ValueType (exchangeValue)

/-- Results of two conversions: values that correspond, or errors that do. -/
abbrev ResultsExchanged {α β : Type} (values : α → β → Prop) :
    Except ConversionError α → Except ConversionError β → Prop :=
  EndsAlike ConversionError.Exchanged values

/-- The second value is the first one as a value of the type in its place. -/
abbrev ValuesExchanged {type type' : ValueType} (value : type.Value) (other : type'.Value) : Prop :=
  (⟨type', other⟩ : Payload) = (⟨type, value⟩ : Payload).exchanged

theorem ValuesExchanged.eq {type : ValueType} {value : type.Value} {other : type.exchanged.Value}
    (hvalues : ValuesExchanged value other) : other = exchangeValue value :=
  eq_of_heq (Payload.mk.inj hvalues).2

/-! ## Plans -/

/-- Plans that take the same course, the second one with the types in the places of the first
one's. -/
inductive Plan.Exchanged {α β : Type} (values : α → β → Prop) : Plan α → Plan β → Prop
  | give {value : α} {other : β} (hvalues : values value other) :
      Exchanged values (.give value) (.give other)
  | fail {error other : ConversionError} (herrors : error.Exchanged other) :
      Exchanged values (.fail error) (.fail other)
  | identify (type : ValueType) {next : TypeIdentity → Plan α} {other : TypeIdentity → Plan β}
      (hnext : ∀ first second, first.Exchanged second →
        Exchanged values (next first) (other second)) :
      Exchanged values (.identify type next) (.identify type.exchanged other)
  | report (event : Event) {next : Plan α} {other : Plan β} (hnext : Exchanged values next other) :
      Exchanged values (.report event next) (.report event.exchanged other)
  | convert (source : Payload) (dest : ValueType)
      {next : Except ConversionError dest.Value → Plan α}
      {other : Except ConversionError dest.exchanged.Value → Plan β}
      (hnext : ∀ first second, ResultsExchanged ValuesExchanged first second →
        Exchanged values (next first) (other second)) :
      Exchanged values (.convert source dest next) (.convert source.exchanged dest.exchanged other)
  | convertCopy (dest : ValueType) {next : Except ConversionError dest.Value → Plan α}
      {other : Except ConversionError dest.exchanged.Value → Plan β}
      (hnext : ∀ first second, ResultsExchanged ValuesExchanged first second →
        Exchanged values (next first) (other second)) :
      Exchanged values (.convertCopy dest next) (.convertCopy dest.exchanged other)

theorem Plan.Exchanged.ofResult {α β : Type} {values : α → β → Prop}
    {first : Except ConversionError α} {second : Except ConversionError β}
    (hresults : ResultsExchanged values first second) :
    Plan.Exchanged values (Plan.ofResult first) (Plan.ofResult second) := by
  cases hresults with
  | ok hvalues => exact .give hvalues
  | error herrors => exact .fail herrors

/-! ## Conversions -/

/-- A conversion that takes the same course as another one between the types in the places of its
own. -/
def Conversion.Exchanged {source dest : ValueType} (first : Conversion source dest)
    (second : Conversion source.exchanged dest.exchanged) : Prop :=
  ∀ value, Plan.Exchanged ValuesExchanged (first value) (second (exchangeValue value))

namespace Rule

variable {source dest : ValueType}

/-- The rule between the types in the places of the types of a rule. -/
def exchanged (rule : Rule source dest) : Rule source.exchanged dest.exchanged := fun value =>
  (rule (cast source.value_exchanged.symm value)).map exchangeValue

theorem conversion_exchanged (rule : Rule source dest) :
    Conversion.Exchanged rule.conversion rule.exchanged.conversion := by
  intro value
  have hvalue : cast source.value_exchanged.symm (exchangeValue value) = value := by
    simp [exchangeValue]
  unfold conversion exchanged
  rw [hvalue]
  cases rule value with
  | ok result => exact .give rfl
  | error refusal =>
      exact .identify dest fun _ _ hdest => .fail (refusal.conversionError_exchanged hdest)

end Rule

namespace ConversionScript

variable {dest : ValueType}

/-- The script with the types in it exchanged. -/
def exchanged : ConversionScript dest → ConversionScript dest.exchanged
  | constant value => constant (exchangeValue value)
  | failing kind => failing kind
  | throughText => throughText
  | chain middle => chain middle.exchanged

/-- A scripted conversion passes on what it is given, and the text of its source is the same. -/
theorem conversion_exchanged (script : ConversionScript dest) (source : ValueType) :
    Conversion.Exchanged (script.conversion source) (script.exchanged.conversion source.exchanged)
      := by
  intro value
  refine .report (.converted source dest) ?_
  cases script with
  | constant result => exact .give rfl
  | failing kind =>
      refine .identify source fun _ _ hsource => .identify dest fun _ _ hdest => .fail ?_
      rw [ValueType.textOf_exchanged]
      exact .ofKind kind _ hsource hdest
  | throughText =>
      unfold exchanged body
      rw [ValueType.textOf_exchanged]
      exact .convert ⟨.text, source.textOf value⟩ dest fun _ _ => .ofResult
  | chain middle =>
      refine .convertCopy middle fun _ _ hresults => ?_
      cases hresults with
      | error herrors => exact .fail herrors
      | @ok step step' hvalues =>
          have hvalues : (⟨middle.exchanged, step'⟩ : Payload) = _ := hvalues
          simp only [hvalues]
          exact .convert ⟨middle, step⟩ dest fun _ _ => .ofResult

end ConversionScript

/-! ## Histories -/

/-- An operation on a registry and the one on the types in the places of its own. -/
inductive RegistryOperation.Exchanged : RegistryOperation → RegistryOperation → Prop
  | register {source dest : ValueType} {conversion : Conversion source dest}
      {other : Conversion source.exchanged dest.exchanged}
      (hconversions : conversion.Exchanged other) :
      Exchanged (.register source dest conversion)
        (.register source.exchanged dest.exchanged other)
  | unregister (source dest : ValueType) :
      Exchanged (.unregister source dest) (.unregister source.exchanged dest.exchanged)

/-- Histories whose operations correspond one by one. -/
abbrev HistoriesExchanged : List RegistryOperation → List RegistryOperation → Prop :=
  List.Forall₂ RegistryOperation.Exchanged

section Histories

variable {operation other : RegistryOperation} {history history' : List RegistryOperation}

/-- Operations that correspond leave conversions that correspond, each for its own types. -/
theorem RegistryOperation.Exchanged.verdict? (hoperations : operation.Exchanged other)
    (source dest : ValueType) :
    Option.Rel (Option.Rel Conversion.Exchanged) (operation.verdict? source dest)
      (other.verdict? source.exchanged dest.exchanged) := by
  have htypes : other.types = (operation.types.1.exchanged, operation.types.2.exchanged) := by
    cases hoperations <;> rfl
  by_cases hpair : operation.types = (source, dest)
  · cases hoperations with
    | register hconversions =>
        obtain ⟨rfl, rfl⟩ := Prod.mk.inj hpair
        rw [verdict?_register_self, verdict?_register_self]
        exact .some (.some hconversions)
    | unregister source' dest' =>
        obtain ⟨rfl, rfl⟩ := Prod.mk.inj hpair
        rw [verdict?_unregister_self, verdict?_unregister_self]
        exact .some .none
  · have hpair' : other.types ≠ (source.exchanged, dest.exchanged) := by
      rw [htypes, ne_eq, Prod.mk.injEq, ValueType.exchanged_inj, ValueType.exchanged_inj]
      exact fun heq => hpair (Prod.ext heq.1 heq.2)
    rw [verdict?_of_ne hpair, verdict?_of_ne hpair']
    exact .none

/-- What is live for a pair of types corresponds to what is live for the types in their places. -/
theorem HistoriesExchanged.liveConversion? (hhistories : HistoriesExchanged history history')
    (source dest : ValueType) :
    Option.Rel Conversion.Exchanged (liveConversion? history source dest)
      (DynamicValue.liveConversion? history' source.exchanged dest.exchanged) := by
  have hverdicts : Option.Rel (Option.Rel Conversion.Exchanged)
      (history.reverse.findSome? (RegistryOperation.verdict? source dest))
      (history'.reverse.findSome?
        (RegistryOperation.verdict? source.exchanged dest.exchanged)) := by
    have hreversed := List.forall₂_reverse_iff.mpr hhistories
    generalize history.reverse = reversed at hreversed ⊢
    generalize history'.reverse = reversed' at hreversed ⊢
    induction hreversed with
    | nil => exact .none
    | @cons operation other _ _ hoperations _ ih =>
        rw [List.findSome?_cons, List.findSome?_cons]
        have hverdict := hoperations.verdict? source dest
        generalize operation.verdict? source dest = verdict at hverdict ⊢
        generalize other.verdict? source.exchanged dest.exchanged = verdict' at hverdict ⊢
        cases hverdict with
        | none => exact ih
        | some hconversions => exact .some hconversions
  unfold DynamicValue.liveConversion?
  generalize history.reverse.findSome? _ = verdict at hverdicts ⊢
  generalize history'.reverse.findSome? _ = verdict' at hverdicts ⊢
  cases hverdicts with
  | none => exact .none
  | some hconversions => exact hconversions

/-- A conversion that is live for a payload and a type has a counterpart, which takes the same
course on the payload in the place of the first one. -/
theorem HistoriesExchanged.exists_live (hhistories : HistoriesExchanged history history')
    {source source' : Payload} (hsources : source' = source.exchanged) {dest dest' : ValueType}
    (hdests : dest' = dest.exchanged) {conversion : Conversion source.type dest}
    (hlive : DynamicValue.liveConversion? history source.type dest = some conversion) :
    ∃ conversion' : Conversion source'.type dest',
      DynamicValue.liveConversion? history' source'.type dest' = some conversion' ∧
        Plan.Exchanged ValuesExchanged (conversion source.value) (conversion' source'.value) := by
  subst hsources hdests
  have hconversions := hhistories.liveConversion? source.type dest
  rw [hlive] at hconversions
  generalize hlive' : DynamicValue.liveConversion? history' source.type.exchanged dest.exchanged =
    conversion'? at hconversions
  cases hconversions with
  | some hconversions => exact ⟨_, hlive', hconversions source.value⟩

theorem HistoriesExchanged.live_none (hhistories : HistoriesExchanged history history')
    {source source' dest dest' : ValueType} (hsources : source' = source.exchanged)
    (hdests : dest' = dest.exchanged)
    (hmissing : DynamicValue.liveConversion? history source dest = none) :
    DynamicValue.liveConversion? history' source' dest' = none := by
  subst hsources hdests
  have hconversions := hhistories.liveConversion? source dest
  rw [hmissing] at hconversions
  generalize DynamicValue.liveConversion? history' source.exchanged dest.exchanged = conversion'?
    at hconversions
  cases hconversions
  rfl

theorem HistoriesExchanged.isLive_eq (hhistories : HistoriesExchanged history history')
    (source dest : ValueType) :
    isLive history' (source.exchanged, dest.exchanged) = isLive history (source, dest) := by
  have hlive := hhistories.liveConversion? source dest
  unfold isLive
  generalize DynamicValue.liveConversion? history source dest = conversion? at hlive ⊢
  generalize DynamicValue.liveConversion? history' source.exchanged dest.exchanged = other?
    at hlive ⊢
  cases hlive <;> rfl

end Histories

/-! ## The built-in conversions -/

namespace BuiltIn

/-- No built-in conversion leads from or to a probe. -/
theorem types_exchanged :
    ∀ builtIn ∈ all, builtIn.source.exchanged = builtIn.source ∧
      builtIn.dest.exchanged = builtIn.dest := by
  have htypes : ∀ pair ∈ all.map fun builtIn => (builtIn.source, builtIn.dest),
      pair.1.exchanged = pair.1 ∧ pair.2.exchanged = pair.2 := by
    decide +kernel
  exact fun builtIn hmem => htypes _ (List.mem_map_of_mem hmem)

/-- A rule that no probe takes part in is not changed by the exchange. -/
theorem exchanged_eq {source dest source' dest' : ValueType} (rule : Rule source dest)
    (hsource : source' = source) (hdest : dest' = dest) (hvalue : source'.Value = source.Value)
    (hresult : dest.Value = dest'.Value) :
    (⟨source', dest', fun value => (rule (cast hvalue value)).map (cast hresult)⟩ : BuiltIn) =
      ⟨source, dest, rule⟩ := by
  subst hsource hdest
  congr 1
  funext value
  change (rule value).map id = rule value
  cases rule value <;> rfl

/-- The built-in registrations correspond to themselves. -/
theorem registrations_exchanged : HistoriesExchanged registrations registrations := by
  unfold registrations
  rw [HistoriesExchanged, List.forall₂_map_left_iff, List.forall₂_map_right_iff, List.forall₂_same]
  intro builtIn hmem
  obtain ⟨hsource, hdest⟩ := types_exchanged builtIn hmem
  have hsame := exchanged_eq builtIn.rule hsource hdest builtIn.source.value_exchanged.symm
    builtIn.dest.value_exchanged
  have hoperations := RegistryOperation.Exchanged.register builtIn.rule.conversion_exchanged
  have hregistered := congrArg (fun builtIn : BuiltIn =>
    RegistryOperation.register builtIn.source builtIn.dest builtIn.rule.conversion) hsame
  exact hregistered ▸ hoperations

end BuiltIn

end DynamicValue
