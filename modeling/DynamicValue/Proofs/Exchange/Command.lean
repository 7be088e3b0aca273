/-
# Commands and answers with their types exchanged

The exchange of the two types of probes carries over to the commands of a session and to what the
session answers and shows. Labels, bombs and texts are kept, and so are the complaints about parts
of a command that cannot be read.

An answer also tells things that depend on how a value is stored, or on the order in which a program
uses its types: whether a payload is in the slot, the numbers of identities, and diagnostic texts
with names of types in them. What is left of an answer without these is what the exchange is about.
-/

import DynamicValue.Proofs.Exchange.Registry
import DynamicValue.Session.Run

namespace DynamicValue

open ValueType (exchangeValue exchangeName)

/-! ## Commands -/

/-- The registration with the types in it exchanged. -/
def Registration.exchanged (registration : Registration) : Registration :=
  ⟨registration.source.exchanged, registration.dest.exchanged, registration.script.exchanged⟩

/-- The receiver of the type in the place of its own, with its content. -/
def ReceiverDescription.exchanged (receiver : ReceiverDescription) : ReceiverDescription :=
  ⟨receiver.type.exchanged, receiver.content?.map exchangeValue⟩

/-- The argument with its type exchanged. -/
def Argument.exchanged : Argument → Argument
  | value payload? => value (payload?.map Payload.exchanged)
  | copyOf name => copyOf name

namespace Command

/-- The command with the types in it exchanged. The functions of environments are not concerned. -/
def exchanged : Command → Command
  | new name payload? => new name (payload?.map (Option.map Payload.exchanged))
  | assignValue name payload => assignValue name (payload.map Payload.exchanged)
  | intoInner name type => intoInner name (type.map ValueType.exchanged)
  | holds name type => holds name (type.map ValueType.exchanged)
  | downcast name type => downcast name (type.map ValueType.exchanged)
  | mutate name payload => mutate name (payload.map Payload.exchanged)
  | get name type => get name (type.map ValueType.exchanged)
  | tryGet name type => tryGet name (type.map ValueType.exchanged)
  | getToMut name payload => getToMut name (payload.map Payload.exchanged)
  | identity type? => identity (type?.map (Option.map ValueType.exchanged))
  | sameIdentity first second =>
    sameIdentity (first.map (Option.map ValueType.exchanged))
      (second.map (Option.map ValueType.exchanged))
  | table type => table (type.map ValueType.exchanged)
  | register registry registration => register registry (registration.map Registration.exchanged)
  | unregister registry types =>
    unregister registry (types.map (Prod.map ValueType.exchanged ValueType.exchanged))
  | contains registry source dest =>
    contains registry (source.map (Option.map ValueType.exchanged))
      (dest.map (Option.map ValueType.exchanged))
  | coerce registry name type => coerce registry name (type.map ValueType.exchanged)
  | cast registry source sourceType destType receiver =>
    cast registry (source.map Payload.exchanged) (sourceType.map (Option.map ValueType.exchanged))
      (destType.map (Option.map ValueType.exchanged)) (receiver.map ReceiverDescription.exchanged)
  | call functions name arguments target? =>
    call functions name (arguments.map (Except.map Argument.exchanged)) target?
  | other => other

/-- The steps on variables and on registries: all but those that ask for identities, tables and
counts, and those on environments. -/
def isVariableOrRegistryStep : Command → Bool
  | identity .. | sameIdentity .. | counts | table .. => false
  | newEnvironment .. | load .. | bind .. | isBound .. | environment .. | call .. => false
  | _ => true

theorem isVariableOrRegistryStep_exchanged (command : Command) :
    command.exchanged.isVariableOrRegistryStep = command.isVariableOrRegistryStep := by
  cases command <;> rfl

end Command

/-! ## Answers -/

/-- What is seen of a value, with its type exchanged wherever it stands. -/
def Inspection.exchanged (seen : Inspection) : Inspection :=
  { seen with
    typeName := exchangeName seen.typeName
    types := seen.types.map ValueType.exchanged
    identity := seen.identity.exchanged
    payload? := seen.payload?.map Payload.exchanged }

/-- The value that was asked for, with its type exchanged. -/
def Accessed.exchanged (accessed : Accessed) : Accessed :=
  { accessed with payload := accessed.payload.exchanged }

/-- The error with the types in its cause exchanged. -/
def CallError.exchanged : CallError → CallError
  | badArgument index name cause => badArgument index name cause.exchanged
  | other => other

/-- The table of the type in the place of its own. -/
def OperationTable.exchanged (table : OperationTable) : OperationTable :=
  ⟨table.number, table.type.exchanged, table.identity.exchanged⟩

namespace Answer

/-- The answer with the types in it exchanged. -/
def exchanged : Answer → Answer
  | payload payload? => payload (payload?.map Payload.exchanged)
  | unwrapped content => unwrapped content.exchanged
  | access result => access ((result.map Accessed.exchanged).mapError AccessError.exchanged)
  | tryAccess result => tryAccess (result.map Accessed.exchanged)
  | inspection seen => inspection seen.exchanged
  | identity found => identity found.exchanged
  | table found same => table found.exchanged same
  | coercion result =>
    coercion ((result.map Payload.exchanged).mapError ConversionError.exchanged)
  | casting result slot =>
    casting (result.mapError ConversionError.exchanged) (slot.map Payload.exchanged)
  | call result =>
    call ((result.map (Option.map Payload.exchanged)).mapError CallError.exchanged)
  | other => other

end Answer

/-- What is seen of a value apart from how it is stored: not whether its payload is in the slot or
in a box, nor the number of its identity, nor its diagnostic form. Whether there is a payload at all
still is. -/
def Inspection.withoutStorage (seen : Inspection) : Inspection :=
  { seen with
    isInline := false
    place := if seen.place = .nowhere then .nowhere else .inSlot
    debugText := ""
    identity := seen.identity.anonymous }

/-- The answer without numbers, and without what it tells about how a value is stored. -/
def Answer.withoutStorage : Answer → Answer
  | inspection seen => inspection seen.withoutStorage
  | other => other.anonymous

/-- What two accessors give: values of types in each other's places, or failures that correspond. -/
def AccessesExchanged : Except AccessError Accessed → Except AccessError Accessed → Prop :=
  EndsAlike AccessError.Exchanged fun accessed accessed' => accessed' = accessed.exchanged

/-- Two answers, the second one with the types in the places of the first one's. -/
def AnswersExchanged (answer other : Answer) : Prop :=
  other.withoutStorage = answer.exchanged.withoutStorage

/-! ## Reports -/

/-- What is shown of a variable, with the name of its type exchanged. -/
def VariableView.exchanged (view : VariableView) : VariableView :=
  { view with typeName := exchangeName view.typeName }

/-- What is shown after a step, with the types in it exchanged. The log is left as it is. -/
def StepReport.exchanged (report : StepReport) : StepReport :=
  { report with
    outcome := report.outcome.map Answer.exchanged
    views := report.views.map VariableView.exchanged
    events := report.events.map Event.exchanged }

/-- What is shown after a step apart from how values are stored, and without the log. -/
def StepReport.withoutStorage (report : StepReport) : StepReport :=
  { report with outcome := report.outcome.map Answer.withoutStorage, log := [] }

/-! ## Answers that correspond -/

namespace AnswersExchanged

theorem of_eq {answer other : Answer} (hother : other = answer.exchanged) :
    AnswersExchanged answer other := congrArg Answer.withoutStorage hother

theorem accessed_exchanged {type : ValueType} (access : Access type) :
    access.exchanged.accessed = access.accessed.exchanged :=
  congrArg (Accessed.mk _ _) (ValueType.textOf_exchanged access.value)

/-- What an accessor gives. -/
theorem access {result other : Except AccessError Accessed}
    (hresults : AccessesExchanged result other) :
    AnswersExchanged (.access result) (.access other) := by
  cases hresults with
  | error herrors => exact congrArg (fun error => Answer.access (.error error)) herrors
  | ok hvalues => exact of_eq (congrArg (fun accessed => Answer.access (.ok accessed)) hvalues)

/-- What a coercion gives. -/
theorem coercion {type : ValueType} {result : Except ConversionError type.Value}
    {other : Except ConversionError type.exchanged.Value}
    (hresults : ResultsExchanged ValuesExchanged result other) :
    AnswersExchanged (.coercion (result.map (⟨type, ·⟩)))
      (.coercion (other.map (⟨type.exchanged, ·⟩))) := by
  cases hresults with
  | error herrors => exact congrArg (fun error => Answer.coercion (.error error)) herrors
  | ok hvalues => exact of_eq (congrArg (fun payload => Answer.coercion (.ok payload)) hvalues)

/-- What a cast gives, and what is in its receiver then. -/
theorem casting {result other : Except ConversionError Unit} {slot slot' : Option Payload}
    (hresults : EndsAlike ConversionError.Exchanged Eq result other)
    (hslots : slot' = slot.map Payload.exchanged) :
    AnswersExchanged (.casting result slot) (.casting other slot') := by
  subst hslots
  cases hresults with
  | error herrors =>
      exact congrArg (fun error => Answer.casting (.error error) (slot.map Payload.exchanged))
        herrors
  | ok hvalues =>
      subst hvalues
      exact of_eq rfl

end AnswersExchanged

end DynamicValue
