/-
# Nested conversions

A conversion may ask the registry that runs it for further conversions, these for others, and so on.
What comes of that is defined here by rules, without a limit to the nesting: a request passes the
three gates and then the live conversion is carried out, where each of its requests is met by the
same rules. Along with the outcome the rules tell what was asked for, what ran and what failed, in
this order.

The rules leave no choice. Each request that passes the gates runs its conversion once, and nothing
else does. If conversions hand failures on, nothing happens any more after the first one but that
the requests around it fail with the same error.
-/

import DynamicValue.Proofs.Registry.Coercion
import DynamicValue.Proofs.Registry.Relations

namespace DynamicValue

/-- How a request ends: its outcome and the program that it leaves. -/
abbrev Ending (α : Type) : Type := Except Halt (Except ConversionError α) × Machine

/-- What happens in turn while requests are met: a value is asked for as a type, a conversion runs,
a request fails. The source is missing if the value is empty. -/
inductive Turn
  | asked (source? : Option ValueType) (dest : ValueType)
  | ran (source dest : ValueType)
  | failed (source? : Option ValueType) (dest : ValueType) (error : ConversionError)

namespace Turn

/-- The pair that is asked for. -/
def request? : Turn → Option (Option ValueType × ValueType)
  | asked source? dest => some (source?, dest)
  | ran .. => none
  | failed .. => none

/-- The pair whose conversion runs. -/
def run? : Turn → Option (ValueType × ValueType)
  | asked .. => none
  | ran source dest => some (source, dest)
  | failed .. => none

/-- The error of a request that fails. -/
def error? : Turn → Option ConversionError
  | asked .. => none
  | ran .. => none
  | failed _ _ error => some error

end Turn

/-- The requests of a trace, in their order. -/
def requests (trace : List Turn) : List (Option ValueType × ValueType) :=
  trace.filterMap Turn.request?

/-- The conversions that run in a trace, in their order. -/
def conversionRuns (trace : List Turn) : List (ValueType × ValueType) :=
  trace.filterMap Turn.run?

/-- The conversion that a request leads to, if it passes the gates: the destination is native, the
value is not empty, and a conversion between the two types is live. -/
def admitted? (history : List RegistryOperation) (request : Option ValueType × ValueType) :
    Option (ValueType × ValueType) :=
  if request.2.isForeign then none
  else request.1.bind fun source =>
    if isLive history (source, request.2) then some (source, request.2) else none

/-- What the end of the scope of a value makes of the end of the action in it: the value is
destroyed, and discarded after a halt. -/
def Cell.closing {α : Type} (cell : Cell) : Except Halt α × Machine → Except Halt α × Machine
  | (.ok result, machine) =>
    ((cell.destroy.run machine).1.map fun _ => result, (cell.destroy.run machine).2)
  | (.error halt, machine) => (.error halt, (cell.discard.run machine).2)

theorem Cell.inScope_run {α : Type} (cell : Cell) (action : Action Machine α) (machine : Machine) :
    (cell.inScope action).run machine = cell.closing (action.run machine) := by
  rcases hrun : action.run machine with ⟨outcome, after⟩
  unfold inScope
  cases outcome with
  | error halt => exact Action.run_bind_error _ (Action.run_unwinding_error _ hrun)
  | ok result =>
      rw [Action.run_bind_ok _ (Action.run_unwinding_ok _ hrun)]
      exact Action.run_bind_pure (fun _ => result) rfl

/-- A result is moved to the caller, and the payload that it was is given up. -/
def Ending.handedOver {α : Type} (ending : Ending α) : Ending α :=
  (ending.1, match ending.1 with
    | .ok (.ok _) => ending.2.advance ending.2.heap 1 [ending.2.created] []
    | _ => ending.2)

/-- The turn in which a request fails, if it does. -/
def Ending.failure {α : Type} (ending : Ending α) (source dest : ValueType) : List Turn :=
  match ending.1 with
  | .ok (.error error) => [.failed (some source) dest error]
  | _ => []

/-! ## The rules -/

/-- How a request for a value as a type is met in a program, with what happens in turn. -/
abbrev Answering : Type :=
  Cell → (dest : ValueType) → Machine → Ending dest.Value → List Turn → Prop

/-- A plan for an instance is carried out, with its requests met in a given way. The values that are
made for requests live to the end of the plan. -/
inductive Plan.Carried (answering : Answering) (input : Instance) {α : Type} :
    Plan α → Machine → Ending α → List Turn → Prop
  | give (value : α) (machine : Machine) :
      Carried answering input (.give value) machine (.ok (.ok value), machine) []
  | fail (error : ConversionError) (machine : Machine) :
      Carried answering input (.fail error) machine (.ok (.error error), machine) []
  | identify {type : ValueType} {next : TypeIdentity → Plan α} {machine : Machine}
      {ending : Ending α} {trace : List Turn}
      (hnext : Carried answering input (next (Machine.identify type machine).1)
        (Machine.identify type machine).2 ending trace) :
      Carried answering input (.identify type next) machine ending trace
  | report {event : Event} {next : Plan α} {machine : Machine} {ending : Ending α}
      {trace : List Turn}
      (hnext : Carried answering input next (machine.advance machine.heap 0 [] [event])
        ending trace) :
      Carried answering input (.report event next) machine ending trace
  | convert {source : Payload} {dest : ValueType}
      {next : Except ConversionError dest.Value → Plan α} {machine made middle : Machine}
      {cell : Cell} {answer : Except ConversionError dest.Value} {ending : Ending α}
      {trace rest : List Turn} (hmade : Cell.ofPayload source machine = (cell, made))
      (hanswer : answering cell dest made (.ok answer, middle) trace)
      (hnext : Carried answering input (next answer) middle ending rest) :
      Carried answering input (.convert source dest next) machine (cell.closing ending)
        (trace ++ rest)
  | convertHalted {source : Payload} {dest : ValueType}
      {next : Except ConversionError dest.Value → Plan α} {machine made middle : Machine}
      {cell : Cell} {halt : Halt} {trace : List Turn}
      (hmade : Cell.ofPayload source machine = (cell, made))
      (hhalted : answering cell dest made (.error halt, middle) trace) :
      Carried answering input (.convert source dest next) machine
        (cell.closing (.error halt, middle)) trace
  | convertCopy {dest : ValueType} {next : Except ConversionError dest.Value → Plan α}
      {machine made middle : Machine} {cell : Cell}
      {answer : Except ConversionError dest.Value} {ending : Ending α} {trace rest : List Turn}
      (hmade : (Cell.ofCopy input).run machine = (.ok cell, made))
      (hanswer : answering cell dest made (.ok answer, middle) trace)
      (hnext : Carried answering input (next answer) middle ending rest) :
      Carried answering input (.convertCopy dest next) machine (cell.closing ending)
        (trace ++ rest)
  | convertCopyHalted {dest : ValueType} {next : Except ConversionError dest.Value → Plan α}
      {machine made middle : Machine} {cell : Cell} {halt : Halt} {trace : List Turn}
      (hmade : (Cell.ofCopy input).run machine = (.ok cell, made))
      (hhalted : answering cell dest made (.error halt, middle) trace) :
      Carried answering input (.convertCopy dest next) machine
        (cell.closing (.error halt, middle)) trace
  | copyPanics {dest : ValueType} {next : Except ConversionError dest.Value → Plan α}
      {machine after : Machine} {halt : Halt}
      (hpanics : (Cell.ofCopy input).run machine = (.error halt, after)) :
      Carried answering input (.convertCopy dest next) machine (.error halt, after) []

/-- A registry with a history converts a dynamic value to a type. The gates come first, each with
its own error. If all are open, the live conversion is carried out for the payload, and its requests
are met in a way that these same rules describe. -/
inductive Coerced (history : List RegistryOperation) : Answering
  | foreign {cell : Cell} {dest : ValueType} {machine : Machine} (hforeign : dest.isForeign) :
      Coerced history cell dest machine
        (.ok (.error (.foreignDestination (Machine.identify dest machine).1)),
          (Machine.identify dest machine).2)
        [.asked cell.type? dest,
          .failed cell.type? dest (.foreignDestination (Machine.identify dest machine).1)]
  | empty {cell : Cell} {dest : ValueType} {machine : Machine} (hnative : dest.isForeign = false)
      (hempty : cell.isEmpty) :
      Coerced history cell dest machine
        (.ok (.error .emptySource), (Machine.identify dest machine).2)
        [.asked none dest, .failed none dest .emptySource]
  | missing {cell : Cell} {dest : ValueType} {machine : Machine} {contents : Instance}
      {source : TypeIdentity} (hnative : dest.isForeign = false)
      (hcontents : cell.contents?.run (Machine.identify dest machine).2 =
        (.ok (some contents), (Machine.identify dest machine).2))
      (hsource : (Machine.identify dest machine).2.identity? contents.payload.type = some source)
      (hmissing : liveConversion? history contents.payload.type dest = none) :
      Coerced history cell dest machine
        (.ok (.error (.noConversion source (Machine.identify dest machine).1)),
          (Machine.identify dest machine).2)
        [.asked (some contents.payload.type) dest,
          .failed (some contents.payload.type) dest
            (.noConversion source (Machine.identify dest machine).1)]
  | live {cell : Cell} {dest : ValueType} {machine : Machine} {contents : Instance}
      {conversion : Conversion contents.payload.type dest} {answering : Answering}
      {ending : Ending dest.Value} {trace : List Turn} (hnative : dest.isForeign = false)
      (hcontents : cell.contents?.run (Machine.identify dest machine).2 =
        (.ok (some contents), (Machine.identify dest machine).2))
      (hlive : liveConversion? history contents.payload.type dest = some conversion)
      (hanswering : ∀ cell dest machine ending trace,
        answering cell dest machine ending trace → Coerced history cell dest machine ending trace)
      (hcarried : (conversion contents.payload.value).Carried answering contents
        (Machine.identify dest machine).2 ending trace) :
      Coerced history cell dest machine ending.handedOver
        (.asked (some contents.payload.type) dest :: .ran contents.payload.type dest ::
          (trace ++ ending.failure contents.payload.type dest))

/-! ## One outcome -/

theorem Cell.contents?_run_of_isEmpty {cell : Cell} (hempty : cell.isEmpty) (machine : Machine) :
    cell.contents?.run machine = (.ok none, machine) := by
  unfold contents?
  rw [Option.isNone_iff_eq_none.mp hempty]
  rfl

section Unique

variable {answering other : Answering} {history : List RegistryOperation}

/-- A plan ends in one way if each request does. -/
theorem Plan.Carried.unique {α : Type} {input : Instance} {plan : Plan α} {machine : Machine}
    {ending ending' : Ending α} {trace trace' : List Turn}
    (hunique : ∀ cell dest machine first trace, answering cell dest machine first trace →
      ∀ second trace', other cell dest machine second trace' → second = first ∧ trace' = trace)
    (hcarried : plan.Carried answering input machine ending trace)
    (hother : plan.Carried other input machine ending' trace') :
    ending' = ending ∧ trace' = trace := by
  induction hcarried generalizing ending' trace' with
  | give => cases hother; exact ⟨rfl, rfl⟩
  | fail => cases hother; exact ⟨rfl, rfl⟩
  | identify _ ih =>
      cases hother with
      | identify hnext => exact ih hnext
  | report _ ih =>
      cases hother with
      | report hnext => exact ih hnext
  | convert hmade hanswer _ ih =>
      cases hother with
      | convert hmade' hanswer' hnext' =>
          rw [hmade] at hmade'
          cases hmade'
          obtain ⟨hsame, rfl⟩ := hunique _ _ _ _ _ hanswer _ _ hanswer'
          cases hsame
          obtain ⟨rfl, rfl⟩ := ih hnext'
          exact ⟨rfl, rfl⟩
      | convertHalted hmade' hhalted =>
          rw [hmade] at hmade'
          cases hmade'
          cases (hunique _ _ _ _ _ hanswer _ _ hhalted).1
  | convertHalted hmade hhalted =>
      cases hother with
      | convert hmade' hanswer' =>
          rw [hmade] at hmade'
          cases hmade'
          cases (hunique _ _ _ _ _ hhalted _ _ hanswer').1
      | convertHalted hmade' hhalted' =>
          rw [hmade] at hmade'
          cases hmade'
          obtain ⟨hsame, rfl⟩ := hunique _ _ _ _ _ hhalted _ _ hhalted'
          cases hsame
          exact ⟨rfl, rfl⟩
  | convertCopy hmade hanswer _ ih =>
      cases hother with
      | convertCopy hmade' hanswer' hnext' =>
          rw [hmade] at hmade'
          cases hmade'
          obtain ⟨hsame, rfl⟩ := hunique _ _ _ _ _ hanswer _ _ hanswer'
          cases hsame
          obtain ⟨rfl, rfl⟩ := ih hnext'
          exact ⟨rfl, rfl⟩
      | convertCopyHalted hmade' hhalted =>
          rw [hmade] at hmade'
          cases hmade'
          cases (hunique _ _ _ _ _ hanswer _ _ hhalted).1
      | copyPanics hpanics =>
          rw [hmade] at hpanics
          cases hpanics
  | convertCopyHalted hmade hhalted =>
      cases hother with
      | convertCopy hmade' hanswer' =>
          rw [hmade] at hmade'
          cases hmade'
          cases (hunique _ _ _ _ _ hhalted _ _ hanswer').1
      | convertCopyHalted hmade' hhalted' =>
          rw [hmade] at hmade'
          cases hmade'
          obtain ⟨hsame, rfl⟩ := hunique _ _ _ _ _ hhalted _ _ hhalted'
          cases hsame
          exact ⟨rfl, rfl⟩
      | copyPanics hpanics =>
          rw [hmade] at hpanics
          cases hpanics
  | copyPanics hpanics =>
      cases hother with
      | convertCopy hmade =>
          rw [hpanics] at hmade
          cases hmade
      | convertCopyHalted hmade =>
          rw [hpanics] at hmade
          cases hmade
      | copyPanics hpanics' =>
          rw [hpanics] at hpanics'
          cases hpanics'
          exact ⟨rfl, rfl⟩

/-- A request ends in one way, and what happens in turn is always the same. -/
theorem Coerced.unique {cell : Cell} {dest : ValueType} {machine : Machine}
    {ending : Ending dest.Value} {trace : List Turn}
    (hcoerced : Coerced history cell dest machine ending trace) {ending' : Ending dest.Value}
    {trace' : List Turn} (hother : Coerced history cell dest machine ending' trace') :
    ending' = ending ∧ trace' = trace := by
  induction hcoerced generalizing trace' with
  | foreign hforeign =>
      cases hother with
      | foreign => exact ⟨rfl, rfl⟩
      | empty hnative => exact absurd (hforeign.symm.trans hnative) (by decide)
      | missing hnative => exact absurd (hforeign.symm.trans hnative) (by decide)
      | live hnative => exact absurd (hforeign.symm.trans hnative) (by decide)
  | empty hnative hempty =>
      have hnone := Cell.contents?_run_of_isEmpty hempty
      cases hother with
      | foreign hforeign => exact absurd (hforeign.symm.trans hnative) (by decide)
      | empty => exact ⟨rfl, rfl⟩
      | missing _ hcontents =>
          rw [hnone] at hcontents
          cases hcontents
      | live _ hcontents =>
          rw [hnone] at hcontents
          cases hcontents
  | missing hnative hcontents hsource hmissing =>
      cases hother with
      | foreign hforeign => exact absurd (hforeign.symm.trans hnative) (by decide)
      | empty _ hempty =>
          rw [Cell.contents?_run_of_isEmpty hempty] at hcontents
          cases hcontents
      | missing _ hcontents' hsource' =>
          rw [hcontents] at hcontents'
          cases hcontents'
          rw [hsource] at hsource'
          cases hsource'
          exact ⟨rfl, rfl⟩
      | live _ hcontents' hlive =>
          rw [hcontents] at hcontents'
          cases hcontents'
          rw [hmissing] at hlive
          cases hlive
  | live hnative hcontents hlive _ hcarried ih =>
      cases hother with
      | foreign hforeign => exact absurd (hforeign.symm.trans hnative) (by decide)
      | empty _ hempty =>
          rw [Cell.contents?_run_of_isEmpty hempty] at hcontents
          cases hcontents
      | missing _ hcontents' _ hmissing =>
          rw [hcontents] at hcontents'
          cases hcontents'
          rw [hmissing] at hlive
          cases hlive
      | live _ hcontents' hlive' hanswering hcarried' =>
          rw [hcontents] at hcontents'
          cases hcontents'
          rw [hlive] at hlive'
          cases hlive'
          obtain ⟨rfl, rfl⟩ := hcarried.unique
            (fun cell dest machine first trace hfirst second trace' hsecond =>
              ih cell dest machine first trace hfirst
                (hanswering cell dest machine second trace' hsecond)) hcarried'
          exact ⟨rfl, rfl⟩

end Unique

/-! ## What runs -/

section Trace

variable {answering : Answering} {history : List RegistryOperation}

/-- A property of traces that their parts hand on holds of the trace of a plan if it holds of the
traces of its requests. -/
theorem Plan.Carried.trace_of_requests {α : Type} {input : Instance} {plan : Plan α}
    {machine : Machine} {ending : Ending α} {trace : List Turn} {property : List Turn → Prop}
    (hnil : property [])
    (happend : ∀ first second, property first → property second → property (first ++ second))
    (hrequests : ∀ cell dest machine ending trace, answering cell dest machine ending trace →
      property trace)
    (hcarried : plan.Carried answering input machine ending trace) : property trace := by
  induction hcarried with
  | give => exact hnil
  | fail => exact hnil
  | identify _ ih => exact ih
  | report _ ih => exact ih
  | convert _ hanswer _ ih => exact happend _ _ (hrequests _ _ _ _ _ hanswer) ih
  | convertHalted _ hhalted => exact hrequests _ _ _ _ _ hhalted
  | convertCopy _ hanswer _ ih => exact happend _ _ (hrequests _ _ _ _ _ hanswer) ih
  | convertCopyHalted _ hhalted => exact hrequests _ _ _ _ _ hhalted
  | copyPanics => exact hnil

@[simp] theorem requests_append (first second : List Turn) :
    requests (first ++ second) = requests first ++ requests second := List.filterMap_append

@[simp] theorem conversionRuns_append (first second : List Turn) :
    conversionRuns (first ++ second) = conversionRuns first ++ conversionRuns second :=
  List.filterMap_append

section Turns

variable (source? : Option ValueType) (source dest : ValueType) (error : ConversionError)
  (rest : List Turn)

@[simp] theorem requests_nil : requests [] = [] := rfl

@[simp] theorem requests_asked :
    requests (.asked source? dest :: rest) = (source?, dest) :: requests rest := rfl

@[simp] theorem requests_ran : requests (.ran source dest :: rest) = requests rest := rfl

@[simp] theorem requests_failed :
    requests (.failed source? dest error :: rest) = requests rest := rfl

@[simp] theorem conversionRuns_nil : conversionRuns [] = [] := rfl

@[simp] theorem conversionRuns_asked :
    conversionRuns (.asked source? dest :: rest) = conversionRuns rest := rfl

@[simp] theorem conversionRuns_ran :
    conversionRuns (.ran source dest :: rest) = (source, dest) :: conversionRuns rest := rfl

@[simp] theorem conversionRuns_failed :
    conversionRuns (.failed source? dest error :: rest) = conversionRuns rest := rfl

@[simp] theorem requests_failure {α : Type} (ending : Ending α) :
    requests (ending.failure source dest) = [] := by
  unfold Ending.failure
  split <;> rfl

@[simp] theorem conversionRuns_failure {α : Type} (ending : Ending α) :
    conversionRuns (ending.failure source dest) = [] := by
  unfold Ending.failure
  split <;> rfl

end Turns

theorem admitted?_of_foreign {dest : ValueType} (source? : Option ValueType)
    (hforeign : dest.isForeign) : admitted? history (source?, dest) = none := if_pos hforeign

theorem admitted?_of_native {source dest : ValueType} (hnative : dest.isForeign = false) :
    admitted? history (some source, dest) =
      if isLive history (source, dest) then some (source, dest) else none :=
  if_neg (Bool.eq_false_iff.mp hnative)

/-- The conversions that run are those of the requests that pass the gates, each once and in the
order of the requests. -/
theorem Coerced.conversionRuns_eq {cell : Cell} {dest : ValueType} {machine : Machine}
    {ending : Ending dest.Value} {trace : List Turn}
    (hcoerced : Coerced history cell dest machine ending trace) :
    conversionRuns trace = (requests trace).filterMap (admitted? history) := by
  induction hcoerced with
  | foreign hforeign => simp [admitted?_of_foreign _ hforeign]
  | empty => simp [admitted?]
  | missing hnative _ _ hmissing => simp [admitted?_of_native hnative, isLive, hmissing]
  | @live _ _ _ _ _ _ _ nested hnative _ hlive _ hcarried ih =>
      have hnested : conversionRuns nested = (requests nested).filterMap (admitted? history) := by
        apply hcarried.trace_of_requests _ _ ih
        · rfl
        · intro first second hfirst hsecond
          simp [hfirst, hsecond]
      simp [admitted?_of_native hnative, isLive, hlive, hnested]

end Trace

/-! ## What is reported -/

/-- The conversions that a program has reported, in their order. -/
def Machine.announced (machine : Machine) : List (ValueType × ValueType) :=
  machine.events.filterMap Event.conversion?

@[simp] theorem Machine.announced_advance (machine : Machine) (heap : List (Option Instance))
    (created : Nat) (destroyed : List Nat) (events : List Event) :
    (machine.advance heap created destroyed events).announced =
      machine.announced ++ events.filterMap Event.conversion? := List.filterMap_append

/-- Dynamic values can be made and destroyed without a report of a conversion. -/
theorem Machine.allows_announced :
    Allows (fun _ => True) fun machine after => after.announced = machine.announced where
  toComposes := .same announced
  advance machine heap created destroyed events hquiet := by
    have hnone : events.filterMap Event.conversion? = [] := List.filterMap_eq_nil_iff.mpr hquiet
    simp [hnone]
  identify type machine _ := by
    unfold announced
    rw [(identify_learns type machine).events]
  tableFor type machine _ := by
    unfold announced
    rw [(tableFor_learns type machine).events]

namespace Cell

/-- Making a value with a new payload reports no conversion. -/
theorem announced_ofPayload {payload : Payload} {machine made : Machine} {cell : Cell}
    (hmade : ofPayload payload machine = (cell, made)) : made.announced = machine.announced := by
  have hrun : (liftM (ofPayload payload) : Action Machine Cell).run machine = (.ok cell, made) := by
    rw [Action.run_lift, hmade]
  have hkept := respects_ofPayload Machine.allows_announced payload trivial machine
  exact (Action.RespectsAt.related hkept hrun :)

/-- Making a value with a copy reports no conversion, also if the copy panics. -/
theorem announced_ofCopy {input : Instance} {machine made : Machine} {outcome : Except Halt Cell}
    (hmade : (ofCopy input).run machine = (outcome, made)) :
    made.announced = machine.announced := by
  have hallows := Machine.allows_announced
  have hkept : Action.Respects (fun machine after => after.announced = machine.announced)
      (ofCopy input) :=
    Action.Respects.bind hallows.toComposes (Machine.respects_clone hallows input) fun copy =>
      respects_ofInstance hallows copy trivial
  exact (Action.RespectsAt.related (hkept machine) hmade :)

theorem announced_closing {α : Type} (cell : Cell) (ending : Except Halt α × Machine) :
    (cell.closing ending).2.announced = ending.2.announced := by
  obtain ⟨outcome, machine⟩ := ending
  cases outcome with
  | error halt => exact cell.respects_discard Machine.allows_announced machine
  | ok result => exact cell.respects_destroy Machine.allows_announced machine

end Cell

/-- Some of the live conversions report each of their calls before anything else, and all others
report nothing. -/
def Announces (history : List RegistryOperation) (announced : ValueType × ValueType → Bool) :
    Prop :=
  ∀ source dest conversion, liveConversion? history source dest = some conversion → ∀ value,
    if announced (source, dest) then
      ∃ body, conversion value = .report (.converted source dest) body ∧ body.IsSilent
    else (conversion value).IsSilent

section Reports

variable {answering : Answering} {history : List RegistryOperation}
  {announced : ValueType × ValueType → Bool}

/-- A silent plan reports nothing but what its requests do. -/
theorem Plan.Carried.announced_eq {α : Type} {input : Instance} {plan : Plan α}
    {machine : Machine} {ending : Ending α} {trace : List Turn}
    (hrequests : ∀ cell dest machine ending trace, answering cell dest machine ending trace →
      ending.2.announced = machine.announced ++ (conversionRuns trace).filter announced)
    (hsilent : plan.IsSilent) (hcarried : plan.Carried answering input machine ending trace) :
    ending.2.announced = machine.announced ++ (conversionRuns trace).filter announced := by
  induction hcarried with
  | give => simp
  | fail => simp
  | identify _ ih => rw [ih (hsilent _), Machine.allows_announced.identify _ _ trivial]
  | report => exact absurd hsilent id
  | convert hmade hanswer _ ih =>
      rw [Cell.announced_closing, ih (hsilent _), hrequests _ _ _ _ _ hanswer,
        Cell.announced_ofPayload hmade]
      simp
  | convertHalted hmade hhalted =>
      rw [Cell.announced_closing, hrequests _ _ _ _ _ hhalted, Cell.announced_ofPayload hmade]
  | convertCopy hmade hanswer _ ih =>
      rw [Cell.announced_closing, ih (hsilent _), hrequests _ _ _ _ _ hanswer,
        Cell.announced_ofCopy hmade]
      simp
  | convertCopyHalted hmade hhalted =>
      rw [Cell.announced_closing, hrequests _ _ _ _ _ hhalted, Cell.announced_ofCopy hmade]
  | copyPanics hpanics =>
      rw [Cell.announced_ofCopy hpanics]
      simp

/-- What is reported are the calls of the conversions that report theirs, in the order in which the
conversions run. -/
theorem Coerced.announced_eq (hannounces : Announces history announced) {cell : Cell}
    {dest : ValueType} {machine : Machine} {ending : Ending dest.Value} {trace : List Turn}
    (hcoerced : Coerced history cell dest machine ending trace) :
    ending.2.announced = machine.announced ++ (conversionRuns trace).filter announced := by
  have hidentify := fun type machine => Machine.allows_announced.identify type machine trivial
  induction hcoerced with
  | foreign => simp [hidentify]
  | empty => simp [hidentify]
  | missing => simp [hidentify]
  | @live _ dest machine contents _ _ ending nested _ _ hlive _ hcarried ih =>
      have hhanded : ending.handedOver.2.announced = ending.2.announced := by
        unfold Ending.handedOver
        split
        · simp
        · rfl
      have hplan := hannounces _ _ _ hlive contents.payload.value
      rw [hhanded]
      cases hreports : announced (contents.payload.type, dest) with
      | false =>
          rw [hreports, if_neg Bool.false_ne_true] at hplan
          rw [hcarried.announced_eq ih hplan, hidentify]
          simp [hreports]
      | true =>
          rw [hreports, if_pos rfl] at hplan
          obtain ⟨body, hbody, hsilent⟩ := hplan
          rw [hbody] at hcarried
          cases hcarried with
          | report hcarried =>
              rw [hcarried.announced_eq ih hsilent, Machine.announced_advance, hidentify]
              simp [hreports, Event.conversion?]

end Reports

/-! ## The first failure -/

/-- Nothing fails in a trace. -/
def Smooth (trace : List Turn) : Prop := ∀ turn ∈ trace, turn.error? = none

/-- The first failure of a trace decides: its error names the types of the request that fails and no
others, from then on nothing happens but that requests fail with this error, and the outcome is this
error too, unless a panic comes in between. -/
inductive Stopped {α : Type} : List Turn → Except Halt (Except ConversionError α) → Prop
  | intro {front back : List Turn} {source? : Option ValueType} {dest : ValueType}
      {error : ConversionError} {outcome : Except Halt (Except ConversionError α)}
      (hfront : Smooth front) (hnames : error.Names source? dest)
      (hback : ∀ turn ∈ back, ∃ source? dest, turn = .failed source? dest error)
      (houtcome : ∀ result, outcome = .ok result → result = .error error) :
      Stopped (front ++ .failed source? dest error :: back) outcome

section Failures

variable {α β : Type} {answering : Answering} {history : List RegistryOperation}
  {first second trace : List Turn} {source dest : ValueType}

@[simp] theorem smooth_nil : Smooth [] := fun _ hmem => absurd hmem List.not_mem_nil

@[simp] theorem smooth_asked (source? : Option ValueType) :
    Smooth (.asked source? dest :: trace) ↔ Smooth trace := by
  simp [Smooth, Turn.error?]

@[simp] theorem smooth_ran : Smooth (.ran source dest :: trace) ↔ Smooth trace := by
  simp [Smooth, Turn.error?]

theorem Smooth.append (hfirst : Smooth first) (hsecond : Smooth second) :
    Smooth (first ++ second) :=
  List.forall_mem_append.mpr ⟨hfirst, hsecond⟩

namespace Stopped

variable {outcome : Except Halt (Except ConversionError α)}
  {later : Except Halt (Except ConversionError β)}

/-- What happens without a failure before does not matter. -/
theorem prepend (hfirst : Smooth first) (hstopped : Stopped trace outcome) :
    Stopped (first ++ trace) outcome := by
  obtain ⟨hfront, hnames, hback, houtcome⟩ := hstopped
  rw [← List.append_assoc]
  exact .intro (hfirst.append hfront) hnames hback houtcome

/-- The error may be handed on. -/
theorem imp (hstopped : Stopped trace outcome)
    (hlater : ∀ result, later = .ok result →
      ∃ error, outcome = .ok (.error error) ∧ result = .error error) :
    Stopped trace later := by
  obtain ⟨hfront, hnames, hback, houtcome⟩ := hstopped
  refine .intro hfront hnames hback fun result hresult => ?_
  obtain ⟨error, hearlier, rfl⟩ := hlater result hresult
  cases houtcome _ hearlier
  rfl

/-- An outcome after a failure is an error. -/
theorem exists_error {result : Except ConversionError α}
    (hstopped : Stopped trace (.ok result : Except Halt (Except ConversionError α))) :
    ∃ error, result = .error error := by
  obtain ⟨-, -, -, houtcome⟩ := hstopped
  exact ⟨_, houtcome result rfl⟩

/-- The request around the one that failed fails with the same error. -/
theorem append_failure {ending : Ending α} (hstopped : Stopped trace ending.1) :
    Stopped (trace ++ ending.failure source dest) ending.1 := by
  obtain ⟨outcome, machine⟩ := ending
  obtain ⟨hfront, hnames, hback, houtcome⟩ := hstopped
  rw [List.append_assoc, List.cons_append]
  refine .intro hfront hnames (List.forall_mem_append.mpr ⟨hback, fun turn hmem => ?_⟩) houtcome
  unfold Ending.failure at hmem
  split at hmem
  · rename_i error houtcome'
    cases houtcome _ houtcome'
    exact ⟨_, _, List.mem_singleton.mp hmem⟩
  · cases hmem

end Stopped

/-- A value that is destroyed at the end of an action does not change its result. -/
theorem Cell.eq_ok_of_closing {cell : Cell} {ending : Except Halt α × Machine} {result : α}
    (hclosing : (cell.closing ending).1 = .ok result) : ending.1 = .ok result := by
  obtain ⟨outcome, machine⟩ := ending
  cases outcome with
  | error halt => cases hclosing
  | ok value =>
      simp only [closing] at hclosing
      cases hdestroy : (cell.destroy.run machine).1 with
      | error halt => rw [hdestroy] at hclosing; cases hclosing
      | ok _ => rw [hdestroy] at hclosing; exact hclosing

theorem Stopped.closing {cell : Cell} {ending : Ending α} (hstopped : Stopped trace ending.1) :
    Stopped trace (cell.closing ending).1 :=
  hstopped.imp fun result hresult => by
    have hending := Cell.eq_ok_of_closing hresult
    rw [hending] at hstopped
    obtain ⟨error, rfl⟩ := hstopped.exists_error
    exact ⟨error, hending, rfl⟩

/-- How a request ends if conversions hand failures on: without a failure or as the first failure
decides. -/
def FailsOnce (trace : List Turn) (outcome : Except Halt (Except ConversionError α)) : Prop :=
  (Smooth trace ∧ ∀ error, outcome ≠ .ok (.error error)) ∨ Stopped trace outcome

/-- How a plan for a conversion between two types ends if it hands failures on: as the first failing
request decides, or without one, and then an error of its own names its two types only. -/
def FailsOnceFor (source dest : ValueType) (trace : List Turn)
    (outcome : Except Halt (Except ConversionError α)) : Prop :=
  (Smooth trace ∧ ∀ error, outcome = .ok (.error error) → error.Names (some source) dest) ∨
    Stopped trace outcome

theorem FailsOnceFor.halted {halt : Halt} (hrequest : FailsOnce trace (.error halt : Except Halt
    (Except ConversionError β))) (cell : Cell) (machine : Machine) :
    FailsOnceFor source dest trace (cell.closing (.error halt, machine) : Ending α).1 := by
  rcases hrequest with ⟨hsmooth, -⟩ | hstopped
  · exact .inl ⟨hsmooth, fun _ hfails => by cases hfails⟩
  · exact .inr (hstopped.imp fun _ hresult => by cases hresult)

/-- A plan hands on the failure of a request, and goes on if the request has a result. -/
theorem FailsOnceFor.request {input : Instance} {cell : Cell} {middle : Machine}
    {answer : Except ConversionError β} {next : Except ConversionError β → Plan α}
    {ending : Ending α} {rest : List Turn}
    (hrequest : FailsOnce trace (.ok answer : Except Halt (Except ConversionError β)))
    (hhands : ∀ error, next (.error error) = .fail error)
    (hcarried : (next answer).Carried answering input middle ending rest)
    (hrest : ∀ value, answer = .ok value → FailsOnceFor source dest rest ending.1) :
    FailsOnceFor source dest (trace ++ rest) (cell.closing ending).1 := by
  cases answer with
  | error error =>
      rw [hhands error] at hcarried
      cases hcarried
      rw [List.append_nil]
      rcases hrequest with ⟨-, hnever⟩ | hstopped
      · exact absurd rfl (hnever error)
      · refine .inr (hstopped.imp fun result hresult => ⟨error, rfl, ?_⟩)
        cases Cell.eq_ok_of_closing hresult
        rfl
  | ok value =>
      rcases hrequest with ⟨hsmooth, -⟩ | hstopped
      · rcases hrest value rfl with ⟨hsmooth', hnames⟩ | hstopped
        · exact .inl ⟨hsmooth.append hsmooth', fun error hfails =>
            hnames error (Cell.eq_ok_of_closing hfails)⟩
        · exact .inr (hstopped.closing.prepend hsmooth)
      · obtain ⟨error, herror⟩ := hstopped.exists_error
        cases herror

theorem Plan.Carried.failsOnceFor {input : Instance} {plan : Plan α} {machine : Machine}
    {ending : Ending α}
    (hrequests : ∀ cell dest machine ending trace, answering cell dest machine ending trace →
      FailsOnce trace ending.1)
    (hhands : plan.HandsFailuresOn source dest)
    (hcarried : plan.Carried answering input machine ending trace) :
    FailsOnceFor source dest trace ending.1 := by
  induction hcarried with
  | give => exact .inl ⟨smooth_nil, fun _ hfails => by cases hfails⟩
  | fail =>
      refine .inl ⟨smooth_nil, fun _ hfails => ?_⟩
      cases hfails
      exact hhands
  | @identify type _ machine _ _ _ ih => exact ih (hhands _ (Machine.identify_type? type machine))
  | report _ ih => exact ih hhands
  | convert _ hanswer hnext ih =>
      refine .request (hrequests _ _ _ _ _ hanswer) hhands.1 hnext fun value hvalue => ih ?_
      rw [hvalue]
      exact hhands.2 value
  | convertHalted _ hhalted => exact .halted (hrequests _ _ _ _ _ hhalted) _ _
  | convertCopy _ hanswer hnext ih =>
      refine .request (hrequests _ _ _ _ _ hanswer) hhands.1 hnext fun value hvalue => ih ?_
      rw [hvalue]
      exact hhands.2 value
  | convertCopyHalted _ hhalted => exact .halted (hrequests _ _ _ _ _ hhalted) _ _
  | copyPanics => exact .inl ⟨smooth_nil, fun _ hfails => by cases hfails⟩

/-- All live conversions hand failures on. -/
def HandsFailuresOn (history : List RegistryOperation) : Prop :=
  ∀ source dest conversion, liveConversion? history source dest = some conversion → ∀ value,
    (conversion value).HandsFailuresOn source dest

/-- A request that a gate stops is itself the first failure. -/
theorem FailsOnce.gate {source? : Option ValueType} {error : ConversionError}
    (hnames : error.Names source? dest) :
    FailsOnce [.asked source? dest, .failed source? dest error]
      (.ok (.error error) : Except Halt (Except ConversionError α)) := by
  refine .inr (@Stopped.intro _ [.asked source? dest] _ _ _ _ _ (by simp) hnames (by simp) ?_)
  rintro result ⟨⟩
  rfl

/-- An error of a conversion is the failure of the request that led to it. -/
theorem FailsOnceFor.failsOnce {ending : Ending α}
    (hplan : FailsOnceFor source dest trace ending.1) :
    FailsOnce (.asked (some source) dest :: .ran source dest ::
      (trace ++ ending.failure source dest)) ending.1 := by
  obtain ⟨outcome, machine⟩ := ending
  rcases hplan with ⟨hsmooth, hnames⟩ | hstopped
  · rcases outcome with halt | error | value
    · refine .inl ⟨?_, fun _ hfails => by cases hfails⟩
      simpa [Ending.failure] using hsmooth
    · have hfront : Smooth (.asked (some source) dest :: .ran source dest :: trace) := by
        simpa using hsmooth
      refine .inr (@Stopped.intro _ _ [] _ _ _ _ hfront (hnames error rfl) (by simp) ?_)
      rintro result ⟨⟩
      rfl
    · refine .inl ⟨?_, fun _ hfails => by cases hfails⟩
      simpa [Ending.failure] using hsmooth
  · have hfront : Smooth [.asked (some source) dest, .ran source dest] := by simp
    exact .inr (hstopped.append_failure.prepend hfront)

/-- If all conversions hand failures on, the first request that fails decides, however deep it
is. -/
theorem Coerced.failsOnce (hhands : HandsFailuresOn history) {cell : Cell} {dest : ValueType}
    {machine : Machine} {ending : Ending dest.Value}
    (hcoerced : Coerced history cell dest machine ending trace) : FailsOnce trace ending.1 := by
  induction hcoerced with
  | foreign => exact .gate (Machine.identify_type? _ _)
  | empty => exact .gate trivial
  | missing _ _ hsource =>
      exact .gate ⟨Machine.type?_of_identity? hsource, Machine.identify_type? _ _⟩
  | live _ _ hlive _ hcarried ih =>
      exact (hcarried.failsOnceFor ih (hhands _ _ _ hlive _)).failsOnce

end Failures

end DynamicValue
