/-
# Steps of sessions that are alike

Sessions that are alike carry out a command in the same way: the answers differ in nothing but
numbers, and the sessions that are left are alike. That holds for every command, as long as the
functions that are bound are among those that sessions can bind.
-/

import DynamicValue.Proofs.Likeness.Session

namespace DynamicValue

/-- Whether a command binds no other functions than those that sessions can bind. -/
def Command.BindsSessionFunctions : Command → Prop
  | load _ functions => ∀ entry ∈ functions.exports, entry.2 ∈ Native.ofSessions
  | bind _ _ function => function ∈ Native.ofSessions
  | _ => True

namespace Environment

variable {environment : Environment}

theorem IsOfSessions.load_agrees {machine other : Machine} (henvironment : environment.IsOfSessions)
    (halike : machine.Alike other) {functions : FunctionModule}
    (hfunctions : ∀ entry ∈ functions.exports, entry.2 ∈ Native.ofSessions) :
    Agree machine other (liftM (environment.load functions) : Action Machine Environment)
      (liftM (environment.load functions)) fun _ _ loaded loaded' =>
        loaded = loaded' ∧ loaded.IsOfSessions := by
  let line : LogLine := .loading functions.name functions.exports.length
  exact .lift (halike.writeLog line line).1 ⟨rfl, henvironment.bindAll hfunctions⟩

theorem IsOfSessions.call_agrees {machine other : Machine}
    (henvironment : environment.IsOfSessions) (halike : machine.Alike other) (name : String)
    {cells cells' : List Cell}
    (hcells : List.Forall₂ (Cell.Alike machine other) cells cells') :
    Agree machine other (environment.call name cells) (environment.call name cells')
      CallsAlike := by
  unfold call
  cases hfound : environment.lookup name with
  | none => exact .pure halike (.error rfl)
  | some function =>
      exact Native.agrees_of_mem (henvironment name function hfound) machine other cells cells'
        halike hcells

end Environment

namespace Session

/-- Answers that differ in nothing but numbers. -/
abbrev AnswersAlike : Session → Session → Answer → Answer → Prop := fun _ _ answer answer' =>
  answer.anonymous = answer'.anonymous

/-- Casts that end with the same receiver and with results that are alike. -/
abbrev CastsAlike (first second : Except ConversionError Unit × Receiver) : Prop :=
  first.2 = second.2 ∧ ResultsAlike first.1 second.1

variable {α : Type} {first second : Session}

/-! ## Looking at variables -/

section Inspection

variable {machine other : Machine} {cell cell' : Cell}

/-- A test that is the same on both sides lets the same items pass. -/
theorem filterAuxM_agrees (halike : machine.Alike other) {test test' : α → Action Machine Bool}
    (htest : ∀ after after' item, Later machine other after after' →
      Agree after after' (test item) (test' item) Same) (items passed : List α) :
    Agree machine other (items.filterAuxM test passed) (items.filterAuxM test' passed) Same := by
  induction items generalizing machine other passed with
  | nil => exact .pure halike rfl
  | cons item rest ih =>
      refine (htest machine other item (.refl halike)).bind ?_
      rintro after after' passes _ hlater rfl
      exact ih hlater.alike (fun _ _ item hfurther => htest _ _ item (hlater.trans hfurther)) _

theorem types_agrees (halike : machine.Alike other) (hcells : cell.Alike machine other cell') :
    Agree machine other (ValueType.all.filterM cell.holds) (ValueType.all.filterM cell'.holds)
      Same := by
  refine (filterAuxM_agrees halike ?_ ValueType.all []).answer fun _ _ _ _ _ hpassed =>
    congrArg List.reverse hpassed
  exact fun after after' type hlater =>
    Cell.holds_agrees hlater.alike (hcells.later hlater) type

/-- What is seen of a value is the same on both sides, but for the number of its identity. -/
theorem inspect_agrees (halike : machine.Alike other) (hcells : cell.Alike machine other cell') :
    Agree machine other (inspect cell) (inspect cell') fun _ _ seen seen' =>
      (Answer.inspection seen).anonymous = (Answer.inspection seen').anonymous := by
  have hidentity := (hcells.identity halike).anonymous_eq halike
  have hname := hcells.typeName_eq halike
  have hempty := hcells.isEmpty_eq
  have hinline := hcells.isInline_eq
  have hplace := hcells.place_eq
  unfold inspect
  refine (Cell.holdsText_agrees halike hcells).bind ?_
  rintro machine other isText _ hlater rfl
  have hcells := hcells.later hlater
  refine (types_agrees hlater.alike hcells).bind ?_
  rintro machine other types _ hlater rfl
  have hcells := hcells.later hlater
  refine (Cell.text_agrees hlater.alike hcells).bind ?_
  rintro machine other text _ hlater rfl
  have hcells := hcells.later hlater
  refine (Cell.debugText_agrees hlater.alike hcells).bind ?_
  rintro machine other debugText _ hlater rfl
  have hcells := hcells.later hlater
  refine (Cell.pushOnto_agrees hlater.alike hcells []).bind ?_
  rintro machine other pushes _ hlater rfl
  have hcells := hcells.later hlater
  refine (Cell.contents?_agrees hlater.alike hcells).answer ?_
  rintro machine other contents? _ hlater rfl
  simp only [Answer.anonymous, hidentity, hname, hempty, hinline, hplace]

theorem newCell_agrees (halike : machine.Alike other) (payload? : Option Payload) :
    Agree machine other (liftM (newCell payload?) : Action Machine Cell) (liftM (newCell payload?))
      fun machine other cell cell' => cell.Alike machine other cell' := by
  cases payload? with
  | some payload => exact Cell.ofPayload_agrees halike payload
  | none => exact .pure halike (.empty machine other)

/-- A cast to a receiver of its own, which may hold a new payload already. -/
theorem receiving_agrees (halike : machine.Alike other) {registry registry' : Registry}
    (hregistries : registry.Alike machine other registry') (input : Instance)
    {source dest source' dest' : TypeIdentity} (hsource : source.Alike machine other source')
    (hdest : dest.Alike machine other dest') (type : ValueType) (value? : Option type.Value) :
    Agree machine other
      (do
        let content? ← value?.mapM fun value =>
          (Machine.create ⟨type, value⟩ : Action Machine Instance)
        Action.withLocal ⟨type, content?⟩ Receiver.discard (registry.cast input source dest))
      (do
        let content? ← value?.mapM fun value =>
          (Machine.create ⟨type, value⟩ : Action Machine Instance)
        Action.withLocal ⟨type, content?⟩ Receiver.discard (registry'.cast input source' dest'))
      fun _ _ => CastsAlike := by
  have hcast : ∀ (content? : Option Instance) (after after' : Machine),
      Later machine other after after' →
      Agree after after'
        (Action.withLocal ⟨type, content?⟩ Receiver.discard (registry.cast input source dest))
        (Action.withLocal ⟨type, content?⟩ Receiver.discard (registry'.cast input source' dest'))
        fun _ _ => CastsAlike := by
    intro content? after after' hlater
    have hregistries := hregistries.mono hlater.first hlater.alike.coherent hlater.second
      hlater.alike.otherCoherent
    have hstart : Likeness.Alike ((after, ⟨type, content?⟩) : Casting) (after', ⟨type, content?⟩) :=
      ⟨hlater.alike, rfl⟩
    refine Agree.withLocal (Registry.cast_agrees hstart hregistries input
      (hsource.mono hlater.first hlater.second) (hdest.mono hlater.first hlater.second)) ?_
    exact fun _ _ receiver halike => Receiver.discard_agrees halike receiver
  cases value? with
  | none => exact hcast none machine other (.refl halike)
  | some value =>
      refine ((halike.create ⟨type, value⟩).answer fun _ _ _ _ _ hmade =>
        congrArg some hmade).bind ?_
      rintro after after' content? _ hlater rfl
      exact hcast content? after after' hlater

end Inspection

section Parts

variable (halike : first.Alike second)
include halike

/-- An operation that may keep the payload in its place keeps it on both sides or on none. -/
theorem tracked_agrees (name : String) {action action' : Action Focus Unit}
    (haction : ∀ cell cell', cell.Alike first.machine second.machine cell' →
      Agree (Focus.mk first.machine cell) ⟨second.machine, cell'⟩ action action' Same) :
    Agree first second (tracked name action) (tracked name action') AnswersAlike := by
  refine lookingUp_agrees halike name fun before before' hbefore => ?_
  refine (onVariable_agrees halike name Same haction).bind fun first second _ _ hlater _ => ?_
  refine lookingUp_agrees hlater.alike name fun after after' hafter => ?_
  exact .pure hlater.alike (congrArg Answer.reuse
    (hafter.reuses_eq (hbefore.later hlater.programs) hlater.alike.machine))

theorem assign_agrees (source target : String) :
    Agree first second (assign source target) (assign source target) AnswersAlike := by
  refine lookingUp_agrees halike source fun other other' hothers => ?_
  refine tracked_agrees halike target fun cell cell' hcells => ?_
  have hfocus : Likeness.Alike (Focus.mk first.machine cell) ⟨second.machine, cell'⟩ :=
    ⟨halike.machine, hcells⟩
  split
  · exact .pure hfocus rfl
  · exact Cell.assign_agrees hfocus hothers

/-- A new payload, which has the same serial number on both sides. -/
theorem creating_agrees (payload : Payload) :
    Agree first second (onMachine (Machine.create payload)) (onMachine (Machine.create payload))
      Same :=
  onMachine_agrees halike (halike.machine.create payload)

theorem assignValue_agrees (name : String) (payload : Reading Payload) :
    Agree first second (assignValue name payload) (assignValue name payload) AnswersAlike := by
  refine lookingUp_agrees halike name fun _ _ _ => ?_
  refine reading_agrees halike payload fun payload => ?_
  refine (creating_agrees halike payload).bind ?_
  rintro first second contents _ hlater rfl
  exact tracked_agrees hlater.alike name fun cell cell' hcells =>
    Cell.assignInstance_agrees ⟨hlater.alike.machine, hcells⟩ contents

theorem swap_agrees (firstName secondName : String) :
    Agree first second (swap firstName secondName) (swap firstName secondName) AnswersAlike := by
  unfold swap
  split
  · exact .throw halike _
  · refine lookingUp_agrees halike firstName fun firstCell firstCell' hfirst => ?_
    refine lookingUp_agrees halike secondName fun secondCell secondCell' hsecond => ?_
    have hexchanged := Alike.get?_insert (Alike.get?_insert halike.cells firstName hsecond)
      secondName hfirst
    have hchange := halike.withCells hexchanged
    exact .of_run rfl rfl hchange (.ok rfl)

theorem take_agrees (source target : String) :
    Agree first second (take source target) (take source target) AnswersAlike := by
  refine (onVariable_agrees halike source Cell.Alike fun cell cell' hcells =>
    Cell.take_agrees ⟨halike.machine, hcells⟩).bind ?_
  intro first second cell cell' hlater hcells
  exact (store_agrees hlater.alike target hcells).answer fun _ _ _ _ _ _ => rfl

/-- The sessions without a variable. -/
theorem erasing_agrees (name : String) :
    Agree first second
      (modify fun session => { session with cells := session.cells.erase name } :
        SessionAction PUnit)
      (modify fun session => { session with cells := session.cells.erase name }) Same :=
  .of_run (Action.run_modify _ _) (Action.run_modify _ _)
    (halike.withCells (Alike.get?_erase halike.cells name)) (.ok rfl)

theorem drop_agrees (name : String) :
    Agree first second (drop name) (drop name) AnswersAlike := by
  have hfound := halike.cells name
  refine looking_agrees halike ?_
  generalize first.cells.get? name = cell? at hfound ⊢
  generalize second.cells.get? name = cell'? at hfound ⊢
  cases hfound with
  | none => exact .pure halike rfl
  | @some cell cell' hcells =>
      refine (erasing_agrees halike name).bind fun first second _ _ hlater _ => ?_
      exact (onMachine_agrees hlater.alike (Cell.destroy_agrees hlater.alike.machine
        (hcells.later hlater.programs))).answer fun _ _ _ _ _ _ => rfl

theorem intoInner_agrees (name : String) (type : Reading ValueType) :
    Agree first second (intoInner name type) (intoInner name type) AnswersAlike := by
  refine lookingUp_agrees halike name fun cell cell' hcells => ?_
  refine reading_agrees halike type fun type => ?_
  refine (onMachine_agrees halike (Cell.holds_agrees halike.machine hcells type)).bind ?_
  rintro first second holds _ hlater rfl
  cases holds with
  | false => exact .pure hlater.alike rfl
  | true =>
      refine (erasing_agrees hlater.alike name).bind fun first second _ _ hlater' _ => ?_
      have hlater := hlater.trans hlater'
      refine (onMachine_agrees hlater.alike (Cell.intoInstance?_agrees hlater.alike.machine
        (hcells.later hlater.programs))).bind ?_
      rintro first second contents? _ hlater rfl
      cases contents? with
      | none => exact .pure hlater.alike rfl
      | some contents =>
          exact (onMachine_agrees hlater.alike (hlater.alike.machine.destroy contents)).answer
            fun _ _ _ _ _ _ => rfl

theorem mutate_agrees (name : String) (payload : Reading Payload) :
    Agree first second (mutate name payload) (mutate name payload) AnswersAlike := by
  refine lookingUp_agrees halike name fun _ _ _ => ?_
  refine reading_agrees halike payload fun payload => ?_
  refine (creating_agrees halike payload).bind ?_
  rintro first second contents _ hlater rfl
  exact (onVariable_agrees hlater.alike name Same fun cell cell' hcells =>
    Cell.mutate_agrees ⟨hlater.alike.machine, hcells⟩ contents).answer
      fun _ _ _ _ _ hmutated => congrArg Answer.truth hmutated

theorem getToMut_agrees (name : String) (payload : Reading Payload) :
    Agree first second (getToMut name payload) (getToMut name payload) AnswersAlike := by
  refine reading_agrees halike payload fun payload => ?_
  refine (creating_agrees halike payload).bind ?_
  rintro first second contents _ hlater rfl
  refine (holdingInstance_agrees contents ?_ :
    Agree _ _ _ _ fun _ _ => EndsAlike AccessError.Alike Eq).bind ?_
  · refine lookingUp_agrees hlater.alike name fun cell cell' hcells => ?_
    refine onMachine_agrees hlater.alike (?_ : Agree _ _ _ _ fun _ _ => EndsAlike _ Eq)
    refine (Cell.get_agrees hlater.alike.machine hcells payload.type).bind ?_
    intro machine other result result' hlater' hresults
    cases hresults with
    | error hcauses => exact .pure hlater'.alike (.error hcauses)
    | ok hvalues =>
        subst hvalues
        dsimp only
        split
        · refine (Cell.instanceOf?_agrees hlater'.alike (hcells.later hlater') payload.type).bind ?_
          rintro machine other lent? _ hlater rfl
          cases lent? with
          | none => exact .pure hlater.alike (.ok rfl)
          | some lent =>
              refine (Machine.Alike.clone hlater.alike lent).bind ?_
              rintro machine other copy _ hlater rfl
              exact (Machine.Alike.destroy hlater.alike copy).answer fun _ _ _ _ _ _ => .ok rfl
        · exact .pure hlater'.alike (.ok rfl)
  · intro first second result result' hlater hresults
    refine (onMachine_agrees hlater.alike (hlater.alike.machine.destroy contents)).answer ?_
    intro _ _ _ _ _ _
    cases hresults with
    | ok hvalues => exact congrArg (fun value => Answer.access (.ok value)) hvalues
    | error hcauses => exact congrArg (fun error => Answer.access (.error error)) hcauses

theorem register_agrees (name : RegistryName) (registration : Reading Registration) :
    Agree first second (register name registration) (register name registration) AnswersAlike := by
  refine (requireChangeable_agrees halike name).bind fun first second _ _ hlater _ => ?_
  refine (requireRegistry_agrees hlater.alike name).bind fun first second _ _ hlater _ => ?_
  refine reading_agrees hlater.alike registration fun registration => ?_
  obtain ⟨source, dest, script⟩ := registration
  have hregister : ∀ first second : Session, first.Alike second →
      Agree first second
        (do
          let registry ← registry name
          setRegistry name
            (← onMachine (registry.register source dest (script.conversion source)))
          return Answer.nothing)
        (do
          let registry ← registry name
          setRegistry name
            (← onMachine (registry.register source dest (script.conversion source)))
          return Answer.nothing) AnswersAlike := by
    intro first second halike
    refine (registry_agrees halike name).bind fun first second registry registry' hlater
      hregistries => ?_
    refine (onMachine_agrees hlater.alike (Registry.register_agrees hlater.alike.machine
      hregistries (script.conversion_isBlind source))).bind ?_
    intro first second changed changed' hlater hchanged
    exact (setRegistry_agrees hlater.alike name hchanged).answer fun _ _ _ _ _ _ => rfl
  dsimp only
  split
  · refine (onMachine_agrees hlater.alike (hlater.alike.machine.writeLog _ _)).bind ?_
    exact fun first second _ _ hlater _ => hregister first second hlater.alike
  · exact hregister first second hlater.alike

theorem unregister_agrees (name : RegistryName) (types : Reading (ValueType × ValueType)) :
    Agree first second (unregister name types) (unregister name types) AnswersAlike := by
  refine (requireChangeable_agrees halike name).bind fun first second _ _ hlater _ => ?_
  refine (requireRegistry_agrees hlater.alike name).bind fun first second _ _ hlater _ => ?_
  refine reading_agrees hlater.alike types fun ⟨source, dest⟩ => ?_
  refine (registry_agrees hlater.alike name).bind fun first second registry registry' hlater
    hregistries => ?_
  refine (onMachine_agrees hlater.alike
    (Registry.unregister_agrees hlater.alike.machine hregistries source dest)).bind ?_
  rintro first second ⟨found, rest⟩ ⟨_, rest'⟩ hlater ⟨rfl, hrests⟩
  exact (setRegistry_agrees hlater.alike name hrests).answer fun _ _ _ _ _ _ => rfl

theorem contains_agrees (name : RegistryName) (source dest : Reading (Option ValueType)) :
    Agree first second (contains name source dest) (contains name source dest) AnswersAlike := by
  refine (requireRegistry_agrees halike name).bind fun first second _ _ hlater _ => ?_
  refine (identityOf_agrees hlater.alike source).bind fun first second _ _ hlater hsource => ?_
  refine (identityOf_agrees hlater.alike dest).bind fun first second _ _ hlater' hdest => ?_
  refine (registry_agrees hlater'.alike name).answer fun first second registry registry' hlater
    hregistries => ?_
  have hcontains := hregistries.contains_eq
    (hsource.mono (hlater'.trans hlater).first (hlater'.trans hlater).second)
    (hdest.mono hlater.first hlater.second)
  exact congrArg (fun found => Answer.registered found found) hcontains

theorem coerce_agrees (name : RegistryName) (variableName : String) (type : Reading ValueType) :
    Agree first second (coerce name variableName type) (coerce name variableName type)
      AnswersAlike := by
  refine (requireRegistry_agrees halike name).bind fun first second _ _ hlater _ => ?_
  refine lookingUp_agrees hlater.alike variableName fun cell cell' hcells => ?_
  refine reading_agrees hlater.alike type fun type => ?_
  refine (registry_agrees hlater.alike name).bind fun first second registry registry' hlater
    hregistries => ?_
  refine (onMachine_agrees hlater.alike (Registry.coerce_agrees hregistries _ _ cell cell' type
    (.refl hlater.alike.machine) (hcells.later hlater.programs))).answer ?_
  intro first second result result' _ hresults
  cases hresults with
  | ok hvalues => exact congrArg (fun value => Answer.coercion (.ok ⟨type, value⟩)) hvalues
  | error hfailures => exact congrArg (fun error => Answer.coercion (.error error)) hfailures

theorem cast_agrees (name : RegistryName) (source : Reading Payload)
    (sourceType destType : Reading (Option ValueType)) (receiver : Reading ReceiverDescription) :
    Agree first second (cast name source sourceType destType receiver)
      (cast name source sourceType destType receiver) AnswersAlike := by
  refine (requireRegistry_agrees halike name).bind fun first second _ _ hlater _ => ?_
  refine reading_agrees hlater.alike source fun source => ?_
  refine (creating_agrees hlater.alike source).bind ?_
  rintro first second input _ hlater rfl
  refine (holdingInstance_agrees input ?_ :
    Agree _ _ _ _ fun _ _ => CastsAlike).bind ?_
  · refine (identityOf_agrees hlater.alike sourceType).bind
      fun first second _ _ hlater hsource => ?_
    refine (identityOf_agrees hlater.alike destType).bind fun first second _ _ hlater' hdest => ?_
    have hsource := hsource.mono hlater'.first hlater'.second
    refine reading_agrees hlater'.alike receiver fun ⟨type, value?⟩ => ?_
    refine (registry_agrees hlater'.alike name).bind fun first second registry registry' hlater
      hregistries => ?_
    have hsource := hsource.mono hlater.first hlater.second
    have hdest := hdest.mono hlater.first hlater.second
    exact onMachine_agrees hlater.alike
      (receiving_agrees hlater.alike.machine hregistries input hsource hdest type value?)
  · rintro first second ⟨result, receiver⟩ ⟨result', _⟩ hlater ⟨rfl, hresults⟩
    have hdestroy : Agree first.machine second.machine
        (do Action.unwinding receiver.destroy (Machine.discard input); Machine.destroy input)
        (do Action.unwinding receiver.destroy (Machine.discard input); Machine.destroy input)
        Same := by
      refine ((Receiver.destroy_agrees hlater.alike.machine receiver).unwinding fun _ _ hlater =>
        hlater.alike.discard input).bind ?_
      exact fun machine other _ _ hlater _ => Machine.Alike.destroy hlater.alike input
    refine (onMachine_agrees hlater.alike hdestroy).answer fun _ _ _ _ _ _ => ?_
    exact congrArg (Answer.casting · (receiver.content?.map Instance.payload)) hresults.mapError_eq

/-- An argument is a new value on both sides, or a copy of a variable on both. -/
theorem buildArgument_agrees (argument : Reading Argument) :
    Agree first second (buildArgument argument) (buildArgument argument)
      fun first second cell cell' => cell.Alike first.machine second.machine cell' := by
  refine reading_agrees halike argument fun argument => ?_
  cases argument with
  | value payload? => exact onMachine_agrees halike (newCell_agrees halike.machine payload?)
  | copyOf name =>
      exact lookingUp_agrees halike name fun cell cell' hcells =>
        onMachine_agrees halike (Cell.clone_agrees halike.machine hcells)

theorem buildArguments_agrees (arguments : List (Reading Argument)) {built built' : List Cell}
    (hbuilt : List.Forall₂ (Cell.Alike first.machine second.machine) built built') :
    Agree first second (buildArguments built arguments) (buildArguments built' arguments)
      fun first second => List.Forall₂ (Cell.Alike first.machine second.machine) := by
  induction arguments generalizing first second built built' with
  | nil => exact .pure halike hbuilt
  | cons argument rest ih =>
      refine (holdingCells_agrees hbuilt (buildArgument_agrees halike argument)).bind ?_
      intro first second cell cell' hlater hcells
      refine ih hlater.alike ?_
      exact List.rel_append (Cell.Alike.laterAll hbuilt hlater.programs) (.cons hcells .nil)

theorem call_agrees (environmentName name : String) (arguments : List (Reading Argument))
    (target? : Option String) :
    Agree first second (call environmentName name arguments target?)
      (call environmentName name arguments target?) AnswersAlike := by
  refine (buildArguments_agrees halike arguments .nil).bind ?_
  intro first second cells cells' hlater hcells
  refine (holdingCells_agrees hcells ?_ :
    Agree _ _ _ _ fun _ _ => EndsAlike CallError.Alike Eq).bind ?_
  · refine environment_agrees hlater.alike environmentName fun environment henvironment => ?_
    refine (onMachine_agrees hlater.alike
      (henvironment.call_agrees hlater.alike.machine name hcells)).bind ?_
    intro first second result result' hlater hresults
    cases hresults with
    | error hfailures => exact .pure hlater.alike (.error hfailures)
    | @ok cell cell' hvalues =>
        refine (onMachine_agrees hlater.alike
          (Cell.contents?_agrees hlater.alike.machine hvalues)).bind ?_
        rintro first second contents? _ hlater rfl
        have hvalues := hvalues.later hlater.programs
        cases target? with
        | none =>
            exact (onMachine_agrees hlater.alike (Cell.destroy_agrees hlater.alike.machine
              hvalues)).answer fun _ _ _ _ _ _ => .ok rfl
        | some target =>
            exact (store_agrees hlater.alike target hvalues).answer fun _ _ _ _ _ _ => .ok rfl
  · intro first second result result' hlater hresults
    refine (onMachine_agrees hlater.alike (Cell.destroyAll_agrees hlater.alike.machine
      (Cell.Alike.laterAll hcells hlater.programs))).answer ?_
    intro _ _ _ _ _ _
    cases hresults with
    | ok hvalues => exact congrArg (fun value => Answer.call (.ok value)) hvalues
    | error hfailures => exact congrArg (fun error => Answer.call (.error error)) hfailures

end Parts

/-- Sessions that are alike carry out a command in the same way. -/
theorem step_agrees (halike : first.Alike second) {command : Command}
    (hbinds : command.BindsSessionFunctions) :
    Agree first second (step command) (step command) AnswersAlike := by
  cases command with
  | new name payload? =>
      refine reading_agrees halike payload? fun payload? => ?_
      refine (onMachine_agrees halike (newCell_agrees halike.machine payload?)).bind ?_
      intro first second cell cell' hlater hcells
      exact (store_agrees hlater.alike name hcells).answer fun _ _ _ _ _ _ => rfl
  | clone source target =>
      refine lookingUp_agrees halike source fun cell cell' hcells => ?_
      refine (onMachine_agrees halike (Cell.clone_agrees halike.machine hcells)).bind ?_
      intro first second copy copy' hlater hcopies
      exact (store_agrees hlater.alike target hcopies).answer fun _ _ _ _ _ _ => rfl
  | assign source target => exact assign_agrees halike source target
  | assignValue name payload => exact assignValue_agrees halike name payload
  | swap firstName secondName => exact swap_agrees halike firstName secondName
  | take source target => exact take_agrees halike source target
  | reset name =>
      exact (onVariable_agrees halike name Same fun cell cell' hcells =>
        Cell.reset_agrees ⟨halike.machine, hcells⟩).answer fun _ _ _ _ _ _ => rfl
  | drop name => exact drop_agrees halike name
  | intoInner name type => exact intoInner_agrees halike name type
  | inspect name =>
      exact lookingUp_agrees halike name fun cell cell' hcells =>
        (onMachine_agrees halike (inspect_agrees halike.machine hcells)).answer
          fun _ _ _ _ _ hseen => hseen
  | push name =>
      exact lookingUp_agrees halike name fun cell cell' hcells =>
        (onMachine_agrees halike (Cell.pushOnto_agrees halike.machine hcells [])).answer
          fun _ _ _ _ _ hpushes => congrArg Answer.pushes hpushes
  | holds name type =>
      refine reading_agrees halike type fun type => ?_
      exact lookingUp_agrees halike name fun cell cell' hcells =>
        (onMachine_agrees halike (Cell.holds_agrees halike.machine hcells type)).answer
          fun _ _ _ _ _ hholds => congrArg Answer.truth hholds
  | downcast name type =>
      refine reading_agrees halike type fun type => ?_
      exact lookingUp_agrees halike name fun cell cell' hcells =>
        (onMachine_agrees halike (Cell.valueOf?_agrees halike.machine hcells type)).answer
          fun _ _ _ _ _ hvalues =>
            congrArg (fun value? : Option type.Value => Answer.payload (value?.map (⟨type, ·⟩)))
              hvalues
  | mutate name payload => exact mutate_agrees halike name payload
  | append name suffix =>
      exact (onVariable_agrees halike name Same fun cell cell' hcells =>
        Cell.append_agrees ⟨halike.machine, hcells⟩ suffix).answer
          fun _ _ _ _ _ happended => congrArg Answer.truth happended
  | get name type =>
      refine reading_agrees halike type fun type => ?_
      refine lookingUp_agrees halike name fun cell cell' hcells => ?_
      refine (onMachine_agrees halike (Cell.get_agrees halike.machine hcells type)).answer ?_
      intro _ _ _ _ _ hresults
      cases hresults with
      | ok hvalues =>
          exact congrArg (fun access : Access type => Answer.access (.ok access.accessed)) hvalues
      | error hcauses => exact congrArg (fun error => Answer.access (.error error)) hcauses
  | tryGet name type =>
      refine reading_agrees halike type fun type => ?_
      exact lookingUp_agrees halike name fun cell cell' hcells =>
        (onMachine_agrees halike (Cell.tryGet_agrees halike.machine hcells type)).answer
          fun _ _ _ _ _ haccesses =>
            congrArg (fun access? : Option (Access type) =>
              Answer.tryAccess (access?.map Access.accessed)) haccesses
  | getToMut name payload => exact getToMut_agrees halike name payload
  | identity type? =>
      exact (identityOf_agrees halike type?).answer fun first second _ _ hlater hidentities =>
        congrArg Answer.identity (hidentities.anonymous_eq hlater.alike.machine)
  | sameIdentity firstType secondType =>
      refine (identityOf_agrees halike firstType).bind fun first second _ _ hlater hfirst => ?_
      refine (identityOf_agrees hlater.alike secondType).answer fun _ _ _ _ hlater hsecond => ?_
      exact congrArg Answer.truth
        ((hfirst.mono hlater.first hlater.second).same_eq hsecond hlater.alike.machine)
  | counts =>
      refine looking_agrees halike ?_
      rw [halike.isFresh]
      split
      · exact .throw halike _
      · exact .pure halike rfl
  | table type =>
      refine reading_agrees halike type fun type => ?_
      refine (onMachine_agrees halike (halike.machine.tableFor type)).bind ?_
      intro first second table table' hlater htables
      refine (onMachine_agrees hlater.alike (hlater.alike.machine.tableFor type)).answer ?_
      intro first second again again' hlater hagain
      have htables := htables.mono hlater.first hlater.second
      have hidentities := (htables.identity hlater.alike.machine).anonymous_eq hlater.alike.machine
      simp only [AnswersAlike, Answer.anonymous, OperationTable.anonymous, htables.type,
        hidentities, htables.same_eq hagain hlater.alike.machine]
  | newRegistry name contents =>
      have hput : ∀ (first second : Session) (registry registry' : Registry), first.Alike second →
          registry.Alike first.machine second.machine registry' →
          Agree first second
            (do setRegistry (.named name) registry; return Answer.nothing : SessionAction Answer)
            (do setRegistry (.named name) registry'; return Answer.nothing) AnswersAlike :=
        fun first second registry registry' halike hregistries =>
          (setRegistry_agrees halike (.named name) hregistries).answer fun _ _ _ _ _ _ => rfl
      cases contents with
      | nothing => exact hput first second _ _ halike (Registry.empty_alike halike.machine)
      | builtIns =>
          refine (onMachine_agrees halike (Registry.withBuiltIns_agrees halike.machine)).bind ?_
          exact fun first second registry registry' hlater hregistries =>
            hput first second registry registry' hlater.alike hregistries
  | register name registration => exact register_agrees halike name registration
  | unregister name types => exact unregister_agrees halike name types
  | contains name source dest => exact contains_agrees halike name source dest
  | registrySize name =>
      exact (registry_agrees halike name).answer fun _ _ _ _ _ hregistries =>
        congrArg₂ Answer.registrySize hregistries.size_eq hregistries.isEmpty_eq
  | coerce name variableName type => exact coerce_agrees halike name variableName type
  | cast name source sourceType destType receiver =>
      exact cast_agrees halike name source sourceType destType receiver
  | newEnvironment name =>
      exact (setEnvironment_agrees halike name fun _ _ hfound => by cases hfound).answer
        fun _ _ _ _ _ _ => rfl
  | load name functions =>
      refine environment_agrees halike name fun environment henvironment => ?_
      refine (onMachine_agrees halike
        (henvironment.load_agrees halike.machine hbinds)).bind ?_
      rintro first second environment _ hlater ⟨rfl, henvironment⟩
      exact (setEnvironment_agrees hlater.alike name henvironment).answer fun _ _ _ _ _ _ => rfl
  | bind environmentName name function =>
      refine environment_agrees halike environmentName fun environment henvironment => ?_
      exact (setEnvironment_agrees halike environmentName
        (henvironment.bind name hbinds)).answer fun _ _ _ _ _ _ => rfl
  | isBound environmentName name =>
      exact environment_agrees halike environmentName fun _ _ => .pure halike rfl
  | environment name => exact environment_agrees halike name fun _ _ => .pure halike rfl
  | call environmentName name arguments target? =>
      exact call_agrees halike environmentName name arguments target?

end Session

end DynamicValue
