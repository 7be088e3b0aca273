/-
# Steps with their types exchanged

In sessions that mirror each other, a step on a variable or on a registry and the step with the
types in it exchanged end together, with answers that correspond, and leave sessions that mirror
each other. The steps on the values of variables are those of the typed store, in which the exchange
changes nothing; all others leave the variables as they are, and are followed part by part.
-/

import DynamicValue.Proofs.Cell.DebugText
import DynamicValue.Proofs.Exchange.Session
import DynamicValue.Proofs.Exchange.TypedStore
import DynamicValue.Proofs.Session.Frame
import DynamicValue.Proofs.Session.Steps

namespace DynamicValue

open DynamicValue.Action (EndTogether)

/-! ## Looking at a value -/

/-- Testing items one after the other, when the tests leave the state as it is. -/
theorem Action.run_filterM {σ α : Type} {test : α → Action σ Bool} {passes : α → Bool} {state : σ}
    (htest : ∀ item, (test item).run state = (.ok (passes item), state)) (items : List α) :
    (items.filterM test).run state = (.ok (items.filter passes), state) := by
  have hpassed (passed : List α) : (items.filterAuxM test passed).run state =
      (.ok ((items.filter passes).reverse ++ passed), state) := by
    induction items generalizing passed with
    | nil => rfl
    | cons item rest ih =>
        unfold List.filterAuxM
        rw [Action.run_bind_ok _ (htest item), ih, List.filter_cons]
        cases passes item with
        | true => simp
        | false => rfl
  unfold List.filterM
  rw [Action.run_bind_ok _ (hpassed []), List.append_nil, Action.run_pure, List.reverse_reverse]

/-- What is seen of a value with an identity and a payload, or of the empty value, apart from how it
is stored. -/
def Inspection.ofPayload (identity : TypeIdentity) (payload? : Option Payload) : Inspection where
  typeName := Cell.shownName (payload?.map Payload.type)
  isEmpty := payload?.isNone
  isInline := false
  isText := payload?.any fun payload => payload.type = .text || payload.type = .literal
  place := if payload?.isNone then .nowhere else .inSlot
  types := (payload?.map Payload.type).toList
  text := payload?.elim "" Payload.text
  debugText := ""
  identity := identity.anonymous
  pushes := [payload?.elim .nothing Payload.hostValue]
  payload? := payload?

theorem Inspection.ofPayload_exchanged {identity identity' : TypeIdentity}
    (hidentities : identity.Exchanged identity') (payload? : Option Payload) :
    ofPayload identity' (payload?.map Payload.exchanged) =
      (ofPayload identity payload?).exchanged := by
  unfold ofPayload exchanged
  rw [ValueType.exchangeName_shownName, hidentities]
  cases payload? with
  | none => rfl
  | some payload =>
      obtain ⟨type, value⟩ := payload
      cases type <;> rfl

namespace Cell

variable {machine other : Machine} {held held' : List Holding} {cell cell' : Cell}
  {holding? holding'? : Option Holding}

/-- What is seen of a value is what its payload is, but for how it is stored. The diagnostic form
goes with the payload, too, and names its type. -/
theorem inspect_run (hcoherent : machine.Coherent) (haccounts : machine.Accounts held)
    (hholds : cell.Holds machine holding?) (hsub : ∀ holding ∈ holding?, holding ∈ held) :
    ∃ seen, (Session.inspect cell).run machine = (.ok seen, machine) ∧
      seen.withoutStorage = .ofPayload cell.identity (holding?.map Holding.payload) ∧
      seen.debugText = shownDebugText (holding?.map Holding.payload) := by
  have htypes : (ValueType.all.filterM cell.holds).run machine =
      (.ok (holding?.map (·.payload.type)).toList, machine) := by
    rw [Action.run_filterM (holds_run haccounts hholds hsub)]
    cases holding? with
    | none => rfl
    | some holding =>
        have hone : ∀ type ∈ ValueType.all,
            ValueType.all.filter (fun listed => type = listed) = [type] := by decide +kernel
        exact congrArg (fun types => (Except.ok types, machine)) (hone _ (ValueType.mem_all _))
  have hisText : cell.holdsText.run machine = (.ok (holding?.any fun holding =>
      holding.payload.type = .text || holding.payload.type = .literal), machine) := by
    unfold holdsText
    rw [Action.run_bind_ok _ (holds_run haccounts hholds hsub .text)]
    cases holding? with
    | none => exact holds_run haccounts hholds hsub .literal
    | some holding =>
        by_cases htext : holding.payload.type = .text
        · simp [htext]
        · simp only [Option.any_some, htext, decide_false, Bool.false_or]
          exact holds_run haccounts hholds hsub .literal
  let seen : Inspection := {
    typeName := cell.typeName
    isEmpty := cell.isEmpty
    isInline := cell.isInline
    isText := holding?.any fun holding =>
      holding.payload.type = .text || holding.payload.type = .literal
    place := cell.place
    types := (holding?.map (·.payload.type)).toList
    text := holding?.elim "" fun holding => holding.payload.text
    debugText := shownDebugText (holding?.map Holding.payload)
    identity := cell.identity
    pushes := [holding?.elim .nothing fun holding => holding.payload.hostValue]
    payload? := (holding?.map Holding.contents).map Instance.payload }
  refine ⟨seen, ?_, ?_, rfl⟩
  · unfold Session.inspect
    rw [Action.run_bind_ok _ hisText, Action.run_bind_ok _ htypes,
      Action.run_bind_ok _ (text_run haccounts hholds hsub),
      Action.run_bind_ok _ (debugText_run hcoherent haccounts hholds hsub),
      Action.run_bind_ok _ (pushOnto_run haccounts hholds hsub []),
      Action.run_bind_ok _ (contents?_run haccounts hholds hsub)]
    rfl
  · unfold seen Inspection.withoutStorage Inspection.ofPayload
    rw [hholds.typeName_eq hcoherent, hholds.isEmpty_eq, hholds.place_eq]
    cases holding? with
    | none => rfl
    | some holding =>
        obtain ⟨box?, contents⟩ := holding
        cases box? <;> rfl

/-- What is seen of two values that are counterparts. -/
theorem inspect_mirror (hmirrors : machine.Mirrors other held held')
    (hcells : cell.Mirrors machine other held held' cell' holding? holding'?) :
    Action.Mirror machine other held held' (Session.inspect cell) (Session.inspect cell')
      fun seen seen' => AnswersExchanged (.inspection seen) (.inspection seen') := by
  obtain ⟨seen, hinspect, hseen, -⟩ :=
    inspect_run hmirrors.coherent hmirrors.accounts hcells.holds hcells.mem
  obtain ⟨seen', hinspect', hseen', -⟩ :=
    inspect_run hmirrors.otherCoherent hmirrors.otherAccounts hcells.otherHolds hcells.otherMem
  have hidentities := hcells.identity hmirrors.coherent hmirrors.otherCoherent
  rw [hcells.payloads, Inspection.ofPayload_exchanged hidentities.exchanged, ← hseen] at hseen'
  exact .ok hinspect hinspect' ⟨congrArg Answer.inspection hseen', .refl hmirrors⟩

/-- What two values that are counterparts push is the same. -/
theorem pushOnto_mirror (hmirrors : machine.Mirrors other held held')
    (hcells : cell.Mirrors machine other held held' cell' holding? holding'?) :
    Action.Mirror machine other held held' (cell.pushOnto []) (cell'.pushOnto []) Eq := by
  have hpushes := pushOnto_run hmirrors.accounts hcells.holds hcells.mem []
  have hpushes' := pushOnto_run hmirrors.otherAccounts hcells.otherHolds hcells.otherMem []
  refine .ok hpushes hpushes' ⟨?_, .refl hmirrors⟩
  obtain ⟨rfl, rfl⟩ | ⟨holding, holding', rfl, rfl, hpayload⟩ := hcells.holdings_cases
  · rfl
  · simp only [Option.elim_some, hpayload, Payload.hostValue_exchanged]

/-- The payload under a type is a payload that is a counterpart of the one on the other side. -/
theorem instanceOf?_mirror (hmirrors : machine.Mirrors other held held')
    (hcells : cell.Mirrors machine other held held' cell' holding? holding'?) (type : ValueType) :
    Action.Mirror machine other held held' (cell.instanceOf? type)
      (cell'.instanceOf? type.exchanged)
      (Option.Rel fun lent lent' => lent'.payload = lent.payload.exchanged) := by
  have hlent := instanceOf?_run hmirrors.accounts hcells.holds hcells.mem type
  have hlent' :=
    instanceOf?_run hmirrors.otherAccounts hcells.otherHolds hcells.otherMem type.exchanged
  refine .ok hlent hlent' ⟨?_, .refl hmirrors⟩
  obtain ⟨rfl, rfl⟩ | ⟨holding, holding', rfl, rfl, hpayload⟩ := hcells.holdings_cases
  · exact .none
  · have htype : holding'.contents.payload.type = holding.contents.payload.type.exchanged :=
      congrArg Payload.type hpayload
    simp only [Option.map_some, Option.filter_some, htype, ValueType.exchanged_inj]
    split
    · exact .some hpayload
    · exact .none

/-- A copy that is made of a payload and given up at once. -/
theorem copying_mirror {α β : Type} {values : α → β → Prop}
    (hmirrors : machine.Mirrors other held held') {lent lent' : Instance}
    (hpayloads : lent'.payload = lent.payload.exchanged) {value : α} {value' : β}
    (hvalues : values value value') :
    Action.Mirror machine other held held'
      (do
        let copied ← Machine.clone lent
        let _ ← Machine.destroy copied
        return value)
      (do
        let copied ← Machine.clone lent'
        let _ ← Machine.destroy copied
        return value') values := by
  refine EndTogether.bind (Machine.clone_mirror hpayloads hmirrors) ?_
  rintro copied copied' made made' ⟨hcopies, hmade⟩
  exact ((Machine.destroy_mirror hcopies hmade.mirrors).answer fun _ _ _ => hvalues).onward hmade

end Cell

/-! ## Casts -/

/-- What two receivers release ends with corresponding events. -/
theorem Receiver.Exchanged.released {machine other : Machine} {held held' : List Holding}
    {receiver receiver' : Receiver} (hreceivers : receiver.Exchanged receiver')
    (hmirrors : machine.Mirrors other (receiver.held ++ held) (receiver'.held ++ held')) :
    machine.Onward other held held'
      (machine.advance machine.heap 0 (receiver.content?.map Instance.serial).toList
        (Payload.dropEventsOf (receiver.content?.map Instance.payload)))
      (other.advance other.heap 0 (receiver'.content?.map Instance.serial).toList
        (Payload.dropEventsOf (receiver'.content?.map Instance.payload))) := by
  rw [hreceivers.dropEvents_eq]
  exact hmirrors.advance (accounts_released hmirrors.accounts _)
    (accounts_released hmirrors.otherAccounts _)

/-- What two casts with receivers of their own give: results that correspond, and corresponding
payloads in the receivers. -/
structure Casting.EndedAlike (ended ended' : Except ConversionError Unit × Receiver) : Prop where
  results : EndsAlike ConversionError.Exchanged Eq ended.1 ended'.1
  receivers : ended.2.Exchanged ended'.2

/-- Casts whose callers get the receivers afterwards. What these hold is given up after a halt. -/
theorem Casting.Mirror.withLocal {machine other : Machine} {held held' : List Holding}
    {receiver receiver' : Receiver} {action action' : Action Casting (Except ConversionError Unit)}
    (hcasts : Casting.Mirror machine other held held' receiver receiver' action action') :
    EndTogether machine other (Action.withLocal receiver Receiver.discard action)
      (Action.withLocal receiver' Receiver.discard action')
      (fun ended ended' after after' => Casting.EndedAlike ended ended' ∧
        machine.Onward other (ended.2.held ++ held) (ended'.2.held ++ held') after after')
      fun after after' => machine.Onward other held held' after after' := by
  cases hcasts with
  | ok haction hother hends =>
      exact .ok (Action.run_withLocal_ok Receiver.discard haction)
        (Action.run_withLocal_ok Receiver.discard hother)
        ⟨⟨hends.1, hends.2.receivers⟩, hends.2.onward⟩
  | error haction hother hends =>
      refine .error (Action.run_withLocal_error Receiver.discard haction)
        (Action.run_withLocal_error Receiver.discard hother) ?_
      rw [Receiver.discard_run, Receiver.discard_run]
      exact hends.onward.trans (hends.receivers.released hends.onward.mirrors)

namespace Registry

variable {machine other : Machine} {held held' : List Holding} {registry registry' : Registry}
  {input input' : Instance} {source source' dest dest' : TypeIdentity}

/-- A cast to a receiver that is made for it. -/
theorem receiving_mirror (hmirrors : machine.Mirrors other held held')
    (hregistries : registry.Exchanged machine other registry')
    (hinputs : input'.payload = input.payload.exchanged)
    (hsources : TypeIdentity.Counterparts machine other source source')
    (hdests : TypeIdentity.Counterparts machine other dest dest') (receiver : ReceiverDescription) :
    EndTogether machine other
      (do
        let content? ← receiver.content?.mapM fun value =>
          (Machine.create ⟨receiver.type, value⟩ : Action Machine Instance)
        Action.withLocal ⟨receiver.type, content?⟩ Receiver.discard
          (registry.cast input source dest))
      (do
        let content? ← receiver.exchanged.content?.mapM fun value =>
          (Machine.create ⟨receiver.exchanged.type, value⟩ : Action Machine Instance)
        Action.withLocal ⟨receiver.exchanged.type, content?⟩ Receiver.discard
          (registry'.cast input' source' dest'))
      (fun ended ended' after after' => Casting.EndedAlike ended ended' ∧
        machine.Onward other (ended.2.held ++ held) (ended'.2.held ++ held') after after')
      fun after after' => machine.Onward other held held' after after' := by
  obtain ⟨type, value?⟩ := receiver
  -- The casts end together from wherever the receivers have been made.
  have hcast {content? content'? : Option Instance} {made made' : Machine}
      (hreceivers : Receiver.Exchanged ⟨type, content?⟩ ⟨type.exchanged, content'?⟩)
      (hmade : machine.Onward other ((Receiver.mk type content?).held ++ held)
        ((Receiver.mk type.exchanged content'?).held ++ held') made made') :=
    have hsources := hsources.mono hmade.first hmade.second
    have hdests := hdests.mono hmade.first hmade.second
    have hregistries := hregistries.mono hmade.first hmade.mirrors.coherent hmade.second
      hmade.mirrors.otherCoherent
    have hcasts := cast_mirror hregistries hmade.mirrors hreceivers hinputs hsources hdests
    hcasts.withLocal.imp (fun _ _ _ _ hends => And.intro hends.1 (hmade.trans hends.2))
      fun _ _ hend => hmade.trans hend
  cases value? with
  | none => exact hcast ⟨rfl, rfl⟩ (.refl hmirrors)
  | some value =>
      have hmade := hmirrors.create ⟨type, value⟩ []
      have hcreate (machine : Machine) (payload : Payload) :
          (some <$> (liftM (Machine.create payload) : Action Machine Instance)).run machine =
            (.ok (some ⟨machine.created, payload⟩), machine.advance machine.heap 1 [] []) := by
        rw [Action.run_map, Action.run_lift, Machine.create_apply]
        rfl
      exact EndTogether.bind_of_ok (hcreate machine ⟨type, value⟩)
        (hcreate other (Payload.exchanged ⟨type, value⟩))
        (hcast ⟨rfl, rfl⟩ hmade)

/-- The end of the payloads of a cast: what the receiver holds goes first. -/
theorem releasing_mirror {receiver receiver' : Receiver} (hreceivers : receiver.Exchanged receiver')
    (hinputs : input'.payload = input.payload.exchanged)
    (hmirrors : machine.Mirrors other (receiver.held ++ .loose input :: held)
      (receiver'.held ++ .loose input' :: held')) :
    Action.Mirror machine other held held'
      (do
        Action.unwinding receiver.destroy (Machine.discard input)
        Machine.destroy input)
      (do
        Action.unwinding receiver'.destroy (Machine.discard input')
        Machine.destroy input') fun _ _ => True := by
  have hdestroy := Receiver.destroy_run receiver machine
  have hdestroy' := Receiver.destroy_run receiver' other
  rw [hreceivers.dropped_eq] at hdestroy'
  have hgone := hreceivers.released hmirrors
  cases hdropped : Payload.droppedOf (receiver.content?.map Instance.payload) with
  | error halt =>
      rw [hdropped] at hdestroy hdestroy'
      refine .error (Action.run_bind_error _ (Action.run_unwinding_error _ hdestroy))
        (Action.run_bind_error _ (Action.run_unwinding_error _ hdestroy')) ?_
      exact hgone.trans (Machine.discard_mirror hinputs hgone.mirrors)
  | ok _ =>
      rw [hdropped] at hdestroy hdestroy'
      exact .bind_of_ok (Action.run_unwinding_ok _ hdestroy) (Action.run_unwinding_ok _ hdestroy')
        hgone (Machine.destroy_mirror hinputs hgone.mirrors)

end Registry

namespace Session

variable {first second : Session} {holdings holdings' : Directory (Option Holding)}

/-! ## Steps that leave the variables as they are -/

section Steps

variable (hmirrors : first.Mirrors second holdings holdings' [] [])
include hmirrors

/-- The payload that is to be written is held until the access is over. -/
theorem getToMut_mirror (name : String) (payload : Reading Payload) :
    Mirror first second holdings holdings' [] [] (getToMut name payload)
      (getToMut name (payload.map Payload.exchanged)) fun _ _ => AnswersExchanged := by
  refine .reading hmirrors payload fun payload => ?_
  refine .creating hmirrors payload ?_
  intro contents contents' made made' hcontents hcontents' hmade
  have hpayloads : contents'.payload = contents.payload.exchanged := by rw [hcontents, hcontents']
  refine EndTogether.bind (Mirror.holdingInstance hpayloads (show Mirror made made' holdings
    holdings' [.loose contents] [.loose contents'] _ _ fun _ _ => AccessesExchanged from ?_)) ?_
  · refine .lookingUp hmade.mirrors name fun cell cell' holding? holding'? hcells => ?_
    refine .onMachine hmade.mirrors ((Cell.get_mirror hmade.mirrors.programs hcells
      payload.type).bind fun result result' machine other hafter hresults => ?_)
    have hgiven : AccessesExchanged (.ok ⟨payload, false, payload.text⟩)
        (.ok ⟨payload.exchanged, false, payload.exchanged.text⟩) :=
      .ok (congrArg (Accessed.mk payload.exchanged false) payload.text_exchanged)
    cases hresults with
    | error herrors => exact .pure hafter.mirrors (.error herrors)
    | @ok access access' haccess =>
        subst haccess
        obtain ⟨value, borrowed⟩ := access
        cases borrowed with
        | false => exact .pure hafter.mirrors hgiven
        | true =>
            have hcells := hcells.onward hafter
            refine Action.Mirror.bind (Cell.instanceOf?_mirror hafter.mirrors hcells payload.type)
              fun lent? lent'? machine other hafter hlent => ?_
            cases hlent with
            | none => exact .pure hafter.mirrors hgiven
            | some hlent =>
                exact Cell.copying_mirror hafter.mirrors hlent hgiven
  · rintro result result' after after' ⟨hresults, hafter⟩
    exact ((Mirror.destroying hpayloads hafter.mirrors).answer fun _ _ _ _ _ =>
      AnswersExchanged.access hresults).onward hafter

theorem register_mirror (name : RegistryName) (registration : Reading Registration) :
    Mirror first second holdings holdings' [] [] (register name registration)
      (register name (registration.map Registration.exchanged)) fun _ _ => AnswersExchanged := by
  refine (Mirror.requireChangeable hmirrors name).bind fun _ _ first second hafter _ => ?_
  refine (Mirror.requireRegistry hafter.mirrors name).bind fun _ _ first second hafter _ => ?_
  refine .reading hafter.mirrors registration fun ⟨source, dest, script⟩ => ?_
  have hregister : ∀ first second : Session, first.Mirrors second holdings holdings' [] [] →
      Mirror first second holdings holdings' [] []
        (do
          let registry ← registry name
          setRegistry name
            (← onMachine (registry.register source dest (script.conversion source)))
          return Answer.nothing)
        (do
          let registry ← registry name
          setRegistry name (← onMachine (registry.register source.exchanged dest.exchanged
            (script.exchanged.conversion source.exchanged)))
          return Answer.nothing) fun _ _ => AnswersExchanged := by
    intro first second hmirrors
    refine (Mirror.registry hmirrors name).bind fun _ _ first second hafter hregistries => ?_
    have hregistered := hregistries.register (script.conversion_exchanged source)
    refine (Mirror.learning hafter.mirrors
      (fun machine other registry registry' => registry.Exchanged machine other registry')
      (.register _ _ _ _) (.register _ _ _ _) hregistered).bind
      fun _ _ first second hafter hregistered => ?_
    exact (Mirror.setRegistry hafter.mirrors name hregistered).answer fun _ _ _ _ _ => rfl
  dsimp only [Registration.exchanged]
  split
  · refine (Mirror.learning hafter.mirrors (fun _ _ _ _ => True) (.writeLog _) (.writeLog _)
      trivial).bind fun _ _ first second hafter _ => ?_
    exact hregister first second hafter.mirrors
  · exact hregister first second hafter.mirrors

theorem unregister_mirror (name : RegistryName) (types : Reading (ValueType × ValueType)) :
    Mirror first second holdings holdings' [] [] (unregister name types)
      (unregister name (types.map (Prod.map ValueType.exchanged ValueType.exchanged)))
      fun _ _ => AnswersExchanged := by
  refine (Mirror.requireChangeable hmirrors name).bind fun _ _ first second hafter _ => ?_
  refine (Mirror.requireRegistry hafter.mirrors name).bind fun _ _ first second hafter _ => ?_
  refine .reading hafter.mirrors types fun ⟨source, dest⟩ => ?_
  refine (Mirror.registry hafter.mirrors name).bind fun _ _ first second hafter hregistries => ?_
  have hunregistered := hregistries.unregister source dest
  refine (Mirror.learning hafter.mirrors
    (fun machine other ended ended' => ended'.1 = ended.1 ∧
      ended.2.Exchanged machine other ended'.2)
    (.unregister _ _ _) (.unregister _ _ _) hunregistered).bind ?_
  rintro ended ended' first second hafter ⟨hfound, hrest⟩
  exact (Mirror.setRegistry hafter.mirrors name hrest).answer fun _ _ _ _ _ =>
    AnswersExchanged.of_eq (congrArg Answer.truth hfound)

theorem contains_mirror (name : RegistryName) (source dest : Reading (Option ValueType)) :
    Mirror first second holdings holdings' [] [] (contains name source dest)
      (contains name (source.map (Option.map ValueType.exchanged))
        (dest.map (Option.map ValueType.exchanged))) fun _ _ => AnswersExchanged := by
  refine (Mirror.requireRegistry hmirrors name).bind fun _ _ first second hafter _ => ?_
  refine (Mirror.identityOf hafter.mirrors source).bind fun _ _ first second hafter hsources => ?_
  refine (Mirror.identityOf hafter.mirrors dest).bind fun _ _ first second hknown hdests => ?_
  have hsources := hsources.mono hknown.first hknown.second
  refine (Mirror.registry hknown.mirrors name).bind fun _ _ first second hafter hregistries => ?_
  have hsources := hsources.mono hafter.first hafter.second
  have hdests := hdests.mono hafter.first hafter.second
  exact .pure hafter.mirrors (AnswersExchanged.of_eq (congrArg
    (fun found => Answer.registered found found) (hregistries.contains_eq hsources hdests)))

theorem newRegistry_mirror (name : String) (contents : RegistryContents) :
    Mirror first second holdings holdings' [] [] (step (.newRegistry name contents))
      (step (.newRegistry name contents)) fun _ _ => AnswersExchanged := by
  have hput : ∀ (first second : Session) (registry registry' : Registry),
      first.Mirrors second holdings holdings' [] [] →
      registry.Exchanged first.machine second.machine registry' →
      Mirror first second holdings holdings' [] []
        (do setRegistry (.named name) registry; return Answer.nothing)
        (do setRegistry (.named name) registry'; return Answer.nothing)
        fun _ _ => AnswersExchanged :=
    fun _ _ _ _ hmirrors hregistries =>
      (Mirror.setRegistry hmirrors _ hregistries).answer fun _ _ _ _ _ => rfl
  have hcoherent := hmirrors.owns.coherent
  have hcoherent' := hmirrors.otherOwns.coherent
  cases contents with
  | nothing =>
      exact hput first second _ _ hmirrors
        ⟨[], [], .nil, .empty hcoherent, .empty hcoherent'⟩
  | builtIns =>
      have hregistries := Registry.Exchanged.withBuiltIns hcoherent hcoherent'
      exact (Mirror.learning hmirrors
        (fun machine other registry registry' => registry.Exchanged machine other registry')
        .withBuiltIns .withBuiltIns hregistries).bind fun _ _ first second hafter hregistries =>
          hput first second _ _ hafter.mirrors hregistries

theorem coerce_mirror (name : RegistryName) (variableName : String) (type : Reading ValueType) :
    Mirror first second holdings holdings' [] [] (coerce name variableName type)
      (coerce name variableName (type.map ValueType.exchanged)) fun _ _ => AnswersExchanged := by
  refine (Mirror.requireRegistry hmirrors name).bind fun _ _ first second hafter _ => ?_
  refine .lookingUp hafter.mirrors variableName fun cell cell' holding? holding'? hcells => ?_
  refine .reading hafter.mirrors type fun type => ?_
  refine (Mirror.registry hafter.mirrors name).bind fun _ _ after after' hknown hregistries => ?_
  have hcells := hcells.onward
    ⟨hknown.mirrors.programs, hknown.first, hknown.second⟩
  have hcoerce := Registry.coerce_mirror hregistries after.machine after'.machine _ _ cell cell' _
    _ type (.refl hknown.mirrors.programs) hcells
  exact (Mirror.onMachine hknown.mirrors hcoerce).answer fun _ _ _ _ =>
    AnswersExchanged.coercion

/-- The payload that is to be cast is held until the cast is over. -/
theorem cast_mirror (name : RegistryName) (source : Reading Payload)
    (sourceType destType : Reading (Option ValueType)) (receiver : Reading ReceiverDescription) :
    Mirror first second holdings holdings' [] [] (cast name source sourceType destType receiver)
      (cast name (source.map Payload.exchanged) (sourceType.map (Option.map ValueType.exchanged))
        (destType.map (Option.map ValueType.exchanged))
        (receiver.map ReceiverDescription.exchanged)) fun _ _ => AnswersExchanged := by
  refine (Mirror.requireRegistry hmirrors name).bind fun _ _ first second hafter _ => ?_
  refine .reading hafter.mirrors source fun source => ?_
  refine .creating hafter.mirrors source fun input input' made made' hinput hinput' hmade => ?_
  have hinputs : input'.payload = input.payload.exchanged := by rw [hinput, hinput']
  refine EndTogether.bind (show EndTogether made made' _ _
    (fun (ended ended' : Except ConversionError Unit × Receiver) after after' =>
      Casting.EndedAlike ended ended' ∧ made.Onward made' holdings holdings'
        (ended.2.held ++ [.loose input]) (ended'.2.held ++ [.loose input']) after after')
    (fun after after' => made.Onward made' holdings holdings' [] [] after after') from ?_) ?_
  · refine Mirror.holdingInstance hinputs ?_
    refine (Mirror.identityOf hmade.mirrors sourceType).followed (fun _ _ hafter => hafter)
      fun _ _ _ _ hafter hsources => ?_
    refine (Mirror.identityOf hafter.mirrors destType).followed
      (fun _ _ hknown => hafter.trans hknown) fun _ _ _ _ hknown hdests => ?_
    have hsources := hsources.mono hknown.first hknown.second
    have hafter := hafter.trans hknown
    refine reading_together receiver hafter fun receiver => ?_
    refine (Mirror.registry hafter.mirrors name).followed
      (fun _ _ hknown => hafter.trans hknown) fun _ _ _ _ hknown hregistries => ?_
    have hsources := hsources.mono hknown.first hknown.second
    have hdests := hdests.mono hknown.first hknown.second
    have hafter := hafter.trans hknown
    refine onMachine_together (Registry.receiving_mirror hafter.mirrors.programs hregistries hinputs
      hsources hdests receiver) ?_ fun _ _ hend => hafter.trans (hafter.mirrors.withMachine hend)
    rintro ended ended' machine other ⟨hended, hend⟩
    rw [← List.append_assoc, ← List.append_assoc] at hend
    exact ⟨hended, hafter.trans (hafter.mirrors.withMachine hend)⟩
  · rintro ⟨result, receiver⟩ ⟨result', receiver'⟩ after after' ⟨⟨hresults, hreceivers⟩, hafter⟩
    have hprograms := hafter.mirrors.programs
    rw [List.append_assoc, List.append_assoc] at hprograms
    refine Mirror.onward (Mirror.answer (Mirror.onPrograms hafter.mirrors
      (Registry.releasing_mirror hreceivers hinputs hprograms)) ?_) hafter
    exact fun _ _ _ _ _ => AnswersExchanged.casting hresults hreceivers.payloads

end Steps

end Session

end DynamicValue
