/-
# Programs with their types exchanged

Two programs mirror each other if the second one reports the events of the first one with the types
exchanged, and has registries that correspond. Where they keep their payloads is a different matter:
each accounts for holdings of its own, some in slots on one side and in boxes on the other. Dynamic
values are counterparts of each other if what they hold is the same payload up to the exchange.

Two actions end together if both succeed or both fail, with the same failure. Whole actions do if
their parts do, one after the other. So what a conversion makes, copies, converts and destroys on
the way is followed in both programs at once, by induction on its plan.
-/

import DynamicValue.Proofs.Exchange.Plan
import DynamicValue.Proofs.Likeness.Program

namespace DynamicValue

/-! ## Actions that end together -/

/-- Two actions, each in a state of its own, that both succeed or both fail. Of the values and the
states after a success one thing is known, and of the states after a failure, which is the same on
both sides, another one. -/
inductive Action.EndTogether {ε σ τ α β : Type} (first : σ) (second : τ)
    (action : ExceptT ε (StateM σ) α) (other : ExceptT ε (StateM τ) β)
    (succeeds : α → β → σ → τ → Prop) (fails : σ → τ → Prop) : Prop
  | ok {value : α} {value' : β} {after : σ} {after' : τ}
      (haction : action.run first = (.ok value, after))
      (hother : other.run second = (.ok value', after'))
      (hsucceeds : succeeds value value' after after')
  | error {failure : ε} {after : σ} {after' : τ}
      (haction : action.run first = (.error failure, after))
      (hother : other.run second = (.error failure, after')) (hfails : fails after after')

namespace Action.EndTogether

variable {ε σ τ α β γ δ : Type} {first first' : σ} {second second' : τ}
  {action : ExceptT ε (StateM σ) α} {other : ExceptT ε (StateM τ) β}
  {succeeds : α → β → σ → τ → Prop} {fails : σ → τ → Prop}

theorem pure {value : α} {value' : β} (hsucceeds : succeeds value value' first second) :
    EndTogether first second (Pure.pure value : ExceptT ε (StateM σ) α)
      (Pure.pure value' : ExceptT ε (StateM τ) β) succeeds fails :=
  .ok (run_pure _ _) (run_pure _ _) hsucceeds

theorem throw (failure : ε) (hfails : fails first second) :
    EndTogether first second (throw failure : ExceptT ε (StateM σ) α)
      (throw failure : ExceptT ε (StateM τ) β) succeeds fails :=
  .error rfl rfl hfails

/-- Changes of the states that cannot fail, as parts of actions. -/
theorem lift {part : StateM σ α} {part' : StateM τ β}
    (hsucceeds : succeeds (part first).1 (part' second).1 (part first).2 (part' second).2) :
    EndTogether first second (liftM part : ExceptT ε (StateM σ) α)
      (liftM part' : ExceptT ε (StateM τ) β) succeeds fails :=
  .ok (run_lift _ _) (run_lift _ _) hsucceeds

/-- First parts that are known to succeed. -/
theorem bind_of_ok {next : α → ExceptT ε (StateM σ) γ} {next' : β → ExceptT ε (StateM τ) δ}
    {final : γ → δ → σ → τ → Prop} {value : α} {value' : β}
    (haction : action.run first = (.ok value, first'))
    (hother : other.run second = (.ok value', second'))
    (hnext : EndTogether first' second' (next value) (next' value') final fails) :
    EndTogether first second (action >>= next) (other >>= next') final fails := by
  cases hnext with
  | ok hrun hrun' hfinal =>
      exact .ok ((run_bind_ok _ haction).trans hrun) ((run_bind_ok _ hother).trans hrun') hfinal
  | error hrun hrun' hfails =>
      exact .error ((run_bind_ok _ haction).trans hrun) ((run_bind_ok _ hother).trans hrun') hfails

/-- Parts that end together are followed by parts that end together from where they end. -/
theorem bind {next : α → ExceptT ε (StateM σ) γ} {next' : β → ExceptT ε (StateM τ) δ}
    {final : γ → δ → σ → τ → Prop} (hparts : EndTogether first second action other succeeds fails)
    (hnext : ∀ value value' after after', succeeds value value' after after' →
      EndTogether after after' (next value) (next' value') final fails) :
    EndTogether first second (action >>= next) (other >>= next') final fails := by
  cases hparts with
  | ok haction hother hsucceeds => exact bind_of_ok haction hother (hnext _ _ _ _ hsucceeds)
  | error haction hother hfails =>
      exact .error (run_bind_error _ haction) (run_bind_error _ hother) hfails

theorem imp {succeeds' : α → β → σ → τ → Prop} {fails' : σ → τ → Prop}
    (hparts : EndTogether first second action other succeeds fails)
    (hsucceeds : ∀ value value' after after', succeeds value value' after after' →
      succeeds' value value' after after')
    (hfails : ∀ after after', fails after after' → fails' after after') :
    EndTogether first second action other succeeds' fails' := by
  cases hparts with
  | ok haction hother hends => exact .ok haction hother (hsucceeds _ _ _ _ hends)
  | error haction hother hends => exact .error haction hother (hfails _ _ hends)

end Action.EndTogether

open DynamicValue.Action (EndTogether)

/-! ## Registries and programs -/

/-- Two registries, each in a program of its own, whose histories correspond. -/
def Registry.Exchanged (machine other : Machine) (first second : Registry) : Prop :=
  ∃ history history', HistoriesExchanged history history' ∧ first.Follows machine history ∧
    second.Follows other history'

namespace Registry.Exchanged

variable {machine other after after' : Machine} {first second : Registry}

theorem mono (hregistries : first.Exchanged machine other second)
    (hextends : machine.Extends after) (hafter : after.Coherent) (hextends' : other.Extends after')
    (hafter' : after'.Coherent) : first.Exchanged after after' second := by
  obtain ⟨history, history', hhistories, hfirst, hsecond⟩ := hregistries
  exact ⟨history, history', hhistories, hfirst.mono hextends hafter, hsecond.mono hextends' hafter'⟩

/-- Registries that correspond have the same number of conversions. -/
theorem size_eq (hregistries : first.Exchanged machine other second) :
    second.size = first.size := by
  obtain ⟨history, history', hhistories, hfirst, hsecond⟩ := hregistries
  have hlive : isLive history' ∘ Prod.map ValueType.exchanged ValueType.exchanged =
      isLive history :=
    funext fun pair => hhistories.isLive_eq pair.1 pair.2
  rw [hfirst.size_eq, hsecond.size_eq, ← ValueType.pairs_exchanged_perm.countP_eq, List.countP_map,
    hlive]

theorem isEmpty_eq (hregistries : first.Exchanged machine other second) :
    second.isEmpty = first.isEmpty := by
  have hsize : second.entries.length = first.entries.length := hregistries.size_eq
  rw [Registry.isEmpty, Registry.isEmpty, Bool.eq_iff_iff, List.isEmpty_iff_length_eq_zero,
    List.isEmpty_iff_length_eq_zero, hsize]

end Registry.Exchanged

/-- Two programs, the second one with the types exchanged: it has reported the corresponding events
and has a global registry that corresponds, if there is one. -/
structure Machine.Exchanged (machine other : Machine) : Prop where
  events : other.events = machine.events.map Event.exchanged
  global : Option.Rel (Registry.Exchanged machine other) machine.global? other.global?

/-- Two programs with the types exchanged, each of which accounts for holdings of its own. -/
structure Machine.Mirrors (machine other : Machine) (holdings holdings' : List Holding) : Prop
    extends Machine.Exchanged machine other where
  coherent : machine.Coherent
  otherCoherent : other.Coherent
  accounts : machine.Accounts holdings
  otherAccounts : other.Accounts holdings'

/-- Two programs that mirror each other, and know at least what two earlier ones knew. -/
structure Machine.Onward (machine other : Machine) (holdings holdings' : List Holding)
    (after after' : Machine) : Prop where
  mirrors : after.Mirrors after' holdings holdings'
  first : machine.Extends after
  second : other.Extends after'

section Programs

variable {machine other after after' final final' : Machine}
  {holdings holdings' others others' : List Holding}

/-- Programs that go on in corresponding ways. -/
theorem Machine.Exchanged.onward (hexchanged : machine.Exchanged other) (added : List Event)
    (hextends : machine.Extends after) (hafter : after.Coherent) (hextends' : other.Extends after')
    (hafter' : after'.Coherent) (hevents : after.events = machine.events ++ added)
    (hevents' : after'.events = other.events ++ added.map Event.exchanged)
    (hglobal : after.global? = machine.global?) (hglobal' : after'.global? = other.global?) :
    after.Exchanged after' where
  events := by rw [hevents, hevents', hexchanged.events, List.map_append]
  global := by
    have hregistries := hexchanged.global
    rw [hglobal, hglobal']
    generalize machine.global? = registry? at hregistries ⊢
    generalize other.global? = registry'? at hregistries ⊢
    cases hregistries with
    | none => exact .none
    | some hregistries => exact .some (hregistries.mono hextends hafter hextends' hafter')

namespace Machine.Onward

theorem refl (hmirrors : machine.Mirrors other holdings holdings') :
    machine.Onward other holdings holdings' machine other :=
  ⟨hmirrors, .refl _, .refl _⟩

theorem trans (hafter : machine.Onward other holdings holdings' after after')
    (hfinal : after.Onward after' others others' final final') :
    machine.Onward other others others' final final' :=
  ⟨hfinal.mirrors, hafter.first.trans hfinal.first, hafter.second.trans hfinal.second⟩

end Machine.Onward

namespace Machine.Mirrors

variable (hmirrors : machine.Mirrors other holdings holdings')
include hmirrors

/-- Programs that only learn go on mirroring each other. -/
theorem learn (hlearns : machine.Learns after) (hafter : after.Coherent)
    (hlearns' : other.Learns after') (hafter' : after'.Coherent) :
    machine.Onward other holdings holdings' after after' where
  mirrors := {
    coherent := hafter
    otherCoherent := hafter'
    accounts := hlearns.accounts hmirrors.accounts
    otherAccounts := hlearns'.accounts hmirrors.otherAccounts
    toExchanged := hmirrors.toExchanged.onward [] hlearns.toExtends hafter
      hlearns'.toExtends hafter' (by rw [hlearns.events, List.append_nil])
      (by rw [hlearns'.events, List.map_nil, List.append_nil]) hlearns.global? hlearns'.global? }
  first := hlearns.toExtends
  second := hlearns'.toExtends

/-- The payloads of two programs change, each in its own place, and corresponding events are
reported. -/
theorem advance {heap heap' : List (Option Instance)} {created created' : Nat}
    {destroyed destroyed' : List Nat} {events : List Event}
    (haccounts : (machine.advance heap created destroyed events).Accounts others)
    (haccounts' : (other.advance heap' created' destroyed'
      (events.map Event.exchanged)).Accounts others') :
    machine.Onward other others others' (machine.advance heap created destroyed events)
      (other.advance heap' created' destroyed' (events.map Event.exchanged)) where
  mirrors := {
    coherent := hmirrors.coherent.advance _ _ _ _
    otherCoherent := hmirrors.otherCoherent.advance _ _ _ _
    accounts := haccounts
    otherAccounts := haccounts'
    toExchanged := hmirrors.toExchanged.onward events (.advance _ _ _ _ _)
      (hmirrors.coherent.advance _ _ _ _) (.advance _ _ _ _ _)
      (hmirrors.otherCoherent.advance _ _ _ _) rfl rfl rfl rfl }
  first := .advance _ _ _ _ _
  second := .advance _ _ _ _ _

/-- Payloads are made on both sides, and corresponding events are reported. -/
theorem create (payload : Payload) (events : List Event) :
    machine.Onward other (.loose ⟨machine.created, payload⟩ :: holdings)
      (.loose ⟨other.created, payload.exchanged⟩ :: holdings')
      (machine.advance machine.heap 1 [] events)
      (other.advance other.heap 1 [] (events.map Event.exchanged)) :=
  hmirrors.advance (hmirrors.accounts.create payload events)
    (hmirrors.otherAccounts.create payload.exchanged (events.map Event.exchanged))

end Machine.Mirrors

/-! ## Identities -/

/-- Two identities, each known in a program of its own, of types in each other's places. -/
structure TypeIdentity.Counterparts (machine other : Machine) (first second : TypeIdentity) :
    Prop where
  known : machine.Knows first
  otherKnown : other.Knows second
  exchanged : first.Exchanged second

namespace TypeIdentity.Counterparts

variable {first second : TypeIdentity}

theorem null : Counterparts machine other .null .null := ⟨.inl rfl, .inl rfl, .null⟩

theorem mono (hidentities : Counterparts machine other first second)
    (hextends : machine.Extends after) (hextends' : other.Extends after') :
    Counterparts after after' first second :=
  ⟨hidentities.known.mono hextends, hidentities.otherKnown.mono hextends', hidentities.exchanged⟩

/-- The identities of a type and of the type in its place. -/
theorem of_identity? (hcoherent : machine.Coherent) (hother : other.Coherent) {type : ValueType}
    (hfirst : machine.identity? type = some first)
    (hsecond : other.identity? type.exchanged = some second) :
    Counterparts machine other first second where
  known := .of_identity? hfirst
  otherKnown := .of_identity? hsecond
  exchanged := by
    have hnumber := congrArg TypeIdentity.number
      ((Machine.Knows.of_identity? hfirst).anonymous_eq hcoherent)
    have htype := (hcoherent.identity?_eq_some_iff.mp hfirst).2
    have htype' := (hother.identity?_eq_some_iff.mp hsecond).2
    rw [htype] at hnumber
    rw [TypeIdentity.Exchanged, (Machine.Knows.of_identity? hsecond).anonymous_eq hother, htype']
    unfold TypeIdentity.exchanged
    rw [htype]
    exact congrArg (TypeIdentity.mk · _) hnumber.symm

end TypeIdentity.Counterparts

/-- Each program makes the identity that it is asked for, or has it already. -/
theorem Machine.Mirrors.identify (hmirrors : machine.Mirrors other holdings holdings')
    (type : ValueType) :
    machine.Onward other holdings holdings' (Machine.identify type machine).2
        (Machine.identify type.exchanged other).2 ∧
      TypeIdentity.Counterparts (Machine.identify type machine).2
        (Machine.identify type.exchanged other).2 (Machine.identify type machine).1
        (Machine.identify type.exchanged other).1 := by
  have hcoherent := identify_coherent hmirrors.coherent type
  have hcoherent' := identify_coherent hmirrors.otherCoherent type.exchanged
  exact ⟨hmirrors.learn (identify_learns type machine) hcoherent
      (identify_learns type.exchanged other) hcoherent',
    .of_identity? hcoherent hcoherent' (identity?_identify hmirrors.coherent type)
      (identity?_identify hmirrors.otherCoherent type.exchanged)⟩

/-! ## Dynamic values -/

/-- Two dynamic values, each in a program of its own: the second one holds the payload of the first
one up to the exchange, or neither holds any. Both are accounted for. -/
structure Cell.Mirrors (machine other : Machine) (holdings holdings' : List Holding)
    (cell cell' : Cell) (holding? holding'? : Option Holding) : Prop where
  holds : cell.Holds machine holding?
  otherHolds : cell'.Holds other holding'?
  mem : ∀ holding ∈ holding?, holding ∈ holdings
  otherMem : ∀ holding ∈ holding'?, holding ∈ holdings'
  payloads : holding'?.map Holding.payload = (holding?.map Holding.payload).map Payload.exchanged

namespace Cell.Mirrors

variable {cell cell' : Cell} {holding? holding'? : Option Holding}
  (hcells : cell.Mirrors machine other holdings holdings' cell' holding? holding'?)
include hcells

/-- Values stay counterparts while the programs go on. -/
theorem onward (hafter : machine.Onward other holdings holdings' after after') :
    cell.Mirrors after after' holdings holdings' cell' holding? holding'? :=
  { hcells with
    holds := hcells.holds.mono hafter.first
    otherHolds := hcells.otherHolds.mono hafter.second }

/-- Both values are empty, or both hold a payload. -/
theorem holdings_cases :
    (holding? = none ∧ holding'? = none) ∨
      ∃ holding holding', holding? = some holding ∧ holding'? = some holding' ∧
        holding'.payload = holding.payload.exchanged := by
  have hpayloads := hcells.payloads
  cases holding? with
  | none => exact .inl ⟨rfl, Option.map_eq_none_iff.mp hpayloads⟩
  | some holding =>
      obtain ⟨holding', rfl, hpayload⟩ := Option.map_eq_some_iff.mp hpayloads
      exact .inr ⟨holding, holding', rfl, rfl, hpayload⟩

theorem identity (hcoherent : machine.Coherent) (hother : other.Coherent) :
    TypeIdentity.Counterparts machine other cell.identity cell'.identity := by
  obtain ⟨rfl, rfl⟩ | ⟨holding, holding', rfl, rfl, hpayload⟩ := hcells.holdings_cases
  · rw [hcells.holds.eq_empty, hcells.otherHolds.eq_empty]
    exact .null
  · have htype : holding'.payload.type = holding.payload.type.exchanged :=
      congrArg Payload.type hpayload
    exact .of_identity? hcoherent hother (hcells.holds.identity?_eq hcoherent)
      (htype ▸ hcells.otherHolds.identity?_eq hother)

end Cell.Mirrors

end Programs

/-- Two actions that end together and leave what is held as it is. -/
def Action.Mirror {α β : Type} (machine other : Machine) (holdings holdings' : List Holding)
    (action : Action Machine α) (action' : Action Machine β) (values : α → β → Prop) : Prop :=
  EndTogether machine other action action'
    (fun value value' after after' => values value value' ∧
      machine.Onward other holdings holdings' after after')
    fun after after' => machine.Onward other holdings holdings' after after'

namespace Action.Mirror

variable {α β γ δ : Type} {machine other after after' : Machine}
  {holdings holdings' others others' : List Holding} {action : Action Machine α}
  {action' : Action Machine β} {values : α → β → Prop}

theorem pure (hmirrors : machine.Mirrors other holdings holdings') {value : α} {value' : β}
    (hvalues : values value value') :
    Mirror machine other holdings holdings' (Pure.pure value) (Pure.pure value') values :=
  EndTogether.pure ⟨hvalues, .refl hmirrors⟩

/-- What two programs do from where earlier parts have led them. -/
theorem onward (hparts : Mirror after after' holdings holdings' action action' values)
    (hafter : machine.Onward other others others' after after') :
    EndTogether after after' action action'
      (fun value value' final final' => values value value' ∧
        machine.Onward other holdings holdings' final final')
      fun final final' => machine.Onward other holdings holdings' final final' :=
  hparts.imp (fun _ _ _ _ hends => ⟨hends.1, hafter.trans hends.2⟩)
    fun _ _ hfails => hafter.trans hfails

theorem bind {next : α → Action Machine γ} {next' : β → Action Machine δ} {final : γ → δ → Prop}
    (hparts : Mirror machine other holdings holdings' action action' values)
    (hnext : ∀ value value' after after', machine.Onward other holdings holdings' after after' →
      values value value' →
      Mirror after after' holdings holdings' (next value) (next' value') final) :
    Mirror machine other holdings holdings' (action >>= next) (action' >>= next') final :=
  EndTogether.bind hparts fun value value' after after' hends =>
    (hnext value value' after after' hends.2 hends.1).onward hends.2

/-- Parts that hand something over to the rest. -/
theorem bind_of_ok {next : α → Action Machine γ} {next' : β → Action Machine δ}
    {final : γ → δ → Prop} {value : α} {value' : β}
    (haction : action.run machine = (.ok value, after))
    (hother : action'.run other = (.ok value', after'))
    (hafter : machine.Onward other others others' after after')
    (hnext : Mirror after after' holdings holdings' (next value) (next' value') final) :
    Mirror machine other holdings holdings' (action >>= next) (action' >>= next') final :=
  EndTogether.bind_of_ok haction hother (hnext.onward hafter)

/-- The answers that follow from what two parts give. -/
theorem answer {final : γ → δ → Prop} {value : α → γ} {value' : β → δ}
    (hparts : Mirror machine other holdings holdings' action action' values)
    (himp : ∀ given given', values given given' → final (value given) (value' given')) :
    Mirror machine other holdings holdings' (action >>= fun given => Pure.pure (value given))
      (action' >>= fun given => Pure.pure (value' given)) final :=
  hparts.bind fun given given' _ _ hafter hvalues => pure hafter.mirrors (himp given given' hvalues)

theorem identify (hmirrors : machine.Mirrors other holdings holdings') (type : ValueType) :
    Mirror machine other holdings holdings' (liftM (Machine.identify type))
      (liftM (Machine.identify type.exchanged)) TypeIdentity.Exchanged :=
  EndTogether.lift ⟨(hmirrors.identify type).2.exchanged, (hmirrors.identify type).1⟩

end Action.Mirror

/-! ## Payloads -/

section Payloads

variable {machine other : Machine} {holdings holdings' : List Holding}
  {contents contents' : Instance}

/-- Payloads that are counterparts end in the same way. -/
theorem Machine.destroy_mirror (hpayloads : contents'.payload = contents.payload.exchanged)
    (hmirrors : machine.Mirrors other (.loose contents :: holdings)
      (.loose contents' :: holdings')) :
    Action.Mirror machine other holdings holdings' (destroy contents) (destroy contents')
      fun _ _ => True := by
  have hdestroy := destroy_run contents machine
  have hdestroy' := destroy_run contents' other
  rw [hpayloads, Payload.dropped_exchanged, Payload.dropEvents_exchanged] at hdestroy'
  have hgone := hmirrors.advance (hmirrors.accounts.discard contents.payload.dropEvents)
    (hmirrors.otherAccounts.discard (contents.payload.dropEvents.map Event.exchanged))
  cases hdropped : contents.payload.dropped with
  | error halt =>
      rw [hdropped] at hdestroy hdestroy'
      exact .error hdestroy hdestroy' hgone
  | ok _ =>
      rw [hdropped] at hdestroy hdestroy'
      exact .ok hdestroy hdestroy' ⟨trivial, hgone⟩

theorem Machine.discard_mirror (hpayloads : contents'.payload = contents.payload.exchanged)
    (hmirrors : machine.Mirrors other (.loose contents :: holdings)
      (.loose contents' :: holdings')) :
    machine.Onward other holdings holdings' (discard contents machine).2
      (discard contents' other).2 := by
  rw [discard_apply, discard_apply, hpayloads, Payload.dropEvents_exchanged]
  exact hmirrors.advance (hmirrors.accounts.discard contents.payload.dropEvents)
    (hmirrors.otherAccounts.discard (contents.payload.dropEvents.map Event.exchanged))

/-- Copies of payloads that are counterparts are counterparts, or both copies fail. -/
theorem Machine.clone_mirror (hpayloads : contents'.payload = contents.payload.exchanged)
    (hmirrors : machine.Mirrors other holdings holdings') :
    EndTogether machine other (clone contents) (clone contents')
      (fun copied copied' after after' => copied'.payload = copied.payload.exchanged ∧
        machine.Onward other (.loose copied :: holdings) (.loose copied' :: holdings') after after')
      fun after after' => machine.Onward other holdings holdings' after after' := by
  have hcopied' := contents.payload.copied_exchanged
  have hevents := contents.payload.copyEvents_exchanged
  rw [← hpayloads] at hcopied' hevents
  cases hcopied : contents.payload.copied with
  | error halt =>
      rw [hcopied] at hcopied'
      have hclone' := clone_run_error hcopied' other
      rw [hevents] at hclone'
      exact .error (clone_run_error hcopied machine) hclone'
        (hmirrors.advance (hmirrors.accounts.report _) (hmirrors.otherAccounts.report _))
  | ok copied =>
      rw [hcopied] at hcopied'
      have hclone' := clone_run_ok hcopied' other
      rw [hevents] at hclone'
      exact .ok (clone_run_ok hcopied machine) hclone' ⟨rfl, hmirrors.create copied _⟩

end Payloads

/-! ## Values that are made and destroyed -/

namespace Cell

variable {α β : Type} {machine other : Machine} {holdings holdings' : List Holding}
  {holding holding' : Holding} {holding? holding'? : Option Holding} {cell cell' : Cell}

/-- Two values that were made in two programs on top of what was held: they hold payloads that are
counterparts. -/
def MadeTogether (machine other : Machine) (holdings holdings' : List Holding)
    (made made' : Cell × Machine) : Prop :=
  ∃ holding holding',
    made.1.Mirrors made.2 made'.2 (holding :: holdings) (holding' :: holdings') made'.1
      (some holding) (some holding') ∧
    machine.Onward other (holding :: holdings) (holding' :: holdings') made.2 made'.2

theorem ofInstance_mirror {contents contents' : Instance}
    (hpayloads : contents'.payload = contents.payload.exchanged)
    (hmirrors : machine.Mirrors other (.loose contents :: holdings)
      (.loose contents' :: holdings')) :
    MadeTogether machine other holdings holdings' (ofInstance contents machine)
      (ofInstance contents' other) := by
  obtain ⟨cell, holding, known, heap, hmade, hlearns, hknown, hholds, hcontents, haccounts⟩ :=
    ofInstance_apply hmirrors.coherent hmirrors.accounts
  obtain ⟨cell', holding', known', heap', hmade', hlearns', hknown', hholds', hcontents',
    haccounts'⟩ := ofInstance_apply hmirrors.otherCoherent hmirrors.otherAccounts
  have hlearned := hmirrors.learn hlearns hknown hlearns' hknown'
  have hstored := hlearned.trans (hlearned.mirrors.advance haccounts haccounts')
  have hheld : holding'.payload = holding.payload.exchanged := by
    rw [Holding.payload, Holding.payload, hcontents, hcontents', hpayloads]
  rw [hmade, hmade']
  exact ⟨holding, holding', {
    holds := hholds
    otherHolds := hholds'
    mem := by simp
    otherMem := by simp
    payloads := congrArg some hheld }, hstored⟩

theorem ofPayload_mirror (hmirrors : machine.Mirrors other holdings holdings')
    (payload : Payload) :
    MadeTogether machine other holdings holdings' (ofPayload payload machine)
      (ofPayload payload.exchanged other) := by
  have hcreated := hmirrors.create payload []
  obtain ⟨holding, holding', hcells, hafter⟩ := ofInstance_mirror rfl hcreated.mirrors
  unfold ofPayload
  rw [Action.bind_apply, Action.bind_apply, Machine.create_apply, Machine.create_apply]
  exact ⟨holding, holding', hcells, hcreated.trans hafter⟩

section Ends

variable (hmirrors : machine.Mirrors other (holding?.toList ++ holdings)
    (holding'?.toList ++ holdings'))
  (hholds : cell.Holds machine holding?) (hholds' : cell'.Holds other holding'?)
  (hpayloads : holding'?.map Holding.payload =
    (holding?.map Holding.payload).map Payload.exchanged)
include hmirrors hholds hholds' hpayloads

/-- Values that are counterparts are discarded with corresponding events. -/
theorem discard_mirror :
    ∃ after after', cell.discard.run machine = (.ok (), after) ∧
      cell'.discard.run other = (.ok (), after') ∧
      machine.Onward other holdings holdings' after after' := by
  obtain ⟨heap, hdiscard, haccounts⟩ := discard_run hmirrors.accounts hholds
  obtain ⟨heap', hdiscard', haccounts'⟩ := discard_run hmirrors.otherAccounts hholds'
  rw [hpayloads, Payload.dropEventsOf_exchanged] at hdiscard' haccounts'
  exact ⟨_, _, hdiscard, hdiscard', hmirrors.advance haccounts haccounts'⟩

theorem destroy_mirror :
    Action.Mirror machine other holdings holdings' cell.destroy cell'.destroy fun _ _ => True := by
  obtain ⟨heap, hdestroy, haccounts⟩ := destroy_run hmirrors.accounts hholds
  obtain ⟨heap', hdestroy', haccounts'⟩ := destroy_run hmirrors.otherAccounts hholds'
  rw [hpayloads, Payload.dropEventsOf_exchanged] at hdestroy' haccounts'
  rw [Payload.droppedOf_exchanged] at hdestroy'
  have hgone := hmirrors.advance haccounts haccounts'
  cases hdropped : Payload.droppedOf (holding?.map Holding.payload) with
  | error halt =>
      rw [hdropped] at hdestroy hdestroy'
      exact .error hdestroy hdestroy' hgone
  | ok _ =>
      rw [hdropped] at hdestroy hdestroy'
      exact .ok hdestroy hdestroy' ⟨trivial, hgone⟩

end Ends

/-- Values in scope are gone at the end of two actions, and their ends are reported alike. -/
theorem inScope_mirror {action : Action Machine α} {action' : Action Machine β}
    {values : α → β → Prop}
    (hcells : cell.Mirrors machine other (holding :: holdings) (holding' :: holdings') cell'
      (some holding) (some holding'))
    (hactions : Action.Mirror machine other (holding :: holdings) (holding' :: holdings') action
      action' values) :
    Action.Mirror machine other holdings holdings' (cell.inScope action) (cell'.inScope action')
      values := by
  cases hactions with
  | error haction hother hafter =>
      have hcells := hcells.onward hafter
      obtain ⟨_, _, hdiscard, hdiscard', hgone⟩ :=
        discard_mirror hafter.mirrors hcells.holds hcells.otherHolds hcells.payloads
      refine .error (Action.run_bind_error _ (Action.run_unwinding_error _ haction))
        (Action.run_bind_error _ (Action.run_unwinding_error _ hother)) ?_
      rw [hdiscard, hdiscard']
      exact hafter.trans hgone
  | ok haction hother hends =>
      obtain ⟨hvalues, hafter⟩ := hends
      have hcells := hcells.onward hafter
      have hdestroy :=
        destroy_mirror hafter.mirrors hcells.holds hcells.otherHolds hcells.payloads
      exact .bind_of_ok (Action.run_unwinding_ok cell.discard haction)
        (Action.run_unwinding_ok cell'.discard hother) hafter (hdestroy.answer fun _ _ _ => hvalues)

end Cell

/-! ## Plans -/

/-- Two ways to meet the requests of plans that end together on values that are counterparts, in all
programs that come from the given ones. -/
def Converter.Mirror (machine other : Machine) (converter converter' : Converter) : Prop :=
  ∀ (after after' : Machine) (holdings holdings' : List Holding) (cell cell' : Cell)
    (holding? holding'? : Option Holding) (dest : ValueType),
    machine.Onward other holdings holdings' after after' →
    cell.Mirrors after after' holdings holdings' cell' holding? holding'? →
    Action.Mirror after after' holdings holdings' (converter cell dest)
      (converter' cell' dest.exchanged) (ResultsExchanged ValuesExchanged)

section Plans

variable {α β : Type} {converter converter' : Converter} {machine other after after' : Machine}
  {holdings holdings' : List Holding} {values : α → β → Prop}

/-- Values that two plans make, the conversions of these values, and what the plans do with the
results. -/
theorem converting_mirror (hconverters : converter.Mirror machine other converter')
    (hfrom : machine.Extends after) (hfrom' : other.Extends after')
    {making making' : StateM Machine Cell} {dest : ValueType}
    {next : Except ConversionError dest.Value → Action Machine α}
    {next' : Except ConversionError dest.exchanged.Value → Action Machine β}
    (hmade : Cell.MadeTogether after after' holdings holdings' (making after) (making' after'))
    (hnext : ∀ (holding holding' : Holding) result result' final final',
      after.Onward after' (holding :: holdings) (holding' :: holdings') final final' →
      ResultsExchanged ValuesExchanged result result' →
      Action.Mirror final final' (holding :: holdings) (holding' :: holdings') (next result)
        (next' result') values) :
    Action.Mirror after after' holdings holdings'
      ((liftM making : Action Machine Cell) >>= fun cell => cell.inScope do
        next (← converter cell dest))
      ((liftM making' : Action Machine Cell) >>= fun cell => cell.inScope do
        next' (← converter' cell dest.exchanged)) values := by
  obtain ⟨holding, holding', hcells, hstored⟩ := hmade
  refine .bind_of_ok (Action.run_lift making after) (Action.run_lift making' after') hstored
    (Cell.inScope_mirror hcells ?_)
  refine Action.Mirror.bind (hconverters _ _ _ _ _ _ _ _ dest
    ⟨hstored.mirrors, hfrom.trans hstored.first, hfrom'.trans hstored.second⟩ hcells) ?_
  exact fun result result' final final' hfinal hresults => hnext holding holding' result result'
    final final' (hstored.trans hfinal) hresults

/-- Plans that take the same course end together. -/
theorem Plan.run_mirror {plan : Plan α} {plan' : Plan β} (hplans : plan.Exchanged values plan')
    (hconverters : converter.Mirror machine other converter') {input input' : Instance}
    (hinputs : input'.payload = input.payload.exchanged) (hfrom : machine.Extends after)
    (hfrom' : other.Extends after') (hmirrors : after.Mirrors after' holdings holdings') :
    Action.Mirror after after' holdings holdings' (plan.run converter input)
      (plan'.run converter' input') (ResultsExchanged values) := by
  induction hplans generalizing after after' holdings holdings' with
  | give hvalues => exact .pure hmirrors (.ok hvalues)
  | fail herrors => exact .pure hmirrors (.error herrors)
  | identify type hnext ih =>
      refine (Action.Mirror.identify hmirrors type).bind ?_
      exact fun first second final final' hfinal hsame => ih first second hsame
        (hfrom.trans hfinal.first) (hfrom'.trans hfinal.second) hfinal.mirrors
  | report event hnext ih =>
      have hreported := hmirrors.advance (hmirrors.accounts.report [event])
        (hmirrors.otherAccounts.report [event.exchanged])
      have hrun : (liftM (Machine.report event) : Action Machine Unit).run after =
          (.ok (), after.advance after.heap 0 [] [event]) := by
        rw [Action.run_lift, Machine.report_apply]
      have hrun' : (liftM (Machine.report event.exchanged) : Action Machine Unit).run after' =
          (.ok (), after'.advance after'.heap 0 [] [event.exchanged]) := by
        rw [Action.run_lift, Machine.report_apply]
      refine .bind_of_ok hrun hrun' hreported ?_
      exact ih (hfrom.trans hreported.first) (hfrom'.trans hreported.second) hreported.mirrors
  | convert source dest hnext ih =>
      refine converting_mirror hconverters hfrom hfrom' (Cell.ofPayload_mirror hmirrors source) ?_
      exact fun _ _ result result' final final' hafter hresults => ih result result' hresults
        (hfrom.trans hafter.first) (hfrom'.trans hafter.second) hafter.mirrors
  | convertCopy dest hnext ih =>
      refine EndTogether.bind (Machine.clone_mirror hinputs hmirrors) ?_
      rintro copied copied' made made' ⟨hcopies, hmade⟩
      refine Action.Mirror.onward ?_ hmade
      have hfrom := hfrom.trans hmade.first
      have hfrom' := hfrom'.trans hmade.second
      refine converting_mirror hconverters hfrom hfrom'
        (Cell.ofInstance_mirror hcopies hmade.mirrors) ?_
      exact fun _ _ result result' final final' hafter hresults => ih result result' hresults
        (hfrom.trans hafter.first) (hfrom'.trans hafter.second) hafter.mirrors

end Plans

end DynamicValue
