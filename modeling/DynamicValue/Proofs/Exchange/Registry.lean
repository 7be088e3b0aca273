/-
# Conversions with their types exchanged

Registries that correspond convert counterparts into counterparts, in every way that a value can be
asked for as another type. The gates are the same on both sides, the live conversions correspond,
and what a conversion asks of its registry is met one level deeper; so the proof is by induction on
how deep conversions may be nested. A cast ends together with the one whose source, receiver and
claimed types are exchanged, and leaves corresponding payloads in the receivers.
-/

import DynamicValue.Cell.Access
import DynamicValue.Proofs.Exchange.Program
import DynamicValue.Proofs.Registry.Cast

namespace DynamicValue

open DynamicValue.Action (EndTogether)
open ValueType (exchangeValue)

variable {machine other after after' : Machine} {holdings holdings' : List Holding}
  {registry registry' : Registry} {cell cell' : Cell} {holding? holding'? : Option Holding}

/-! ## Coercions -/

namespace Registry

/-- A coercion of a payload to a native type, at one level of nesting, when requests at the next one
are met in ways that correspond. -/
theorem coerceWithin_payload_mirror {history history' : List RegistryOperation}
    (hhistories : HistoriesExchanged history history') (hfollows : registry.Follows machine history)
    (hfollows' : registry'.Follows other history') {depth : Nat}
    (hdeeper : Converter.Mirror machine other (registry.coerceWithin depth)
      (registry'.coerceWithin depth)) (hmirrors : machine.Mirrors other holdings holdings')
    {holding holding' : Holding}
    (hcells : cell.Mirrors machine other holdings holdings' cell' (some holding) (some holding'))
    {dest : ValueType} (hnative : dest.isForeign = false) :
    Action.Mirror machine other holdings holdings' (registry.coerceWithin (depth + 1) cell dest)
      (registry'.coerceWithin (depth + 1) cell' dest.exchanged)
      (ResultsExchanged ValuesExchanged) := by
  have hnative' : dest.exchanged.isForeign = false := by rw [dest.isForeign_exchanged, hnative]
  obtain ⟨hknown, hdest⟩ := hmirrors.identify dest
  have hsource := hcells.identity hmirrors.coherent hmirrors.otherCoherent
  obtain ⟨hholds, hholds', hmem, hmem', hpayloads⟩ := hcells
  have hmem := hmem holding rfl
  have hmem' := hmem' holding' rfl
  have hpayload : holding'.contents.payload = holding.contents.payload.exchanged :=
    Option.some.inj hpayloads
  cases hconversion : liveConversion? history holding.contents.payload.type dest with
  | none =>
      have hconversion' := hhistories.live_none (congrArg Payload.type hpayload) rfl hconversion
      exact .ok (coerceWithin_missing hfollows hmirrors.accounts hholds hmem hnative hconversion)
        (coerceWithin_missing hfollows' hmirrors.otherAccounts hholds' hmem' hnative' hconversion')
        ⟨.error (.noConversion hsource.exchanged hdest.exchanged), hknown⟩
  | some conversion =>
      obtain ⟨conversion', hconversion', hplans⟩ :=
        hhistories.exists_live hpayload rfl hconversion
      have hruns := Plan.run_mirror hplans hdeeper hpayload hknown.first hknown.second
        hknown.mirrors
      cases hruns with
      | error haction hother hfails =>
          exact .error
            (coerceWithin_live_of_not_ok hfollows hmirrors.accounts hholds hmem hnative hconversion
              haction nofun)
            (coerceWithin_live_of_not_ok hfollows' hmirrors.otherAccounts hholds' hmem' hnative'
              hconversion' hother nofun) (hknown.trans hfails)
      | ok haction hother hends =>
          obtain ⟨hresults, hafter⟩ := hends
          cases hresults with
          | error herrors =>
              exact .ok
                (coerceWithin_live_of_not_ok hfollows hmirrors.accounts hholds hmem hnative
                  hconversion haction nofun)
                (coerceWithin_live_of_not_ok hfollows' hmirrors.otherAccounts hholds' hmem' hnative'
                  hconversion' hother nofun) ⟨.error herrors, hknown.trans hafter⟩
          | @ok value value' hvalues =>
              have hmade := (hafter.mirrors.accounts.create ⟨dest, value⟩ []).discard []
              have hmade' :=
                (hafter.mirrors.otherAccounts.create ⟨dest.exchanged, value'⟩ []).discard []
              rw [Machine.advance_advance] at hmade hmade'
              exact .ok
                (coerceWithin_live_of_ok hfollows hmirrors.accounts hholds hmem hnative
                  hconversion haction)
                (coerceWithin_live_of_ok hfollows' hmirrors.otherAccounts hholds' hmem' hnative'
                  hconversion' hother)
                ⟨.ok hvalues, hknown.trans (hafter.trans (hafter.mirrors.advance hmade hmade'))⟩

/-- Coercions that may be nested to the same depth end together. -/
theorem coerceWithin_mirror (hregistries : registry.Exchanged machine other registry')
    (depth : Nat) :
    Converter.Mirror machine other (registry.coerceWithin depth)
      (registry'.coerceWithin depth) := by
  induction depth generalizing machine other with
  | zero =>
      intro after after' holdings holdings' cell cell' holding? holding'? dest hafter _
      exact .error rfl rfl (.refl hafter.mirrors)
  | succ depth ih =>
      intro after after' holdings holdings' cell cell' holding? holding'? dest hafter hcells
      have hmirrors := hafter.mirrors
      have hcoherent := hmirrors.coherent
      have hcoherent' := hmirrors.otherCoherent
      have hregistries := hregistries.mono hafter.first hcoherent hafter.second hcoherent'
      obtain ⟨hknown, hdest⟩ := hmirrors.identify dest
      by_cases hforeign : dest.isForeign
      · have hforeign' : dest.exchanged.isForeign := by rw [dest.isForeign_exchanged, hforeign]
        exact .ok (coerceWithin_foreign hcoherent registry depth cell hforeign)
          (coerceWithin_foreign hcoherent' registry' depth cell' hforeign')
          ⟨.error (.foreignDestination hdest.exchanged), hknown⟩
      have hnative := Bool.eq_false_iff.mpr hforeign
      obtain ⟨rfl, rfl⟩ | ⟨holding, holding', rfl, rfl, -⟩ := hcells.holdings_cases
      · have hempty : cell.isEmpty := by rw [hcells.holds.isEmpty_eq]; rfl
        have hempty' : cell'.isEmpty := by rw [hcells.otherHolds.isEmpty_eq]; rfl
        have hnative' : dest.exchanged.isForeign = false := by
          rw [dest.isForeign_exchanged, hnative]
        exact .ok (coerceWithin_empty hcoherent hnative hempty)
          (coerceWithin_empty hcoherent' hnative' hempty') ⟨.error rfl, hknown⟩
      · obtain ⟨history, history', hhistories, hfollows, hfollows'⟩ := hregistries
        exact coerceWithin_payload_mirror hhistories hfollows hfollows'
          (ih ⟨history, history', hhistories, hfollows, hfollows'⟩) hmirrors hcells hnative

/-- Registries that correspond convert counterparts alike. -/
theorem coerce_mirror (hregistries : registry.Exchanged machine other registry') :
    Converter.Mirror machine other registry.coerce registry'.coerce := by
  have hlimit : registry'.nestingLimit = registry.nestingLimit := by
    unfold nestingLimit
    rw [hregistries.size_eq]
  unfold coerce
  rw [hlimit]
  exact coerceWithin_mirror hregistries registry.nestingLimit

/-! ## Changes of registries -/

namespace Exchanged

/-- A registered conversion corresponds to the one that is registered on the other side. -/
theorem register (hregistries : registry.Exchanged machine other registry')
    {source dest : ValueType} {conversion : Conversion source dest}
    {conversion' : Conversion source.exchanged dest.exchanged}
    (hconversions : conversion.Exchanged conversion') :
    (registry.register source dest conversion machine).1.Exchanged
      (registry.register source dest conversion machine).2
      (registry'.register source.exchanged dest.exchanged conversion' other).2
      (registry'.register source.exchanged dest.exchanged conversion' other).1 := by
  obtain ⟨history, history', hhistories, hfollows, hfollows'⟩ := hregistries
  exact ⟨_, _, List.rel_append hhistories (.cons (.register hconversions) .nil),
    (hfollows.register conversion).1, (hfollows'.register conversion').1⟩

/-- A pair is taken out of both registries, and it was in both or in none. -/
theorem unregister (hregistries : registry.Exchanged machine other registry')
    (source dest : ValueType) :
    let ended := registry.unregister source dest machine
    let ended' := registry'.unregister source.exchanged dest.exchanged other
    ended'.1.1 = ended.1.1 ∧ ended.1.2.Exchanged ended.2 ended'.2 ended'.1.2 := by
  obtain ⟨history, history', hhistories, hfollows, hfollows'⟩ := hregistries
  refine ⟨?_, _, _, List.rel_append hhistories (.cons (.unregister source dest) .nil),
    (hfollows.apply (.unregister source dest)).1,
    (hfollows'.apply (.unregister source.exchanged dest.exchanged)).1⟩
  rw [hfollows.unregister_eq, hfollows'.unregister_eq, hhistories.isLive_eq]

theorem withBuiltIns (hcoherent : machine.Coherent) (hcoherent' : other.Coherent) :
    (Registry.withBuiltIns machine).1.Exchanged (Registry.withBuiltIns machine).2
      (Registry.withBuiltIns other).2 (Registry.withBuiltIns other).1 :=
  ⟨_, _, BuiltIn.registrations_exchanged, .withBuiltIns hcoherent, .withBuiltIns hcoherent'⟩

/-- A conversion is found under claimed types if it is found under the types in their places. -/
theorem contains_eq (hregistries : registry.Exchanged machine other registry')
    {source dest source' dest' : TypeIdentity}
    (hsources : TypeIdentity.Counterparts machine other source source')
    (hdests : TypeIdentity.Counterparts machine other dest dest') :
    registry'.contains source' dest' = registry.contains source dest := by
  obtain ⟨history, history', hhistories, hfollows, hfollows'⟩ := hregistries
  unfold contains
  rw [hfollows.lookup_eq hsources.known hdests.known,
    hfollows'.lookup_eq hsources.otherKnown hdests.otherKnown, liveEntry, liveEntry,
    hsources.exchanged.type?_eq, hdests.exchanged.type?_eq]
  cases source.type? with
  | none => rfl
  | some sourceType =>
      cases dest.type? with
      | none => rfl
      | some destType =>
          simp only [Option.map_some, Option.bind_some, Option.isSome_map]
          exact hhistories.isLive_eq sourceType destType

end Exchanged

end Registry

/-! ## The global registry -/

namespace Machine.Mirrors

variable (hmirrors : machine.Mirrors other holdings holdings')
include hmirrors

theorem setGlobal (hregistries : registry.Exchanged machine other registry') :
    machine.Onward other holdings holdings' { machine with global? := some registry }
      { other with global? := some registry' } := by
  have hset : machine.Settled { machine with global? := some registry } holdings :=
    (Machine.Settled.refl hmirrors.coherent hmirrors.accounts).withGlobal _
  have hset' : other.Settled { other with global? := some registry' } holdings' :=
    (Machine.Settled.refl hmirrors.otherCoherent hmirrors.otherAccounts).withGlobal _
  exact {
    mirrors := {
      coherent := hset.coherent
      otherCoherent := hset'.coherent
      accounts := hset.accounts
      otherAccounts := hset'.accounts
      events := hmirrors.events
      global := .some (hregistries.mono hset.knows hset.coherent hset'.knows hset'.coherent) }
    first := hset.knows
    second := hset'.knows }

/-- The global registry is made on both sides, or it is there on both. -/
theorem globalRegistry :
    EndTogether machine other (liftM Machine.globalRegistry : Action Machine Registry)
      (liftM Machine.globalRegistry : Action Machine Registry)
      (fun registry registry' after after' => registry.Exchanged after after' registry' ∧
        machine.Onward other holdings holdings' after after')
      fun after after' => machine.Onward other holdings holdings' after after' := by
  refine EndTogether.lift ?_
  have hglobal := hmirrors.global
  cases hfirst : machine.global? with
  | some registry =>
      rw [hfirst] at hglobal
      generalize hsecond : other.global? = registry'? at hglobal
      cases hglobal with
      | some hregistries =>
      rw [Machine.globalRegistry_of_some hfirst, Machine.globalRegistry_of_some hsecond]
      exact ⟨hregistries, .refl hmirrors⟩
  | none =>
      rw [hfirst] at hglobal
      generalize hsecond : other.global? = registry'? at hglobal
      cases hglobal
      obtain ⟨hlearns, hafter⟩ := OnlyLearns.withBuiltIns machine hmirrors.coherent
      obtain ⟨hlearns', hafter'⟩ := OnlyLearns.withBuiltIns other hmirrors.otherCoherent
      have hlearned := hmirrors.learn hlearns hafter hlearns' hafter'
      have hregistries :=
        Registry.Exchanged.withBuiltIns hmirrors.coherent hmirrors.otherCoherent
      rw [Machine.globalRegistry_of_none hfirst, Machine.globalRegistry_of_none hsecond]
      generalize Registry.withBuiltIns machine = made at hlearned hregistries ⊢
      generalize Registry.withBuiltIns other = made' at hlearned hregistries ⊢
      have hset := hlearned.mirrors.setGlobal hregistries
      refine ⟨?_, hlearned.trans hset⟩
      exact hregistries.mono hset.first hset.mirrors.coherent hset.second
        hset.mirrors.otherCoherent

end Machine.Mirrors

/-! ## Typed access -/

/-- The access with its value as one of the type in the place of its own. -/
def Access.exchanged {type : ValueType} (access : Access type) : Access type.exchanged :=
  ⟨exchangeValue access.value, access.borrowed⟩

/-- Two failures of accessors, the second one with the types in the places of the first one's. -/
def AccessError.Exchanged (first second : AccessError) : Prop :=
  second.anonymous = first.exchanged.anonymous

namespace Cell

section Access

variable (hmirrors : machine.Mirrors other holdings holdings')
  (hcells : cell.Mirrors machine other holdings holdings' cell' holding? holding'?)
  (type : ValueType)
include hmirrors hcells

theorem coerceGlobally_mirror :
    Action.Mirror machine other holdings holdings' (cell.coerceGlobally type)
      (cell'.coerceGlobally type.exchanged) (ResultsExchanged ValuesExchanged) := by
  refine EndTogether.bind hmirrors.globalRegistry fun registry registry' after after' hends => ?_
  obtain ⟨hregistries, hafter⟩ := hends
  exact (Registry.coerce_mirror hregistries after after' holdings holdings' cell cell' _ _ type
    (.refl hafter.mirrors) (hcells.onward hafter)).onward hafter

omit hmirrors in
/-- The payload under a type is the same on both sides. -/
theorem Mirrors.as?_eq :
    (holding'?.bind fun holding => holding.payload.as? type.exchanged) =
      (holding?.bind fun holding => holding.payload.as? type).map exchangeValue := by
  obtain ⟨rfl, rfl⟩ | ⟨holding, holding', rfl, rfl, hpayload⟩ := hcells.holdings_cases
  · rfl
  · rw [Option.bind_some, Option.bind_some, hpayload]
    exact holding.payload.as?_exchanged type

theorem extract_mirror :
    Action.Mirror machine other holdings holdings' (cell.extract type)
      (cell'.extract type.exchanged)
      (ResultsExchanged fun access access' => access' = access.exchanged) := by
  have hvalue := Cell.valueOf?_run hmirrors.accounts hcells.holds hcells.mem type
  have hvalue' :=
    Cell.valueOf?_run hmirrors.otherAccounts hcells.otherHolds hcells.otherMem type.exchanged
  rw [hcells.as?_eq type] at hvalue'
  refine .bind_of_ok hvalue hvalue' (.refl hmirrors) ?_
  cases holding?.bind fun holding => holding.payload.as? type with
  | some value => exact .pure hmirrors (.ok rfl)
  | none =>
      refine (coerceGlobally_mirror hmirrors hcells type).answer fun result result' hresults => ?_
      cases hresults with
      | ok hvalues => exact .ok (congrArg (Access.mk · false) hvalues.eq)
      | error herrors => exact .error herrors

theorem tryGet_mirror :
    Action.Mirror machine other holdings holdings' (cell.tryGet type)
      (cell'.tryGet type.exchanged)
      fun access? access'? => access'? = access?.map Access.exchanged := by
  refine (extract_mirror hmirrors hcells type).answer fun result result' hresults => ?_
  cases hresults with
  | ok hvalues => exact congrArg some hvalues
  | error herrors => rfl

theorem get_mirror :
    Action.Mirror machine other holdings holdings' (cell.get type)
      (cell'.get type.exchanged)
      (EndsAlike AccessError.Exchanged fun access access' => access' = access.exchanged) := by
  refine (extract_mirror hmirrors hcells type).bind ?_
  intro result result' after after' hafter hresults
  cases hresults with
  | ok hvalues => exact .pure hafter.mirrors (.ok hvalues)
  | @error cause cause' hcauses =>
      have hsource := hcells.identity hmirrors.coherent hmirrors.otherCoherent
      refine (Action.Mirror.identify hafter.mirrors type).answer fun dest dest' hdest => .error ?_
      unfold AccessError.Exchanged AccessError.anonymous AccessError.exchanged
      rw [show cell'.identity.anonymous = _ from hsource.exchanged,
        show dest'.anonymous = _ from hdest, show cause'.anonymous = _ from hcauses]

end Access

end Cell

/-! ## Casts -/

/-- Two receivers, the second one of the type in the place of the first one's, that hold
corresponding payloads or none. -/
structure Receiver.Exchanged (receiver receiver' : Receiver) : Prop where
  type : receiver'.type = receiver.type.exchanged
  payloads : receiver'.content?.map Instance.payload =
    (receiver.content?.map Instance.payload).map Payload.exchanged

/-- Two states of casts that come from two programs: what the receivers hold corresponds, and it
comes on top of what else is held. -/
structure Casting.Exchanged (machine other : Machine) (holdings holdings' : List Holding)
    (state state' : Casting) : Prop where
  receivers : state.2.Exchanged state'.2
  onward : machine.Onward other (state.2.held ++ holdings) (state'.2.held ++ holdings') state.1
    state'.1

/-- Two casts that end together, with errors and receivers that correspond. -/
def Casting.Mirror (machine other : Machine) (holdings holdings' : List Holding)
    (receiver receiver' : Receiver)
    (action action' : Action Casting (Except ConversionError Unit)) : Prop :=
  EndTogether (machine, receiver) (other, receiver') action action'
    (fun result result' state state' => EndsAlike ConversionError.Exchanged Eq result result' ∧
      Casting.Exchanged machine other holdings holdings' state state')
    (Casting.Exchanged machine other holdings holdings')

section Casts

variable {source source' : Instance} {sourceType destType sourceType' destType' : TypeIdentity}
  {receiver receiver' : Receiver}

theorem Receiver.Exchanged.dropEvents_eq (hreceivers : receiver.Exchanged receiver') :
    Payload.dropEventsOf (receiver'.content?.map Instance.payload) =
      (Payload.dropEventsOf (receiver.content?.map Instance.payload)).map Event.exchanged := by
  rw [hreceivers.payloads, Payload.dropEventsOf_exchanged]

theorem Receiver.Exchanged.dropped_eq (hreceivers : receiver.Exchanged receiver') :
    Payload.droppedOf (receiver'.content?.map Instance.payload) =
      Payload.droppedOf (receiver.content?.map Instance.payload) := by
  rw [hreceivers.payloads, Payload.droppedOf_exchanged]

/-- A cast past all gates, for which a conversion is live on both sides. -/
theorem Registry.cast_live_mirror {history history' : List RegistryOperation}
    (hhistories : HistoriesExchanged history history') (hfollows : registry.Follows machine history)
    (hfollows' : registry'.Follows other history')
    (hmirrors : machine.Mirrors other (receiver.held ++ holdings) (receiver'.held ++ holdings'))
    (hreceivers : receiver.Exchanged receiver')
    (hsources : source'.payload = source.payload.exchanged)
    (hsourceTypes : TypeIdentity.Counterparts machine other sourceType sourceType')
    (hdestTypes : TypeIdentity.Counterparts machine other destType destType')
    (hnative : destType.isForeign = false) (hpresent : sourceType.isNull = false)
    (hsourceType : sourceType.type? = some source.payload.type)
    (hdestType : destType.type? = some receiver.type)
    {conversion : Conversion source.payload.type receiver.type}
    (hlive : liveConversion? history source.payload.type receiver.type = some conversion) :
    Casting.Mirror machine other holdings holdings' receiver receiver'
      (registry.cast source sourceType destType)
      (registry'.cast source' sourceType' destType') := by
  obtain ⟨hsource, hsource', hsourceTypes⟩ := hsourceTypes
  obtain ⟨hdest, hdest', hdestTypes⟩ := hdestTypes
  have hnative' := hdestTypes.isForeign_eq.trans hnative
  have hpresent' := hsourceTypes.isNull_eq.trans hpresent
  have hcoerce := coerce_mirror ⟨history, history', hhistories, hfollows, hfollows'⟩
  have hsourceType' : sourceType'.type? = some source'.payload.type := by
    rw [hsourceTypes.type?_eq, hsourceType, hsources]
    rfl
  have hdestType' : destType'.type? = some receiver'.type := by
    rw [hdestTypes.type?_eq, hdestType, hreceivers.type]
    rfl
  obtain ⟨conversion', hlive', hplans⟩ := hhistories.exists_live hsources hreceivers.type hlive
  have hruns := Plan.run_mirror hplans hcoerce hsources (.refl _) (.refl _) hmirrors
  cases hruns with
  | error haction hother hfails =>
      exact .error
        (cast_run_of_not_ok hfollows hsource hdest hnative hpresent hsourceType hdestType hlive
          haction nofun)
        (cast_run_of_not_ok hfollows' hsource' hdest' hnative' hpresent' hsourceType' hdestType'
          hlive' hother nofun) ⟨hreceivers, hfails⟩
  | ok haction hother hends =>
      obtain ⟨hresults, hafter⟩ := hends
      cases hresults with
      | error herrors =>
          exact .ok
            (cast_run_of_not_ok hfollows hsource hdest hnative hpresent hsourceType hdestType hlive
              haction nofun)
            (cast_run_of_not_ok hfollows' hsource' hdest' hnative' hpresent' hsourceType' hdestType'
              hlive' hother nofun) ⟨.error herrors, hreceivers, hafter⟩
      | ok hvalues =>
          have hrun := cast_run_of_ok hfollows hsource hdest hnative hpresent hsourceType hdestType
            hlive haction
          have hrun' := cast_run_of_ok hfollows' hsource' hdest' hnative' hpresent' hsourceType'
            hdestType' hlive' hother
          rw [hreceivers.dropEvents_eq, hreceivers.dropped_eq] at hrun'
          have hsettled := registry.castWith_settles
            (registry.coerceWithin_settles registry.nestingLimit) source sourceType destType
            hmirrors.coherent hmirrors.accounts
          have hsettled' := registry'.castWith_settles
            (registry'.coerceWithin_settles registry'.nestingLimit) source' sourceType' destType'
            hmirrors.otherCoherent hmirrors.otherAccounts
          unfold coerce at hrun hrun'
          rw [hrun] at hsettled
          rw [hrun'] at hsettled'
          have hend := hafter.trans
            (hafter.mirrors.advance hsettled.machine.accounts hsettled'.machine.accounts)
          have hreceived := congrArg some hvalues
          cases hdropped : Payload.droppedOf (receiver.content?.map Instance.payload) with
          | error halt =>
              rw [hdropped] at hrun hrun'
              exact .error hrun hrun' ⟨⟨hreceivers.type, hreceived⟩, hend⟩
          | ok _ =>
              rw [hdropped] at hrun hrun'
              exact .ok hrun hrun' ⟨.ok rfl, ⟨hreceivers.type, hreceived⟩, hend⟩

/-- Casts whose sources, receivers and claimed types correspond end together. -/
theorem Registry.cast_mirror (hregistries : registry.Exchanged machine other registry')
    (hmirrors : machine.Mirrors other (receiver.held ++ holdings) (receiver'.held ++ holdings'))
    (hreceivers : receiver.Exchanged receiver')
    (hsources : source'.payload = source.payload.exchanged)
    (hsourceTypes : TypeIdentity.Counterparts machine other sourceType sourceType')
    (hdestTypes : TypeIdentity.Counterparts machine other destType destType') :
    Casting.Mirror machine other holdings holdings' receiver receiver'
      (registry.cast source sourceType destType)
      (registry'.cast source' sourceType' destType') := by
  obtain ⟨hsource, hsource', hsourceTypes⟩ := hsourceTypes
  obtain ⟨hdest, hdest', hdestTypes⟩ := hdestTypes
  have hstay : Casting.Exchanged machine other holdings holdings' (machine, receiver)
      (other, receiver') := ⟨hreceivers, .refl hmirrors⟩
  by_cases hforeign : destType.isForeign
  · exact .ok (cast_run_foreign registry _ source sourceType machine receiver hforeign)
      (cast_run_foreign registry' _ source' sourceType' other receiver'
        (hdestTypes.isForeign_eq.trans hforeign)) ⟨.error (.foreignDestination hdestTypes), hstay⟩
  have hnative := Bool.eq_false_iff.mpr hforeign
  have hnative' := hdestTypes.isForeign_eq.trans hnative
  by_cases hnull : sourceType.isNull
  · exact .ok (cast_run_empty registry _ source machine receiver hnative hnull)
      (cast_run_empty registry' _ source' other receiver' hnative'
        (hsourceTypes.isNull_eq.trans hnull)) ⟨.error rfl, hstay⟩
  have hpresent := Bool.eq_false_iff.mpr hnull
  have hpresent' := hsourceTypes.isNull_eq.trans hpresent
  obtain ⟨history, history', hhistories, hfollows, hfollows'⟩ := hregistries
  -- If a claimed type is not the actual one, the same holds of the types in their places.
  have hrefused : (liveEntry history sourceType destType = none ∧
      liveEntry history' sourceType' destType' = none) ∨
      sourceType.type? ≠ some source.payload.type ∨ destType.type? ≠ some receiver.type →
      Casting.Mirror machine other holdings holdings' receiver receiver'
        (registry.cast source sourceType destType)
        (registry'.cast source' sourceType' destType') := by
    intro hcases
    refine .ok (cast_run_refused hfollows hsource hdest hnative hpresent (hcases.imp_left And.left))
      (cast_run_refused hfollows' hsource' hdest' hnative' hpresent'
        (hcases.imp And.right (Or.imp ?_ ?_)))
      ⟨.error (.noConversion hsourceTypes hdestTypes), hstay⟩
    · intro hother hclaimed
      rw [hsourceTypes.type?_eq, hsources, Payload.exchanged_type] at hclaimed
      obtain ⟨claimed, hclaimed, hsame⟩ := Option.map_eq_some_iff.mp hclaimed
      exact hother (ValueType.exchanged_inj.mp hsame ▸ hclaimed)
    · intro hother hclaimed
      rw [hdestTypes.type?_eq, hreceivers.type] at hclaimed
      obtain ⟨claimed, hclaimed, hsame⟩ := Option.map_eq_some_iff.mp hclaimed
      exact hother (ValueType.exchanged_inj.mp hsame ▸ hclaimed)
  by_cases hsourceType : sourceType.type? = some source.payload.type
  · by_cases hdestType : destType.type? = some receiver.type
    · cases hlive : liveConversion? history source.payload.type receiver.type with
      | some conversion =>
          exact cast_live_mirror hhistories hfollows hfollows' hmirrors hreceivers hsources
            ⟨hsource, hsource', hsourceTypes⟩ ⟨hdest, hdest', hdestTypes⟩ hnative hpresent
            hsourceType hdestType hlive
      | none =>
          have hlive' := hhistories.live_none rfl rfl hlive
          refine hrefused (.inl ⟨?_, ?_⟩)
          · rw [liveEntry_of_types hsourceType hdestType, hlive]
            rfl
          · have hsourceType' := hsourceTypes.type?_eq
            have hdestType' := hdestTypes.type?_eq
            rw [hsourceType, Option.map_some] at hsourceType'
            rw [hdestType, Option.map_some] at hdestType'
            rw [liveEntry_of_types hsourceType' hdestType', hlive']
            rfl
    · exact hrefused (.inr (.inr hdestType))
  · exact hrefused (.inr (.inl hsourceType))

end Casts

end DynamicValue
