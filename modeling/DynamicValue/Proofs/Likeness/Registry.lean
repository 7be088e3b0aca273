/-
# Conversions in programs that are alike

Registries with the same history find the same conversions, each under the identities of its own
program. As conversions are blind to the numbers of identities, casts and coercions take the same
course in programs that are alike, to whatever depth conversions ask for each other. A global
registry that one program makes early is the one that the other program makes when it needs it.
-/

import DynamicValue.Cell.Access
import DynamicValue.Proofs.Likeness.Cell

namespace DynamicValue

open Likeness (program)

/-! ## Local values -/

instance {σ τ : Type} [Likeness σ] : Likeness (σ × τ) where
  program state := program state.1
  Alike first second := Likeness.Alike first.1 second.1 ∧ first.2 = second.2

/-- Actions with a local value of their own, which is the same for both. -/
theorem Agree.withLocal {σ τ α β : Type} [Likeness σ] {first second : σ} {start : τ}
    {giveUp : τ → Action σ Unit} {action : Action (σ × τ) α} {other : Action (σ × τ) β}
    {values : α → β → Prop}
    (hparts : Agree (first, start) (second, start) action other fun _ _ => values)
    (hgiveUp : ∀ first' second' final, Likeness.Alike first' second' →
      Agree first' second' (giveUp final) (giveUp final) Same) :
    Agree first second (Action.withLocal start giveUp action)
      (Action.withLocal start giveUp other) fun _ _ given given' =>
        given.2 = given'.2 ∧ values given.1 given'.1 := by
  obtain ⟨hlater, hends⟩ := hparts
  rcases haction : action.run (first, start) with ⟨outcome, first', final⟩
  rcases hother : other.run (second, start) with ⟨outcome', second', final'⟩
  rw [haction, hother] at hlater hends
  obtain ⟨⟨halike, hfinal⟩, hfirst, hsecond⟩ := hlater
  obtain rfl : final = final' := hfinal
  cases hends with
  | ok hvalues =>
      have hended := Action.run_withLocal_ok giveUp haction
      have hended' := Action.run_withLocal_ok giveUp hother
      exact .of_run hended hended' ⟨halike, hfirst, hsecond⟩ (.ok ⟨rfl, hvalues⟩)
  | error hfailures =>
      subst hfailures
      have hended := Action.run_withLocal_error giveUp haction
      have hended' := Action.run_withLocal_error giveUp hother
      exact .of_run hended hended'
        (Later.trans ⟨halike, hfirst, hsecond⟩ (hgiveUp first' second' final halike).1)
        (.error rfl)

variable {machine other : Machine} {first second : Casting} {registry registry' : Registry}
  {converter converter' : Converter}

namespace Receiver

variable (halike : machine.Alike other) (receiver : Receiver)
include halike

theorem discard_agrees : Agree machine other receiver.discard receiver.discard Same := by
  unfold discard
  split
  · exact halike.discard _
  · exact .pure halike rfl

theorem destroy_agrees : Agree machine other receiver.destroy receiver.destroy Same := by
  unfold destroy
  split
  · exact halike.destroy _
  · exact .pure halike rfl

end Receiver

namespace Casting

variable (halike : Likeness.Alike first second)
include halike

theorem onMachine_agrees {α β : Type} {action : Action Machine α} {action' : Action Machine β}
    {values : α → β → Prop} (hparts : Agree first.1 second.1 action action' fun _ _ => values) :
    Agree first second (onMachine action) (onMachine action') fun _ _ => values :=
  hparts.within (fun _ _ hlater => ⟨⟨hlater.alike, halike.2⟩, hlater.first, hlater.second⟩)
    fun _ _ _ _ _ hvalues => hvalues

theorem receive_agrees (contents : Instance) :
    Agree first second (receive contents) (receive contents) Same := by
  obtain ⟨machine, receiver⟩ := first
  obtain ⟨other, other'⟩ := second
  obtain rfl : receiver = other' := halike.2
  have hput : Agree ((machine, receiver) : Casting) ((other, receiver) : Casting)
      (modify fun state => (state.1, { receiver with content? := some contents }) :
        Action Casting PUnit)
      (modify fun state => (state.1, { receiver with content? := some contents })) Same :=
    .of_run (Action.run_modify _ _) (Action.run_modify _ _) ⟨⟨halike.1, rfl⟩, .refl _, .refl _⟩
      (.ok rfl)
  refine (Agree.get halike).bind ?_
  rintro _ _ _ _ - ⟨rfl, rfl, rfl, rfl⟩
  refine hput.bind fun first second _ _ hlater _ => ?_
  exact onMachine_agrees hlater.alike (Receiver.destroy_agrees hlater.alike.1 receiver)

end Casting

/-! ## Plans and casts -/

/-- Two ways to meet the requests of plans that agree on values that are alike, in all programs that
come from the given ones. -/
def Converter.Agrees (machine other : Machine) (converter converter' : Converter) : Prop :=
  ∀ (after after' : Machine) (cell cell' : Cell) (dest : ValueType),
    Later machine other after after' → cell.Alike after after' cell' →
    Agree after after' (converter cell dest) (converter' cell' dest) fun _ _ => ResultsAlike

/-- Plans that take the same course. -/
theorem Plan.run_agrees {α : Type} {plan plan' : Plan α} (hplans : plan.Alike plan')
    (hconverters : converter.Agrees machine other converter') (input : Instance)
    {after after' : Machine} (hlater : Later machine other after after') :
    Agree after after' (plan.run converter input) (plan'.run converter' input)
      fun _ _ => ResultsAlike := by
  have hconverts : ∀ {after after' : Machine} (dest : ValueType) {cell cell' : Cell}
      {next next' : Except ConversionError dest.Value → Plan α},
      Later machine other after after' → cell.Alike after after' cell' →
      (∀ result result', ResultsAlike result result' → ∀ {after after' : Machine},
        Later machine other after after' → Agree after after' ((next result).run converter input)
          ((next' result').run converter' input) fun _ _ => ResultsAlike) →
      Agree after after'
        (cell.inScope do (next (← converter cell dest)).run converter input)
        (cell'.inScope do (next' (← converter' cell' dest)).run converter' input)
        fun _ _ => ResultsAlike := by
    intro after after' dest cell cell' next next' hlater hcells hnext
    refine Cell.inScope_agrees hcells ?_
    refine (hconverters after after' cell cell' dest hlater hcells).bind ?_
    exact fun _ _ result result' hconverted hresults =>
      hnext result result' hresults (hlater.trans hconverted)
  induction hplans generalizing after after' with
  | give value => exact .pure hlater.alike (.ok rfl)
  | fail herrors => exact .pure hlater.alike (.error herrors)
  | identify type hnext ih =>
      refine (hlater.alike.identify type).bind
        fun _ _ first second hidentified hidentities => ?_
      exact ih first second (hidentities.anonymous_eq hidentified.alike) (hlater.trans hidentified)
  | report event hnext ih =>
      exact (hlater.alike.report event).bind fun _ _ _ _ hreported _ => ih (hlater.trans hreported)
  | convert source dest hnext ih =>
      refine (Cell.ofPayload_agrees hlater.alike source).bind fun _ _ cell cell' hmade hcells => ?_
      exact hconverts dest (hlater.trans hmade) hcells ih
  | convertCopy dest hnext ih =>
      refine (hlater.alike.clone input).bind ?_
      rintro _ _ copy _ hcopy rfl
      refine (Cell.ofInstance_agrees hcopy.alike copy).bind fun _ _ cell cell' hmade hcells => ?_
      exact hconverts dest ((hlater.trans hcopy).trans hmade) hcells ih

section Casts

variable (hconverters : converter.Agrees first.1 second.1 converter')
include hconverters

/-- Entries for the same conversion, kept under identities that are alike. -/
theorem RegistryEntry.apply_agrees {source dest : ValueType} {conversion : Conversion source dest}
    (hblind : conversion.IsBlind) {sourceType destType sourceType' destType' : TypeIdentity}
    (hsource : sourceType.anonymous = sourceType'.anonymous)
    (hdest : destType.anonymous = destType'.anonymous) (input : Instance)
    (halike : Likeness.Alike first second) :
    Agree first second
      (RegistryEntry.apply ⟨source, dest, sourceType, destType, conversion⟩ converter input)
      (RegistryEntry.apply ⟨source, dest, sourceType', destType', conversion⟩ converter' input)
      fun _ _ => ResultsAlike := by
  have herrors : ConversionError.Alike (.noConversion sourceType destType)
      (.noConversion sourceType' destType') :=
    congrArg₂ ConversionError.noConversion hsource hdest
  refine (Agree.get halike).bind ?_
  rintro _ _ _ _ - ⟨rfl, rfl, rfl, rfl⟩
  rw [halike.2]
  dsimp only
  split
  · exact .pure halike (.error herrors)
  · rename_i value _
    split
    · have hplan := Plan.run_agrees (hblind value) hconverters input (.refl halike.1)
      refine (Casting.onMachine_agrees halike hplan).bind
        fun first second result result' hconverted hresults => ?_
      cases hresults with
      | error hfailures => exact .pure hconverted.alike (.error hfailures)
      | ok hvalues =>
          subst hvalues
          refine (Casting.onMachine_agrees hconverted.alike
            (hconverted.alike.1.create _)).bind ?_
          rintro first second contents _ hcreated rfl
          exact (Casting.receive_agrees hcreated.alike contents).answer fun _ _ _ _ _ _ => .ok rfl
    · exact .pure halike (.error herrors)

omit hconverters in
/-- A history asks for the same conversion under identities of the same types. -/
theorem liveEntry_cases (history : List RegistryOperation)
    {sourceType destType sourceType' destType' : TypeIdentity}
    (hsource : sourceType.type? = sourceType'.type?) (hdest : destType.type? = destType'.type?) :
    (liveEntry history sourceType destType = none ∧
      liveEntry history sourceType' destType' = none) ∨
    ∃ source dest conversion, liveConversion? history source dest = some conversion ∧
      liveEntry history sourceType destType =
        some ⟨source, dest, sourceType, destType, conversion⟩ ∧
      liveEntry history sourceType' destType' =
        some ⟨source, dest, sourceType', destType', conversion⟩ := by
  cases hentry : liveEntry history sourceType destType with
  | none =>
      refine .inl ⟨rfl, ?_⟩
      unfold liveEntry at hentry ⊢
      rw [← hsource, ← hdest]
      cases hsourceType : sourceType.type? with
      | none => rfl
      | some source =>
          cases hdestType : destType.type? with
          | none => rfl
          | some dest =>
              rw [hsourceType, hdestType, Option.bind_some, Option.bind_some,
                Option.map_eq_none_iff] at hentry
              rw [Option.bind_some, Option.bind_some, hentry]
              rfl
  | some entry =>
      obtain ⟨source, hsourceType, hrest⟩ := Option.bind_eq_some_iff.mp hentry
      obtain ⟨dest, hdestType, hfound⟩ := Option.bind_eq_some_iff.mp hrest
      obtain ⟨conversion, hlive, rfl⟩ := Option.map_eq_some_iff.mp hfound
      refine .inr ⟨source, dest, conversion, hlive, rfl, ?_⟩
      rw [liveEntry_of_types (hsource ▸ hsourceType) (hdest ▸ hdestType), hlive]
      rfl

theorem Registry.castWith_agrees {sourceType destType sourceType' destType' : TypeIdentity}
    (halike : Likeness.Alike first second)
    (hregistries : registry.Alike first.1 second.1 registry') (input : Instance)
    (hsource : sourceType.Alike first.1 second.1 sourceType')
    (hdest : destType.Alike first.1 second.1 destType') :
    Agree first second (registry.castWith converter input sourceType destType)
      (registry'.castWith converter' input sourceType' destType') fun _ _ => ResultsAlike := by
  have hsourceForm := hsource.anonymous_eq halike.1
  have hdestForm := hdest.anonymous_eq halike.1
  obtain ⟨history, hblind, hfollows, hfollows'⟩ := hregistries
  unfold castWith
  rw [TypeIdentity.isForeign_of_anonymous hdestForm, TypeIdentity.isNull_of_anonymous hsourceForm,
    hfollows.lookup_eq hsource.known hdest.known,
    hfollows'.lookup_eq hsource.otherKnown hdest.otherKnown]
  split
  · exact .pure halike (.error (congrArg ConversionError.foreignDestination hdestForm))
  · split
    · exact .pure halike (.error rfl)
    · obtain ⟨hnone, hnone'⟩ | ⟨source, dest, conversion, hlive, hentry, hentry'⟩ :=
        liveEntry_cases history hsource.type hdest.type
      · rw [hnone, hnone']
        exact .pure halike
          (.error (congrArg₂ ConversionError.noConversion hsourceForm hdestForm))
      · rw [hentry, hentry']
        exact RegistryEntry.apply_agrees hconverters (isBlind_of_liveConversion? hblind hlive)
          hsourceForm hdestForm input halike

end Casts

/-! ## Coercions -/

namespace Registry

theorem Alike.size_eq (hregistries : registry.Alike machine other registry') :
    registry.size = registry'.size := by
  obtain ⟨history, hblind, hfollows, hfollows'⟩ := hregistries
  rw [hfollows.size_eq, hfollows'.size_eq]

theorem Alike.isEmpty_eq (hregistries : registry.Alike machine other registry') :
    registry.isEmpty = registry'.isEmpty := by
  obtain ⟨history, hblind, hfollows, hfollows'⟩ := hregistries
  rw [hfollows.isEmpty_eq, hfollows'.isEmpty_eq]

/-- Registries that are alike find a conversion under identities that are alike, or both do not. -/
theorem Alike.contains_eq (hregistries : registry.Alike machine other registry')
    {source dest source' dest' : TypeIdentity} (hsource : source.Alike machine other source')
    (hdest : dest.Alike machine other dest') :
    registry.contains source dest = registry'.contains source' dest' := by
  obtain ⟨history, hblind, hfollows, hfollows'⟩ := hregistries
  unfold contains
  rw [hfollows.lookup_eq hsource.known hdest.known,
    hfollows'.lookup_eq hsource.otherKnown hdest.otherKnown]
  obtain ⟨hnone, hnone'⟩ | ⟨_, _, _, -, hentry, hentry'⟩ :=
    liveEntry_cases history hsource.type hdest.type
  · rw [hnone, hnone']
  · rw [hentry, hentry']
    rfl

theorem convertPayload_agrees (hconverters : converter.Agrees machine other converter')
    (halike : machine.Alike other) (hregistries : registry.Alike machine other registry')
    (input : Instance) {sourceType destType sourceType' destType' : TypeIdentity}
    (hsource : sourceType.Alike machine other sourceType')
    (hdest : destType.Alike machine other destType') (dest : ValueType) :
    Agree machine other (registry.convertPayload converter input sourceType destType dest)
      (registry'.convertPayload converter' input sourceType' destType' dest)
      fun _ _ => ResultsAlike := by
  have herrors : ConversionError.Alike (.noConversion sourceType destType)
      (.noConversion sourceType' destType') :=
    congrArg₂ ConversionError.noConversion (hsource.anonymous_eq halike) (hdest.anonymous_eq halike)
  have hblank : Likeness.Alike ((machine, .blank dest) : Casting) (other, .blank dest) :=
    ⟨halike, rfl⟩
  have hcast := castWith_agrees hconverters hblank hregistries input hsource hdest
  have hlocal := hcast.withLocal fun _ _ receiver halike => Receiver.discard_agrees halike receiver
  refine hlocal.bind ?_
  rintro machine other ⟨result, receiver⟩ ⟨result', _⟩ hlater ⟨rfl, hresults⟩
  have halike : machine.Alike other := hlater.alike
  cases hresults with
  | error hfailures => exact .pure halike (.error hfailures)
  | ok hvalues =>
      obtain ⟨type, content?⟩ := receiver
      cases content? with
      | none => exact .pure halike (.error herrors)
      | some contents =>
          refine (halike.discard contents).bind fun machine other _ _ hlater _ => ?_
          split
          · exact .pure hlater.alike (.ok rfl)
          · exact .pure hlater.alike (.error herrors)

/-- Coercions agree to whatever depth conversions ask for each other. -/
theorem coerceWithin_agrees (hregistries : registry.Alike machine other registry') (depth : Nat) :
    Converter.Agrees machine other (registry.coerceWithin depth)
      (registry'.coerceWithin depth) := by
  induction depth with
  | zero => exact fun _ _ _ _ _ hlater _ => .throw hlater.alike _
  | succ depth ih =>
      intro after after' cell cell' dest hlater hcells
      rw [coerceWithin_succ, coerceWithin_succ]
      refine (hlater.alike.identify dest).bind fun _ _ destType destType' hidentified hdest => ?_
      have hlater := hlater.trans hidentified
      have halike : Machine.Alike _ _ := hlater.alike
      have hcells := hcells.later hidentified
      have hform := hdest.anonymous_eq halike
      rw [TypeIdentity.isForeign_of_anonymous hform]
      split
      · exact .pure halike (.error (congrArg ConversionError.foreignDestination hform))
      · refine (Cell.contents?_agrees halike hcells).bind ?_
        rintro _ _ contents? _ hread rfl
        have hlater := hlater.trans hread
        have halike : Machine.Alike _ _ := hlater.alike
        cases contents? with
        | none => exact .pure halike (.error rfl)
        | some source =>
            have hnested : Converter.Agrees _ _ (registry.coerceWithin depth)
                (registry'.coerceWithin depth) :=
              fun _ _ _ _ dest hfurther => ih _ _ _ _ dest (hlater.trans hfurther)
            exact convertPayload_agrees hnested halike
              (hregistries.mono hlater.first halike.coherent hlater.second halike.otherCoherent)
              source ((hcells.later hread).identity halike)
              (hdest.mono hread.first hread.second) dest

theorem coerce_agrees (hregistries : registry.Alike machine other registry') :
    Converter.Agrees machine other registry.coerce registry'.coerce := by
  unfold coerce nestingLimit
  rw [hregistries.size_eq]
  exact coerceWithin_agrees hregistries _

theorem cast_agrees (halike : Likeness.Alike first second)
    (hregistries : registry.Alike first.1 second.1 registry') (input : Instance)
    {sourceType destType sourceType' destType' : TypeIdentity}
    (hsource : sourceType.Alike first.1 second.1 sourceType')
    (hdest : destType.Alike first.1 second.1 destType') :
    Agree first second (registry.cast input sourceType destType)
      (registry'.cast input sourceType' destType') fun _ _ => ResultsAlike :=
  castWith_agrees (coerce_agrees hregistries) halike hregistries input hsource hdest

/-! ## Registries that change -/

section Changes

variable (halike : machine.Alike other) (hregistries : registry.Alike machine other registry')
  {source dest : ValueType}
include halike hregistries

theorem register_agrees {conversion : Conversion source dest} (hblind : conversion.IsBlind) :
    Agree machine other (liftM (registry.register source dest conversion) : Action Machine Registry)
      (liftM (registry'.register source dest conversion)) fun machine other first second =>
        first.Alike machine other second := by
  obtain ⟨history, hhistory, hfollows, hfollows'⟩ := hregistries
  refine .learning halike (.register registry source dest conversion)
    (.register registry' source dest conversion) ?_
  refine ⟨_, ?_, (hfollows.register conversion).1, (hfollows'.register conversion).1⟩
  intro operation hmem
  rcases List.mem_append.mp hmem with hmem | hmem
  · exact hhistory operation hmem
  · rw [List.mem_singleton.mp hmem]
    exact hblind

/-- A pair is taken out of both registries, and it was in both or in none. -/
theorem unregister_agrees (source dest : ValueType) :
    Agree machine other
      (liftM (registry.unregister source dest) : Action Machine (Bool × Registry))
      (liftM (registry'.unregister source dest)) fun machine other first second =>
        first.1 = second.1 ∧ first.2.Alike machine other second.2 := by
  obtain ⟨history, hhistory, hfollows, hfollows'⟩ := hregistries
  refine .learning halike (.unregister registry source dest) (.unregister registry' source dest) ?_
  refine ⟨?_, _, ?_, (hfollows.apply (.unregister source dest)).1,
    (hfollows'.apply (.unregister source dest)).1⟩
  · rw [hfollows.unregister_eq, hfollows'.unregister_eq]
  · intro operation hmem
    rcases List.mem_append.mp hmem with hmem | hmem
    · exact hhistory operation hmem
    · rw [List.mem_singleton.mp hmem]
      trivial

end Changes

theorem empty_alike (halike : machine.Alike other) : Registry.empty.Alike machine other .empty :=
  ⟨[], by simp, .empty halike.coherent, .empty halike.otherCoherent⟩

theorem withBuiltIns_agrees (halike : machine.Alike other) :
    Agree machine other (liftM withBuiltIns : Action Machine Registry) (liftM withBuiltIns)
      fun machine other first second => first.Alike machine other second :=
  .learning halike .withBuiltIns .withBuiltIns ⟨BuiltIn.registrations,
    BuiltIn.registrations_isBlind, .withBuiltIns halike.coherent,
    .withBuiltIns halike.otherCoherent⟩

end Registry

/-! ## The global registry -/

namespace Machine.Alike

/-- The global registry may be changed to registries that are alike. -/
theorem withGlobal (halike : machine.Alike other)
    (hregistries : registry.Alike machine other registry') :
    Later machine other { machine with global? := some registry }
      { other with global? := some registry' } := by
  have hcoherent : Coherent { machine with global? := some registry } :=
    halike.coherent.congr rfl rfl
  have hcoherent' : Coherent { other with global? := some registry' } :=
    halike.otherCoherent.congr rfl rfl
  have hextends : machine.Extends { machine with global? := some registry } :=
    ⟨List.prefix_rfl, List.prefix_rfl⟩
  have hextends' : other.Extends { other with global? := some registry' } :=
    ⟨List.prefix_rfl, List.prefix_rfl⟩
  refine ⟨⟨hcoherent, hcoherent', halike.heap, halike.created, halike.destroyed, halike.events,
    ?_, ?_⟩, hextends, hextends'⟩
  · intro found hfound
    obtain rfl : registry = found := Option.some.inj hfound
    exact ⟨registry', rfl, hregistries.mono hextends hcoherent hextends' hcoherent'⟩
  · intro hnone
    cases hnone

/-- The second program may make its global registry before the first one makes its own. -/
theorem ahead_of_none (halike : machine.Alike other) (hglobal : machine.global? = none)
    (hfollows : registry.Follows other BuiltIn.registrations) :
    Later machine other machine { other with global? := some registry } := by
  have hcoherent : Coherent { other with global? := some registry } :=
    halike.otherCoherent.congr rfl rfl
  have hextends : other.Extends { other with global? := some registry } :=
    ⟨List.prefix_rfl, List.prefix_rfl⟩
  refine ⟨⟨halike.coherent, hcoherent, halike.heap, halike.created, halike.destroyed,
    halike.events, ?_, ?_⟩, .refl machine, hextends⟩
  · intro found hfound
    rw [hglobal] at hfound
    cases hfound
  · intro _ found hfound
    obtain rfl : registry = found := Option.some.inj hfound
    exact hfollows.mono hextends hcoherent

theorem setGlobalRegistry (halike : machine.Alike other)
    (hregistries : registry.Alike machine other registry') :
    Agree machine other (liftM (Machine.setGlobalRegistry registry) : Action Machine Unit)
      (liftM (Machine.setGlobalRegistry registry')) Same :=
  .lift (halike.withGlobal hregistries) rfl

/-- The global registry is made on both sides, on one side only, or it is there on both. -/
theorem globalRegistry (halike : machine.Alike other) :
    Agree machine other (liftM Machine.globalRegistry : Action Machine Registry)
      (liftM Machine.globalRegistry) fun machine other first second =>
        first.Alike machine other second := by
  have hresult : ∀ {after after' : Machine} {registry registry' : Registry},
      Machine.globalRegistry machine = (registry, after) →
      Machine.globalRegistry other = (registry', after') →
      Later machine other after after' → registry.Alike after after' registry' →
      Agree machine other (liftM Machine.globalRegistry : Action Machine Registry)
        (liftM Machine.globalRegistry) fun machine other first second =>
          first.Alike machine other second := by
    intro after after' registry registry' hfirst hsecond hlater hregistries
    refine .lift ?_ ?_
    · rwa [hfirst, hsecond]
    · rwa [hfirst, hsecond]
  obtain ⟨hlearns, hafter⟩ := OnlyLearns.withBuiltIns machine halike.coherent
  obtain ⟨hlearns', hafter'⟩ := OnlyLearns.withBuiltIns other halike.otherCoherent
  have hfollows := Registry.Follows.withBuiltIns halike.coherent
  have hfollows' := Registry.Follows.withBuiltIns halike.otherCoherent
  rcases hmade : Registry.withBuiltIns machine with ⟨made, after⟩
  rcases hmade' : Registry.withBuiltIns other with ⟨made', after'⟩
  rw [hmade] at hlearns hafter hfollows
  rw [hmade'] at hlearns' hafter' hfollows'
  cases hglobal : machine.global? with
  | some registry =>
      obtain ⟨counterpart, hcounterpart, hregistries⟩ := halike.global registry hglobal
      exact hresult (globalRegistry_of_some hglobal) (globalRegistry_of_some hcounterpart)
        (.refl halike) hregistries
  | none =>
      have hhere := globalRegistry_of_none hglobal
      rw [hmade] at hhere
      cases hother : other.global? with
      | none =>
          have hthere := globalRegistry_of_none hother
          rw [hmade'] at hthere
          have hlater := halike.learn hlearns hafter hlearns' hafter'
          have hregistries : made.Alike after after' made' :=
            ⟨_, BuiltIn.registrations_isBlind, hfollows, hfollows'⟩
          have hset := withGlobal hlater.alike hregistries
          exact hresult hhere hthere (hlater.trans hset) (hregistries.mono hset.first
            hset.alike.coherent hset.second hset.alike.otherCoherent)
      | some counterpart =>
          have hlater := halike.learn hlearns hafter (.refl other) halike.otherCoherent
          have hregistries : made.Alike after other counterpart :=
            ⟨_, BuiltIn.registrations_isBlind, hfollows, halike.ahead hglobal counterpart hother⟩
          have hset := withGlobal hlater.alike hregistries
          rw [show { other with global? := some counterpart } = other by rw [← hother]] at hset
          exact hresult hhere (globalRegistry_of_some hother) (hlater.trans hset)
            (hregistries.mono hset.first hset.alike.coherent hset.second hset.alike.otherCoherent)

end Machine.Alike

end DynamicValue
