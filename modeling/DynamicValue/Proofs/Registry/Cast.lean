/-
# What a cast does

A cast is given a payload and a receiver, and apart from them two identities that claim to be those
of their types. Whatever is claimed, a conversion only runs if it is live for the claimed types and
these are the actual ones. The receiver changes in one way only: the result of the conversion takes
the place of what was there. So a cast that gives an error leaves the receiver as it was, and so
does a panic of the conversion; a panic of what was there before comes when the result is in place.
-/

import DynamicValue.Conversion.Scripted
import DynamicValue.Proofs.Registry.Coercion

namespace DynamicValue

/-- An identity is native if it is not foreign. -/
theorem TypeIdentity.isNative_eq (identity : TypeIdentity) :
    identity.isNative = !identity.isForeign := by
  unfold isNative isForeign
  cases identity.typeClass <;> rfl

/-- A registered conversion is not called with other types than those it was registered with. -/
theorem RegistryEntry.apply_run_of_mismatch (entry : RegistryEntry) (converter : Converter)
    {source : Instance} {receiver : Receiver} (machine : Machine)
    (hmismatch : source.payload.type ≠ entry.source ∨ receiver.type ≠ entry.dest) :
    (entry.apply converter source).run (machine, receiver) =
      (.ok (.error (.noConversion entry.sourceIdentity entry.destIdentity)), machine,
        receiver) := by
  unfold apply
  rw [Action.run_bind_ok _ (Action.run_get _)]
  cases hvalue : source.payload.as? entry.source with
  | none => rfl
  | some value =>
      have hsource : source.payload.type = entry.source := by
        by_contra hother
        rw [Payload.as?_eq_none_iff.mpr hother] at hvalue
        cases hvalue
      simp only []
      rw [if_neg (hmismatch.resolve_left (absurd hsource))]
      rfl

namespace Registry

variable {registry : Registry} {machine after : Machine} {history : List RegistryOperation}
  {source : Instance} {sourceType destType : TypeIdentity} {receiver : Receiver}
  {converter : Converter}

/-! ## The gates -/

theorem cast_run_foreign (registry : Registry) (converter : Converter) (source : Instance)
    (sourceType : TypeIdentity) (machine : Machine) (receiver : Receiver)
    (hforeign : destType.isForeign) :
    (registry.castWith converter source sourceType destType).run (machine, receiver) =
      (.ok (.error (.foreignDestination destType)), machine, receiver) := by
  unfold castWith
  rw [if_pos hforeign]
  rfl

theorem cast_run_empty (registry : Registry) (converter : Converter) (source : Instance)
    (machine : Machine) (receiver : Receiver) (hnative : destType.isForeign = false)
    (hnull : sourceType.isNull) :
    (registry.castWith converter source sourceType destType).run (machine, receiver) =
      (.ok (.error .emptySource), machine, receiver) := by
  unfold castWith
  rw [if_neg (Bool.eq_false_iff.mp hnative), if_pos hnull]
  rfl

/-! ## Past the gates -/

section Known

variable (hfollows : registry.Follows machine history) (hsource : machine.Knows sourceType)
  (hdest : machine.Knows destType) (hnative : destType.isForeign = false)
  (hpresent : sourceType.isNull = false)
include hfollows hsource hdest hnative hpresent

/-- Past the gates, a cast calls what is live for the claimed types. -/
theorem cast_eq (converter : Converter) (source : Instance) :
    registry.castWith converter source sourceType destType =
      ((liveEntry history sourceType destType).map fun entry =>
        entry.apply converter source).getD
          (pure (.error (.noConversion sourceType destType))) := by
  rw [castWith_of_gates registry _ source hnative hpresent, hfollows.lookup_eq hsource hdest]

/-- A cast is refused if nothing is live for the claimed types, or if one of them is not the actual
one. -/
theorem cast_run_refused (hrefused : liveEntry history sourceType destType = none ∨
      sourceType.type? ≠ some source.payload.type ∨ destType.type? ≠ some receiver.type) :
    (registry.castWith converter source sourceType destType).run (machine, receiver) =
      (.ok (.error (.noConversion sourceType destType)), machine, receiver) := by
  rw [cast_eq hfollows hsource hdest hnative hpresent]
  cases hlive : liveEntry history sourceType destType with
  | none => rfl
  | some entry =>
      obtain ⟨claimedSource, hclaimedSource, hrest⟩ := Option.bind_eq_some_iff.mp hlive
      obtain ⟨claimedDest, hclaimedDest, hfound⟩ := Option.bind_eq_some_iff.mp hrest
      obtain ⟨conversion, -, rfl⟩ := Option.map_eq_some_iff.mp hfound
      refine RegistryEntry.apply_run_of_mismatch _ _ machine ?_
      refine (hrefused.resolve_left (by rw [hlive]; exact Option.some_ne_none _)).imp ?_ ?_
      · rintro hother rfl
        exact hother hclaimedSource
      · rintro hother rfl
        exact hother hclaimedDest

variable {conversion : Conversion source.payload.type receiver.type}
  (hsourceType : sourceType.type? = some source.payload.type)
  (hdestType : destType.type? = some receiver.type)
  (hlive : liveConversion? history source.payload.type receiver.type = some conversion)
include hsourceType hdestType hlive

/-- A cast under the actual types calls the conversion that is live for them. -/
theorem cast_eq_of_live :
    registry.castWith converter source sourceType destType =
      RegistryEntry.apply ⟨_, _, sourceType, destType, conversion⟩ converter source := by
  rw [cast_eq hfollows hsource hdest hnative hpresent, liveEntry_of_types hsourceType hdestType,
    hlive]
  rfl

/-- If the conversion gives no result, the cast ends as the conversion does, and the receiver stays
as it was. -/
theorem cast_run_of_not_ok {outcome : Except Halt (Except ConversionError receiver.type.Value)}
    (hplan : ((conversion source.payload.value).run converter source).run machine =
      (outcome, after)) (hfails : ∀ value, outcome ≠ .ok (.ok value)) :
    (registry.castWith converter source sourceType destType).run (machine, receiver) =
      (outcome.map fun result => result.map fun _ => (), after, receiver) := by
  rw [cast_eq_of_live hfollows hsource hdest hnative hpresent hsourceType hdestType hlive]
  exact RegistryEntry.apply_run_of_not_ok rfl _ _ hplan hfails

/-- The result of the conversion is in the receiver, also if what was there before panics when it
is destroyed. -/
theorem cast_run_of_ok {value : receiver.type.Value}
    (hplan : ((conversion source.payload.value).run converter source).run machine =
      (.ok (.ok value), after)) :
    (registry.castWith converter source sourceType destType).run (machine, receiver) =
      ((Payload.droppedOf (receiver.content?.map Instance.payload)).map fun _ => .ok (),
        after.advance after.heap 1 (receiver.content?.map Instance.serial).toList
          (Payload.dropEventsOf (receiver.content?.map Instance.payload)),
        { receiver with content? := some ⟨after.created, ⟨receiver.type, value⟩⟩ }) := by
  rw [cast_eq_of_live hfollows hsource hdest hnative hpresent hsourceType hdestType hlive]
  exact RegistryEntry.apply_run_of_ok rfl _ _ hplan

end Known

/-- Either nothing happens in a cast, or a conversion runs that is live for the claimed types, which
are the actual ones then. -/
theorem cast_cases (hfollows : registry.Follows machine history) (source : Instance)
    (receiver : Receiver) (hsource : machine.Knows sourceType) (hdest : machine.Knows destType) :
    (∃ error, (registry.castWith converter source sourceType destType).run (machine, receiver) =
      (.ok (.error error), machine, receiver)) ∨
    destType.isForeign = false ∧ sourceType.isNull = false ∧
      sourceType.type? = some source.payload.type ∧ destType.type? = some receiver.type ∧
      ∃ conversion, liveConversion? history source.payload.type receiver.type =
        some conversion := by
  by_cases hforeign : destType.isForeign
  · exact .inl ⟨_, cast_run_foreign registry converter source sourceType machine receiver hforeign⟩
  have hnative := Bool.eq_false_iff.mpr hforeign
  by_cases hnull : sourceType.isNull
  · exact .inl ⟨_, cast_run_empty registry converter source machine receiver hnative hnull⟩
  have hpresent := Bool.eq_false_iff.mpr hnull
  have hrefused : _ → (registry.castWith converter source sourceType destType).run
      (machine, receiver) = _ :=
    cast_run_refused hfollows hsource hdest hnative hpresent
  by_cases hsourceType : sourceType.type? = some source.payload.type
  · by_cases hdestType : destType.type? = some receiver.type
    · cases hlive : liveConversion? history source.payload.type receiver.type with
      | none =>
          refine .inl ⟨_, hrefused (.inl ?_)⟩
          rw [liveEntry_of_types hsourceType hdestType, hlive]
          rfl
      | some conversion =>
          exact .inr ⟨hnative, hpresent, hsourceType, hdestType, conversion, rfl⟩
    · exact .inl ⟨_, hrefused (.inr (.inr hdestType))⟩
  · exact .inl ⟨_, hrefused (.inr (.inl hsourceType))⟩

/-! ## All or nothing -/

/-- How an instance of a claimed type is cast into a receiver of a claimed type. -/
abbrev Caster : Type :=
  Instance → (sourceType destType : TypeIdentity) → Action Casting (Except ConversionError Unit)

/-- What a registry with a history does when it casts a payload into a receiver, while the requests
of its conversions are met in a given way. The first three parts are the refusals, in their order;
nothing at all happens then, so no conversion has run. The next two are the ends of a conversion
that runs: without a result, by an error or a panic, and with one. The last two say what can be told
from the result of a cast about what has happened. -/
structure CastsAllOrNothing (machine : Machine) (history : List RegistryOperation) (cast : Caster)
    (nested : Converter) : Prop where
  foreign : ∀ (source : Instance) (sourceType destType : TypeIdentity) (receiver : Receiver),
    destType.isForeign →
      (cast source sourceType destType).run (machine, receiver) =
        (.ok (.error (.foreignDestination destType)), machine, receiver)
  empty : ∀ (source : Instance) (sourceType destType : TypeIdentity) (receiver : Receiver),
    destType.isForeign = false → sourceType.isNull →
      (cast source sourceType destType).run (machine, receiver) =
        (.ok (.error .emptySource), machine, receiver)
  refused : ∀ (source : Instance) (sourceType destType : TypeIdentity) (receiver : Receiver),
    machine.Knows sourceType → machine.Knows destType →
    destType.isForeign = false → sourceType.isNull = false →
    (liveEntry history sourceType destType = none ∨
      sourceType.type? ≠ some source.payload.type ∨ destType.type? ≠ some receiver.type) →
      (cast source sourceType destType).run (machine, receiver) =
        (.ok (.error (.noConversion sourceType destType)), machine, receiver)
  failing : ∀ (source : Instance) (sourceType destType : TypeIdentity) (receiver : Receiver)
    (conversion : Conversion source.payload.type receiver.type)
    (outcome : Except Halt (Except ConversionError receiver.type.Value)) (after : Machine),
    machine.Knows sourceType → machine.Knows destType →
    destType.isForeign = false → sourceType.isNull = false →
    sourceType.type? = some source.payload.type → destType.type? = some receiver.type →
    liveConversion? history source.payload.type receiver.type = some conversion →
    ((conversion source.payload.value).run nested source).run machine =
      (outcome, after) →
    (∀ value, outcome ≠ .ok (.ok value)) →
      (cast source sourceType destType).run (machine, receiver) =
        (outcome.map fun result => result.map fun _ => (), after, receiver)
  giving : ∀ (source : Instance) (sourceType destType : TypeIdentity) (receiver : Receiver)
    (conversion : Conversion source.payload.type receiver.type) (value : receiver.type.Value)
    (after : Machine),
    machine.Knows sourceType → machine.Knows destType →
    destType.isForeign = false → sourceType.isNull = false →
    sourceType.type? = some source.payload.type → destType.type? = some receiver.type →
    liveConversion? history source.payload.type receiver.type = some conversion →
    ((conversion source.payload.value).run nested source).run machine =
      (.ok (.ok value), after) →
      (cast source sourceType destType).run (machine, receiver) =
        ((Payload.droppedOf (receiver.content?.map Instance.payload)).map fun _ => .ok (),
          after.advance after.heap 1 (receiver.content?.map Instance.serial).toList
            (Payload.dropEventsOf (receiver.content?.map Instance.payload)),
          { receiver with content? := some ⟨after.created, ⟨receiver.type, value⟩⟩ })
  accepted : ∀ (source : Instance) (sourceType destType : TypeIdentity)
    (receiver changed : Receiver) (final : Machine),
    machine.Knows sourceType → machine.Knows destType →
    (cast source sourceType destType).run (machine, receiver) =
      (.ok (.ok ()), final, changed) →
      destType.isNative ∧ sourceType.isNull = false ∧
        sourceType.type? = some source.payload.type ∧ destType.type? = some receiver.type ∧
        ∃ (conversion : Conversion source.payload.type receiver.type)
          (value : receiver.type.Value) (after : Machine),
          liveConversion? history source.payload.type receiver.type = some conversion ∧
          ((conversion source.payload.value).run nested source).run machine =
            (.ok (.ok value), after) ∧
          changed = { receiver with content? := some ⟨after.created, ⟨receiver.type, value⟩⟩ }
  kept : ∀ (source : Instance) (sourceType destType : TypeIdentity)
    (receiver changed : Receiver) (error : ConversionError) (final : Machine),
    machine.Knows sourceType → machine.Knows destType →
    (cast source sourceType destType).run (machine, receiver) =
      (.ok (.error error), final, changed) → changed = receiver

namespace Follows

theorem cast_accepted (hfollows : registry.Follows machine history) {changed : Receiver}
    {final : Machine} (hsource : machine.Knows sourceType) (hdest : machine.Knows destType)
    (hcast : (registry.castWith converter source sourceType destType).run (machine, receiver) =
      (.ok (.ok ()), final, changed)) :
    destType.isNative ∧ sourceType.isNull = false ∧
      sourceType.type? = some source.payload.type ∧ destType.type? = some receiver.type ∧
      ∃ (conversion : Conversion source.payload.type receiver.type)
        (value : receiver.type.Value) (after : Machine),
        liveConversion? history source.payload.type receiver.type = some conversion ∧
        ((conversion source.payload.value).run converter source).run machine =
          (.ok (.ok value), after) ∧
        changed = { receiver with content? := some ⟨after.created, ⟨receiver.type, value⟩⟩ } := by
  obtain ⟨error, hrefused⟩ | ⟨hnative, hpresent, hsourceType, hdestType, conversion, hlive⟩ :=
    cast_cases hfollows source receiver hsource hdest
  · rw [hrefused] at hcast
    cases hcast
  · refine ⟨by rw [destType.isNative_eq, hnative]; rfl, hpresent, hsourceType, hdestType,
      conversion, ?_⟩
    rcases hplan : ((conversion source.payload.value).run converter source).run machine with
      ⟨outcome, after⟩
    have hfails : (∀ value, outcome ≠ .ok (.ok value)) →
        (outcome.map fun result => result.map fun _ => ()) = .ok (.ok ()) := by
      intro hfails
      rw [cast_run_of_not_ok hfollows hsource hdest hnative hpresent hsourceType hdestType hlive
        hplan hfails] at hcast
      exact congrArg Prod.fst hcast
    cases outcome with
    | error halt => cases hfails fun value heq => by cases heq
    | ok result =>
        cases result with
        | error error => cases hfails fun value heq => by cases heq
        | ok value =>
            rw [cast_run_of_ok hfollows hsource hdest hnative hpresent hsourceType hdestType hlive
              hplan] at hcast
            exact ⟨value, after, hlive, rfl, (congrArg (fun run => run.2.2) hcast).symm⟩

theorem cast_kept (hfollows : registry.Follows machine history) {changed : Receiver}
    {error : ConversionError} {final : Machine} (hsource : machine.Knows sourceType)
    (hdest : machine.Knows destType)
    (hcast : (registry.castWith converter source sourceType destType).run (machine, receiver) =
      (.ok (.error error), final, changed)) : changed = receiver := by
  obtain ⟨refusal, hrefused⟩ | ⟨hnative, hpresent, hsourceType, hdestType, conversion, hlive⟩ :=
    cast_cases hfollows source receiver hsource hdest
  · rw [hrefused] at hcast
    exact (congrArg (fun run => run.2.2) hcast).symm
  · rcases hplan : ((conversion source.payload.value).run converter source).run machine with
      ⟨outcome, after⟩
    by_cases hgives : ∃ value, outcome = .ok (.ok value)
    · obtain ⟨value, rfl⟩ := hgives
      rw [cast_run_of_ok hfollows hsource hdest hnative hpresent hsourceType hdestType hlive
        hplan] at hcast
      have houtcome := congrArg Prod.fst hcast
      cases hdropped : Payload.droppedOf (receiver.content?.map Instance.payload) with
      | error halt => rw [hdropped] at houtcome; cases houtcome
      | ok _ => rw [hdropped] at houtcome; cases houtcome
    · rw [cast_run_of_not_ok hfollows hsource hdest hnative hpresent hsourceType hdestType hlive
        hplan fun value heq => hgives ⟨value, heq⟩] at hcast
      exact (congrArg (fun run => run.2.2) hcast).symm

end Follows

/-- However the requests of conversions are met, the casts of a registry are safe whatever types
they claim, and they either put a result into the receiver or leave it alone. -/
theorem Follows.castsAllOrNothing (hfollows : registry.Follows machine history)
    (converter : Converter) :
    CastsAllOrNothing machine history (registry.castWith converter) converter where
  foreign source sourceType _ receiver :=
    cast_run_foreign registry converter source sourceType machine receiver
  empty source _ _ receiver := cast_run_empty registry converter source machine receiver
  refused _ _ _ _ hsource hdest := cast_run_refused hfollows hsource hdest
  failing _ _ _ _ _ _ _ hsource hdest hnative hpresent hsourceType hdestType hlive :=
    cast_run_of_not_ok hfollows hsource hdest hnative hpresent hsourceType hdestType hlive
  giving _ _ _ _ _ _ _ hsource hdest hnative hpresent hsourceType hdestType hlive :=
    cast_run_of_ok hfollows hsource hdest hnative hpresent hsourceType hdestType hlive
  accepted _ _ _ _ _ _ := hfollows.cast_accepted
  kept _ _ _ _ _ _ _ := hfollows.cast_kept

/-- However a registry was reached, its casts are safe whatever types they claim, and they either
put a result into the receiver or leave it alone. They are so at every depth at which conversions
ask for each other, and a cast that is not exhausted at one depth ends in the same way at every
greater one. -/
theorem reached_registry_casts_all_or_nothing (hreached : Reached history machine registry) :
    CastsAllOrNothing machine history registry.cast registry.coerce ∧
      (∀ depth, CastsAllOrNothing machine history
        (registry.castWith (registry.coerceWithin depth)) (registry.coerceWithin depth)) ∧
      ∀ depth deeper source sourceType destType, depth ≤ deeper →
        (registry.castWith (registry.coerceWithin depth) source sourceType destType).Approximates
          (registry.castWith (registry.coerceWithin deeper) source sourceType destType) :=
  ⟨hreached.follows.castsAllOrNothing registry.coerce,
    fun _ => hreached.follows.castsAllOrNothing _,
    fun _ _ source sourceType destType hle => registry.castWith_approximates
      (registry.coerceWithin_approximates hle) source sourceType destType⟩

/-- A registration of a conversion that goes by way of text and finds no conversion from there. -/
def chainRegistration : RegistryOperation :=
  .register .boolean .character ((ConversionScript.chain .text).conversion .boolean)

theorem registration_casts_all_or_nothing :
    let registered := someRegistration.apply .empty .fresh
    let chained := chainRegistration.apply registered.1 registered.2
    let flag : Instance := ⟨0, ⟨.boolean, true⟩⟩
    let filled : Receiver := ⟨.text, some ⟨1, ⟨.text, "old"⟩⟩⟩
    let taken : Receiver := ⟨.character, some ⟨2, ⟨.character, 'x'⟩⟩⟩
    let failed :=
      (chained.1.cast flag ⟨1, some .boolean⟩ ⟨3, some .character⟩).run (chained.2, taken)
    Reached [someRegistration, chainRegistration] chained.2 chained.1 ∧
      (chained.1.cast flag ⟨1, some .boolean⟩ ⟨2, some .text⟩).run (chained.2, filled) =
        (.ok (.ok ()), chained.2.advance [] 1 [1] [],
          ⟨.text, some ⟨0, ⟨.text, "true"⟩⟩⟩) ∧
      (chained.1.cast flag ⟨2, some .text⟩ ⟨2, some .text⟩).run (chained.2, filled) =
        (.ok (.error (.noConversion ⟨2, some .text⟩ ⟨2, some .text⟩)), chained.2, filled) ∧
      (chained.1.cast flag ⟨1, some .boolean⟩ ⟨3, some .character⟩).run (chained.2, filled) =
        (.ok (.error (.noConversion ⟨1, some .boolean⟩ ⟨3, some .character⟩)), chained.2,
          filled) ∧
      (chained.1.cast flag .null ⟨2, some .text⟩).run (chained.2, filled) =
        (.ok (.error .emptySource), chained.2, filled) ∧
      (chained.1.cast flag .null .null).run (chained.2, filled) =
        (.ok (.error (.foreignDestination .null)), chained.2, filled) ∧
      failed.1 = .ok (.error (.noConversion ⟨2, some .text⟩ ⟨3, some .character⟩)) ∧
      failed.2.2 = taken := by
  intro registered chained flag filled taken failed
  have hreached : Reached [someRegistration, chainRegistration] chained.2 chained.1 :=
    ((Reached.empty .fresh).operate someRegistration).operate chainRegistration
  obtain ⟨hcasts, -⟩ := reached_registry_casts_all_or_nothing hreached
  have hboolean : chained.2.Knows ⟨1, some .boolean⟩ := .inr (by decide +kernel)
  have htext : chained.2.Knows ⟨2, some .text⟩ := .inr (by decide +kernel)
  have hcharacter : chained.2.Knows ⟨3, some .character⟩ := .inr (by decide +kernel)
  -- the conversion to text succeeds, and the one from there is missing
  let chain : Conversion .boolean .character := (ConversionScript.chain .text).conversion .boolean
  rcases hplan : ((chain true).run chained.1.coerce flag).run chained.2 with ⟨outcome, after⟩
  have houtcome : outcome =
      .ok (.error (.noConversion ⟨2, some .text⟩ ⟨3, some .character⟩)) := by
    rw [← show (((chain true).run chained.1.coerce flag).run chained.2).1 = outcome by rw [hplan]]
    decide +kernel
  have hfailed : failed = (.ok (.error (.noConversion ⟨2, some .text⟩ ⟨3, some .character⟩)),
      after, taken) := by
    rw [houtcome] at hplan
    exact hcasts.failing flag _ _ taken chain _ after hboolean hcharacter rfl rfl rfl rfl rfl hplan
      fun value heq => by cases heq
  refine ⟨hreached, ?_, ?_, ?_, ?_, ?_, ?_, ?_⟩
  · exact hcasts.giving flag _ _ filled (fun flag => .give (boolText flag)) "true" chained.2
      hboolean htext rfl rfl rfl rfl rfl rfl
  · exact hcasts.refused flag _ _ filled htext htext rfl rfl (.inl rfl)
  · exact hcasts.refused flag _ _ filled hboolean hcharacter rfl rfl (.inr (.inr (by decide)))
  · exact hcasts.empty flag _ _ filled rfl rfl
  · exact hcasts.foreign flag _ _ filled rfl
  · rw [hfailed]
  · rw [hfailed]

end Registry

end DynamicValue
