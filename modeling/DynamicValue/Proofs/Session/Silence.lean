/-
# Conversions that use nothing new

A program writes a line when a type gets its identity or its table, and when a registry is made. A
conversion by a registry that is there, with types only that have both, does none of this. So it
leaves the log as it is, however it ends.
-/

import DynamicValue.Proofs.Session.Relations

namespace DynamicValue

open DynamicValue.Action (Respects RespectsAt)

/-- Whether the state after an action is still as it has to be, if that before was. -/
def Action.Preserves {σ : Type} (invariant : σ → Prop) (state after : σ) : Prop :=
  invariant state → invariant after

open DynamicValue.Action (Preserves)

theorem Action.composes_preserves {σ : Type} (invariant : σ → Prop) :
    Composes (Preserves invariant) :=
  ⟨fun _ => id, fun hfirst hsecond => hsecond ∘ hfirst⟩

/-! ## Programs -/

namespace Machine

/-- A type that has an identity and a table. -/
def HasSeen (machine : Machine) (type : ValueType) : Prop :=
  (machine.identity? type).isSome ∧ (machine.table? type).isSome

/-- A program that has learned nothing and written nothing since it was another one. -/
structure SilentSince (machine after : Machine) : Prop where
  identities : after.identities = machine.identities
  tables : after.tables = machine.tables
  global? : after.global? = machine.global?
  log : after.log = machine.log

variable {machine : Machine} {type : ValueType}

theorem SilentSince.refl (machine : Machine) : machine.SilentSince machine := ⟨rfl, rfl, rfl, rfl⟩

/-- As long as only seen types are used, a program learns nothing. -/
theorem preserves_silence (machine : Machine) :
    Allows machine.HasSeen (Preserves machine.SilentSince) where
  toComposes := Action.composes_preserves _
  advance _ _ _ _ _ _ hsilent := ⟨hsilent.identities, hsilent.tables, hsilent.global?, hsilent.log⟩
  identify type after hseen hsilent := by
    obtain ⟨identity, hidentity⟩ := Option.isSome_iff_exists.mp hseen.1
    unfold identity? at hidentity
    rw [← hsilent.identities] at hidentity
    rwa [identify_of_some hidentity]
  tableFor type after hseen hsilent := by
    obtain ⟨table, htable⟩ := Option.isSome_iff_exists.mp hseen.2
    unfold table? at htable
    rw [← hsilent.tables] at htable
    rwa [tableFor_of_some htable]

/-- A global registry that is there is found, and nothing happens. -/
theorem SilentSince.globalRegistry_run {after : Machine} (hsilent : machine.SilentSince after)
    {registry : Registry} (hglobal : machine.global? = some registry) :
    globalRegistry after = (registry, after) :=
  globalRegistry_of_some (hsilent.global?.trans hglobal)

end Machine

section Conversions

variable {machine : Machine} {registry : Registry} {cell : Cell} {dest : ValueType}

theorem Machine.report_silent (machine after : Machine) (event : Event) :
    Preserves machine.SilentSince after (after.advance after.heap 0 [] [event]) :=
  fun hsilent => ⟨hsilent.identities, hsilent.tables, hsilent.global?, hsilent.log⟩

theorem Registry.coerce_silent (hamong : registry.ConvertsAmong machine.HasSeen cell.type? dest) :
    Respects (Preserves machine.SilentSince) (registry.coerce cell dest) := by
  obtain ⟨hdest, pairs, hconfines, hpair⟩ := hamong
  exact Registry.coerce_respects machine.preserves_silence machine.report_silent hconfines hdest
    hpair

theorem Registry.cast_silent {input : Instance} {receiver : Receiver}
    (hamong : registry.ConvertsAmong machine.HasSeen (some input.payload.type) receiver.type)
    (sourceType destType : TypeIdentity) (after : Machine) :
    RespectsAt (fun state changed : Casting => Preserves machine.SilentSince state.1 changed.1)
      (after, receiver) (registry.cast input sourceType destType) := by
  obtain ⟨-, pairs, hconfines, hpair⟩ := hamong
  exact Registry.cast_respectsAt machine.preserves_silence machine.report_silent hconfines input
    sourceType destType (hpair _ rfl)

theorem Cell.get_silent (hglobal : machine.global? = some registry)
    (hamong : registry.ConvertsAmong machine.HasSeen cell.type? dest) :
    Respects (Preserves machine.SilentSince) (cell.get dest) := by
  intro after hsilent
  have hfound := hsilent.globalRegistry_run hglobal
  refine Cell.get_respectsAt (Action.composes_preserves _) ?_ ?_ ?_ hsilent
  · rw [hfound]
    exact id
  · rw [hfound]
    exact Registry.coerce_silent hamong
  · exact fun after => machine.preserves_silence.identify dest after hamong.1

theorem Cell.tryGet_silent (hglobal : machine.global? = some registry)
    (hamong : registry.ConvertsAmong machine.HasSeen cell.type? dest) :
    Respects (Preserves machine.SilentSince) (cell.tryGet dest) := by
  intro after hsilent
  have hfound := hsilent.globalRegistry_run hglobal
  refine Cell.tryGet_respectsAt (Action.composes_preserves _) ?_ ?_ hsilent
  · rw [hfound]
    exact id
  · rw [hfound]
    exact Registry.coerce_silent hamong

end Conversions

/-! ## Sessions -/

namespace Session

variable {session : Session}

/-- A registry of a session that has been made. -/
def registry? (session : Session) : RegistryName → Option Registry
  | .global => session.machine.global?
  | .named name => session.registries.get? name

/-- A session whose program has learned nothing and written nothing since it was another one, and
has the same registries. -/
structure SilentSince (session after : Session) : Prop where
  program : session.machine.SilentSince after.machine
  registries : after.registries = session.registries

theorem SilentSince.refl (session : Session) : session.SilentSince session := ⟨.refl _, rfl⟩

theorem preserves_silence (session : Session) :
    Allows (Preserves session.machine.SilentSince) (Preserves session.SilentSince) where
  toComposes := Action.composes_preserves _
  program _ _ hmachine hsilent := ⟨hmachine hsilent.program, hsilent.registries⟩

/-- A registry that is there is found, and nothing happens. -/
theorem SilentSince.registry_run {after : Session} (hsilent : session.SilentSince after)
    {name : RegistryName} {registry : Registry}
    (hregistry : session.registry? name = some registry) :
    (Session.registry name).run after = (.ok registry, after) := by
  cases name with
  | global => exact run_onMachine_lift (hsilent.program.globalRegistry_run hregistry)
  | named name =>
      unfold Session.registry
      simp only []
      rw [Action.run_bind_ok _ (Action.run_get after), hsilent.registries,
        show session.registries.get? name = _ from hregistry]
      rfl

/-- What a variable holds is converted to a type by a registry that is there, with seen types only.
-/
def ConvertsAmongSeen (session : Session) (registryName : RegistryName) (variableName : String)
    (dest : ValueType) : Prop :=
  ∃ registry, session.registry? registryName = some registry ∧
    ∀ cell, session.cells.get? variableName = some cell →
      registry.ConvertsAmong session.machine.HasSeen cell.type? dest

end Session

/-- Whether a command asks for a conversion by a registry that is there, with types only that have
an identity and a table already. -/
def Command.ConvertsAmongSeen (session : Session) : Command → Prop
  | get name type | tryGet name type =>
    ∀ dest, type = .ok dest → session.ConvertsAmongSeen .global name dest
  | getToMut name payload =>
    ∀ given, payload = .ok given → session.ConvertsAmongSeen .global name given.type
  | coerce registryName name type =>
    ∀ dest, type = .ok dest → session.ConvertsAmongSeen registryName name dest
  | cast registryName source sourceType destType receiver =>
    (∀ type, sourceType = .ok (some type) → session.machine.HasSeen type) ∧
    (∀ type, destType = .ok (some type) → session.machine.HasSeen type) ∧
    ∃ registry, session.registry? registryName = some registry ∧
      ∀ payload description, source = .ok payload → receiver = .ok description →
        registry.ConvertsAmong session.machine.HasSeen (some payload.type) description.type
  | _ => False

namespace Session

variable {session : Session} {command : Command}

/-- A conversion that uses nothing new adds no line to the log, whether it succeeds or fails. -/
theorem step_silent (hamong : command.ConvertsAmongSeen session) :
    session.SilentSince ((step command).run session).2 := by
  have hsessions := session.preserves_silence
  have hcomposes := hsessions.toComposes
  have hprograms := session.machine.preserves_silence
  suffices hstep : RespectsAt (Preserves session.SilentSince) session (step command) from
    hstep (.refl session)
  cases command with
  | get name type =>
      refine get_respectsAt hsessions name type fun cell dest hcell hread => ?_
      obtain ⟨registry, hregistry, hconverts⟩ := hamong dest hread
      exact cell.get_silent hregistry (hconverts cell hcell) _
  | tryGet name type =>
      refine tryGet_respectsAt hsessions name type fun cell dest hcell hread => ?_
      obtain ⟨registry, hregistry, hconverts⟩ := hamong dest hread
      exact cell.tryGet_silent hregistry (hconverts cell hcell) _
  | getToMut name payload =>
      refine getToMut_respectsAt hprograms hsessions name payload
        fun cell given machine hcell hread _ => ?_
      obtain ⟨registry, hregistry, hconverts⟩ := hamong given hread
      exact cell.get_silent hregistry (hconverts cell hcell) machine
  | coerce registryName name type =>
      refine coerce_respectsAt hsessions registryName name type ?_ ?_
      · intro dest hread hsilent
        obtain ⟨registry, hregistry, -⟩ := hamong dest hread
        rw [hsilent.registry_run hregistry]
        exact hsilent
      · intro cell dest found after hcell hread hfound
        obtain ⟨registry, hregistry, hconverts⟩ := hamong dest hread
        rw [(SilentSince.refl session).registry_run hregistry] at hfound
        cases hfound
        exact Registry.coerce_silent (hconverts cell hcell)
  | cast registryName source sourceType destType receiver =>
      obtain ⟨hsource, hdest, registry, hregistry, hconverts⟩ := hamong
      refine cast_respectsAt hprograms hsessions registryName source sourceType destType receiver
        hsource hdest ?_ ?_
      · intro middle hmiddle hsilent
        rw [hsilent.registry_run hregistry]
        exact hsilent
      · intro input sourceIdentity destIdentity description content? middle found after machine
          hread hdescription hmiddle hfound
        rw [(hmiddle (.refl session)).registry_run hregistry] at hfound
        cases hfound
        exact Registry.cast_silent (hconverts _ _ hread hdescription) _ _ machine
  | _ => cases hamong

end Session

end DynamicValue
