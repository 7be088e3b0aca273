/-
# The log of a session

Over a whole run, the log of a session agrees with what its program knows and with the operations
on its registries. Of the commands, only those that make or change a registry have to do with these
operations; all others let the log go on as their use of types asks for. The operations themselves
follow from the commands, so which conversions are replaced, and how many registries are made with
the built-in conversions, can be told without looking at the session.
-/

import DynamicValue.Proofs.Registry.Log
import DynamicValue.Proofs.Session.Identities
import DynamicValue.Proofs.Session.Silence

namespace DynamicValue

open DynamicValue.Action (Respects RespectsAt)

/-! ## The record of the commands -/

namespace RegistryRecord

/-- The operations on a registry from its start, if it is there. -/
def history? (record : RegistryRecord) : RegistryName → Option (List RegistryOperation)
  | .global => some record.global
  | .named name => record.named.get? name

/-- The record with other operations on a registry. -/
def setHistory (record : RegistryRecord) (history : List RegistryOperation) :
    RegistryName → RegistryRecord
  | .global => { record with global := history }
  | .named name => { record with named := record.named.insert name history }

/-- The record after an operation on a registry, which has to be there, and may only be changed in
a fresh program if it is the global one. -/
def operating (record : RegistryRecord) (operation : RegistryOperation) (name : RegistryName) :
    RegistryRecord :=
  if name = .global && !record.isFresh then record
  else
    match record.history? name with
    | some history => (record.carrying history operation).setHistory (history ++ [operation]) name
    | none => record

/-- The record after a command. -/
def after (record : RegistryRecord) : Except Complaint Command → RegistryRecord
  | .ok (.newRegistry name .nothing) => { record with named := record.named.insert name [] }
  | .ok (.newRegistry name .builtIns) =>
    { record.noting (.registryReady BuiltIn.all.length) with
      named := record.named.insert name BuiltIn.registrations }
  | .ok (.register name (.ok ⟨source, dest, script⟩)) =>
    record.operating (.register source dest (script.conversion source)) name
  | .ok (.unregister name (.ok (source, dest))) => record.operating (.unregister source dest) name
  | _ => record

/-- The record of a session after commands from its start. -/
def of (isFresh : Bool) (commands : List (Except Complaint Command)) : RegistryRecord :=
  commands.foldl after (start isFresh)

section Operating

variable {record : RegistryRecord} (operation : RegistryOperation) {name : RegistryName}
  {history : List RegistryOperation}

theorem operating_of_stale (hstale : record.isFresh = false) :
    record.operating operation .global = record := by
  unfold operating
  exact if_pos (by rw [hstale]; rfl)

theorem operating_of_none (hhistory : record.history? name = none) :
    record.operating operation name = record := by
  unfold operating
  rw [hhistory]
  exact ite_self record

theorem operating_of_some (hhistory : record.history? name = some history)
    (hchangeable : name = .global → record.isFresh) :
    record.operating operation name =
      (record.carrying history operation).setHistory (history ++ [operation]) name := by
  unfold operating
  rw [if_neg (by simpa using hchangeable), hhistory]

theorem setHistory_replacements : (record.setHistory history name).replacements =
    record.replacements := by
  cases name <;> rfl

end Operating

/-! ### Conversions that are replaced -/

/-- What a command replaces: the pair of types of a registration that is carried out, if a
conversion for it is live in the registry at this moment. -/
def replacing (record : RegistryRecord) :
    Except Complaint Command → List (ValueType × ValueType)
  | .ok (.register name (.ok ⟨source, dest, _⟩)) =>
    if name = .global && !record.isFresh then []
    else
      match record.history? name with
      | some history => if isLive history (source, dest) then [(source, dest)] else []
      | none => []
  | _ => []

section Replacing

variable (record : RegistryRecord)

theorem registering_replacements (history : List RegistryOperation) (source dest : ValueType) :
    (record.registering history source dest).replacements =
      record.replacements ++ if isLive history (source, dest) then [(source, dest)] else [] := by
  unfold registering
  split
  · rfl
  · exact (List.append_nil _).symm

theorem register_replacements (name : RegistryName) (source dest : ValueType)
    (script : ConversionScript dest) :
    (record.operating (.register source dest (script.conversion source)) name).replacements =
      record.replacements ++
        record.replacing (.ok (.register name (.ok ⟨source, dest, script⟩))) := by
  unfold operating
  have hreplacing : record.replacing (.ok (.register name (.ok ⟨source, dest, script⟩))) =
      if name = .global && !record.isFresh then []
      else
        match record.history? name with
        | some history => if isLive history (source, dest) then [(source, dest)] else []
        | none => [] := rfl
  rw [hreplacing]
  split
  · exact (List.append_nil _).symm
  · cases record.history? name with
    | none => exact (List.append_nil _).symm
    | some history =>
        exact setHistory_replacements.trans (record.registering_replacements history source dest)

theorem unregister_replacements (name : RegistryName) (source dest : ValueType) :
    (record.operating (.unregister source dest) name).replacements = record.replacements := by
  unfold operating
  split
  · rfl
  · split
    · exact setHistory_replacements
    · rfl

/-- A command adds to the pairs whose conversion was replaced what it replaces itself. -/
theorem after_replacements (command : Except Complaint Command) :
    (record.after command).replacements = record.replacements ++ record.replacing command := by
  have hnone : record.replacements = record.replacements ++ [] := (List.append_nil _).symm
  cases command with
  | error complaint => exact hnone
  | ok command =>
      cases command with
      | newRegistry name contents => cases contents <;> exact hnone
      | register name registration =>
          cases registration with
          | error complaint => exact hnone
          | ok given => exact record.register_replacements name given.source given.dest given.script
      | unregister name types =>
          cases types with
          | error complaint => exact hnone
          | ok pair => exact (record.unregister_replacements name pair.1 pair.2).trans hnone
      | _ => exact hnone

end Replacing

end RegistryRecord

namespace Session

variable {session after : Session} {earlier : List LogLine} {record noted : RegistryRecord}

/-! ## Commands -/

/-- What a session has logged, the earlier lines included, agrees with what its program knows and
with the record of its registries. -/
structure HasLogged (session : Session) (earlier : List LogLine) (record : RegistryRecord) :
    Prop where
  program : session.machine.HasLogged (earlier ++ session.machine.log) record
  named : ∀ name, Option.Rel (fun registry history => registry.Follows session.machine history)
    (session.registries.get? name) (record.named.get? name)
  isFresh : record.isFresh = session.isFresh

/-- From one state of a session to the next, the log goes on while the record of the registries
becomes another one. -/
def LogsTo (record noted : RegistryRecord) (session after : Session) : Prop :=
  ∀ earlier, session.HasLogged earlier record → after.HasLogged earlier noted

/-- A session goes on with its log while nothing is done to its registries. -/
def LogsOn (session after : Session) : Prop := ∀ record, LogsTo record record session after

theorem HasLogged.onMachine (hlogged : session.HasLogged earlier record) {machine : Machine}
    (hlogs : session.machine.LogsTo machine record noted) (hnamed : noted.named = record.named)
    (hfresh : noted.isFresh = record.isFresh) :
    HasLogged { session with machine := machine } earlier noted := by
  obtain ⟨hprogram, hextends⟩ := hlogs earlier hlogged.program
  exact ⟨hprogram, fun name => hnamed ▸ Alike.rel_mono (fun registry history hfollows =>
    hfollows.mono hextends hprogram.coherent) (hlogged.named name), hfresh.trans hlogged.isFresh⟩

/-- Everything but the programs and the registries is of no matter to the log. -/
theorem logsOn_allowsChanges : AllowsChanges Machine.LogsOn LogsOn where
  refl _ _ _ hlogged := hlogged
  trans hfirst hsecond record earlier hlogged :=
    hsecond record earlier (hfirst record earlier hlogged)
  program _ _ hlogs record _ hlogged := hlogged.onMachine (hlogs record) rfl rfl
  changes _ _ _ _ hlogged := ⟨hlogged.program, hlogged.named, hlogged.isFresh⟩

/-- A part of a command that lets the log go on comes before the part that is noted. -/
theorem logsTo_after {α β : Type} {action : SessionAction α} {next : α → SessionAction β}
    {value : α} (hrun : action.run session = (.ok value, after)) (hlogs : session.LogsOn after)
    (hnext : RespectsAt (LogsTo record noted) after (next value)) :
    RespectsAt (LogsTo record noted) session (action >>= next) := by
  unfold RespectsAt
  rw [Action.run_bind_ok _ hrun]
  exact fun earlier hlogged => hnext earlier (hlogs record earlier hlogged)

/-! ## Changes of registries -/

/-- An operation on a registry only learns types. -/
theorem operation_onlyLearns (operation : RegistryOperation) (registry : Registry) :
    Machine.OnlyLearns (operation.apply registry) := by
  cases operation with
  | register source dest conversion => exact .register registry source dest conversion
  | unregister source dest =>
      exact (Machine.OnlyLearns.unregister registry source dest).bind fun _ => .pure _

/-- An operation on a registry that is there, whose result is put in its place, is noted. -/
theorem HasLogged.setRegistry (hlogged : session.HasLogged earlier record) {name : RegistryName}
    {registry changed : Registry} {machine : Machine}
    (hregistry : session.registry? name = some registry)
    (hchangeable : name = .global → session.isFresh) (operation : RegistryOperation)
    (hchange : operation.apply registry session.machine = (changed, machine)) :
    (((setRegistry name changed).run { session with machine := machine }).2).HasLogged earlier
      (record.operating operation name) := by
  have hlearns := (operation_onlyLearns operation registry session.machine
    hlogged.program.coherent).1
  rw [hchange] at hlearns
  -- the history of the registry, and what is noted of the operation on the way
  have hcarried {history : List RegistryOperation}
      (hfollows : registry.Follows session.machine history) :
      changed.Follows machine (history ++ [operation]) ∧
        HasLogged { session with machine := machine } earlier
          (record.carrying history operation) := by
    have hchanged := (hfollows.apply operation).1
    have hlogs := hfollows.apply_logsTo operation record
    rw [hchange] at hchanged hlogs
    exact ⟨hchanged, hlogged.onMachine hlogs (record.carrying_named _ _)
      (record.carrying_isFresh _ _)⟩
  cases name with
  | global =>
      obtain ⟨hchanged, hafter⟩ := hcarried (hlogged.program.global registry hregistry)
      have hready := hafter.program.ready
      rw [hlearns.global?, show session.machine.global? = _ from hregistry] at hready
      rw [record.operating_of_some operation rfl fun _ => hlogged.isFresh.trans (hchangeable rfl)]
      refine ⟨hafter.program.withGlobal hchanged hready, fun name => ?_, hafter.isFresh⟩
      exact Alike.rel_mono (fun other history hother => hother.mono
        ⟨List.prefix_rfl, List.prefix_rfl⟩ (hchanged.coherent.congr rfl rfl)) (hafter.named name)
  | named name =>
      have hfound := hlogged.named name
      rw [show session.registries.get? name = _ from hregistry] at hfound
      cases hhistory : record.named.get? name with
      | none =>
          rw [hhistory] at hfound
          cases hfound
      | some history =>
          rw [hhistory, Option.rel_some_some] at hfound
          obtain ⟨hchanged, hafter⟩ := hcarried hfound
          have hhistory' : record.history? (.named name) = some history := hhistory
          rw [record.operating_of_some operation hhistory' fun hname => by cases hname]
          exact ⟨hafter.program.withNamed _, Alike.get?_insert hafter.named name hchanged,
            hafter.isFresh⟩

/-- Looking up a registry that is there, or making the global one, lets the log go on. -/
theorem registry_run (name : RegistryName)
    (hthere : ∀ given, name = .named given → (session.registries.get? given).isSome) :
    ∃ registry after, (Session.registry name).run session = (.ok registry, after) ∧
      session.LogsOn after ∧ after.registry? name = some registry ∧
      after.isFresh = session.isFresh := by
  cases name with
  | named name =>
      obtain ⟨registry, hregistry⟩ := Option.isSome_iff_exists.mp (hthere name rfl)
      refine ⟨registry, session, ?_, logsOn_allowsChanges.refl session, hregistry, rfl⟩
      unfold Session.registry
      simp only []
      rw [Action.run_bind_ok _ (Action.run_get session), hregistry]
      rfl
  | global =>
      exact ⟨_, _, run_onMachine_lift rfl, logsOn_allowsChanges.program session _
        (Machine.globalRegistry_logsOn session.machine),
        Machine.global?_globalRegistry session.machine, rfl⟩

/-- Changing a registry that is there, in the way of an operation. -/
theorem operate_logsTo {name : RegistryName}
    (hthere : ∀ given, name = .named given → (session.registries.get? given).isSome)
    (hchangeable : name = .global → session.isFresh) {β : Type} (operation : RegistryOperation)
    {change : Registry → StateM Machine β} {result : β → Registry} {answer : β → Answer}
    (happly : ∀ registry machine, operation.apply registry machine =
      (result (change registry machine).1, (change registry machine).2)) :
    RespectsAt (LogsTo record (record.operating operation name)) session (do
      let registry ← registry name
      let changed ← onMachine (change registry)
      setRegistry name (result changed)
      return answer changed) := by
  obtain ⟨registry, middle, hrun, hlogs, hregistry, hfresh⟩ := registry_run name hthere
  rw [← hfresh] at hchangeable
  refine logsTo_after hrun hlogs fun earlier hlogged => ?_
  have hset := hlogged.setRegistry hregistry hchangeable operation (happly registry middle.machine)
  have hchange : (onMachine (change registry) : SessionAction β).run middle =
      (.ok (change registry middle.machine).1,
        { middle with machine := (change registry middle.machine).2 }) := run_onMachine_lift rfl
  rcases hput : (setRegistry name (result (change registry middle.machine).1)).run
    { middle with machine := (change registry middle.machine).2 } with ⟨outcome, final⟩
  rw [hput] at hset
  rw [Action.run_bind_ok _ hchange, Action.run_bind_pure (fun _ => answer _) hput]
  exact hset

/-! ### The conditions of a change -/

theorem requireChangeable_run {name : RegistryName}
    (hchangeable : name = .global → session.isFresh) :
    (requireChangeable name).run session = (.ok (), session) := by
  unfold requireChangeable
  rw [Action.run_bind_ok _ (Action.run_get session), if_neg]
  · rfl
  · simpa using hchangeable

theorem requireChangeable_run_stale (hstale : session.isFresh = false) :
    (requireChangeable .global).run session =
      (.error (.complaint .needsFreshSession), session) := by
  unfold requireChangeable
  rw [Action.run_bind_ok _ (Action.run_get session), if_pos]
  · rfl
  · simp [hstale]

theorem requireRegistry_run {name : RegistryName}
    (hthere : ∀ given, name = .named given → (session.registries.get? given).isSome) :
    (requireRegistry name).run session = (.ok (), session) := by
  cases name with
  | global => rfl
  | named name =>
      obtain ⟨registry, hregistry⟩ := Option.isSome_iff_exists.mp (hthere name rfl)
      unfold requireRegistry
      simp only []
      rw [Action.run_bind_ok _ (Action.run_get session), hregistry]
      rfl

theorem requireRegistry_run_none {name : String} (hnone : session.registries.get? name = none) :
    (requireRegistry (.named name)).run session =
      (.error (.complaint (.noRegistry name)), session) := by
  unfold requireRegistry
  simp only []
  rw [Action.run_bind_ok _ (Action.run_get session), hnone]
  rfl

/-- A registry that is not there has no operations. -/
theorem HasLogged.history?_of_none (hlogged : session.HasLogged earlier record) {name : String}
    (hnone : session.registries.get? name = none) : record.history? (.named name) = none := by
  have hcounterpart := hlogged.named name
  rw [hnone] at hcounterpart
  change record.named.get? name = none
  cases hhistory : record.named.get? name with
  | none => rfl
  | some history =>
      rw [hhistory] at hcounterpart
      cases hcounterpart

/-- Either a registry is there and may be changed, or a complaint ends the command and no operation
on the registry is noted. -/
theorem HasLogged.changeable_or_complains (hlogged : session.HasLogged earlier record)
    (name : RegistryName) :
    ((∀ given, name = .named given → (session.registries.get? given).isSome) ∧
        (name = .global → session.isFresh)) ∨
      (∃ complaint, (do requireChangeable name; requireRegistry name).run session =
        (.error (.complaint complaint), session)) ∧
        ∀ operation, record.operating operation name = record := by
  cases name with
  | global =>
      cases hfresh : session.isFresh with
      | true => exact .inl ⟨fun _ hname => (by cases hname), fun _ => rfl⟩
      | false =>
          exact .inr ⟨⟨_, Action.run_bind_error _ (requireChangeable_run_stale hfresh)⟩,
            fun operation => record.operating_of_stale operation (hlogged.isFresh.trans hfresh)⟩
  | named name =>
      cases hget : session.registries.get? name with
      | some registry =>
          refine .inl ⟨fun given hname => ?_, fun hname => by cases hname⟩
          rw [← RegistryName.named.inj hname, hget]
          rfl
      | none =>
          have hchangeable : (requireChangeable (.named name)).run session = (.ok (), session) :=
            requireChangeable_run fun hname => by cases hname
          exact .inr ⟨⟨_, (Action.run_bind_ok _ hchangeable).trans (requireRegistry_run_none hget)⟩,
            fun operation => record.operating_of_none operation (hlogged.history?_of_none hget)⟩

/-- A command that is to change a registry ends, with nothing noted, if the registry is not there,
may not be changed or the operation is unreadable. -/
theorem changing_logsTo {α : Type} (name : RegistryName) (reading : Reading α)
    (operation : α → RegistryOperation) {next : α → SessionAction Answer}
    (hread : ∀ value, reading = .ok value → noted = record.operating (operation value) name)
    (hunread : ∀ complaint, reading = .error complaint → noted = record)
    (hnext : ∀ value,
      (∀ given, name = .named given → (session.registries.get? given).isSome) →
      (name = .global → session.isFresh) →
      RespectsAt (LogsTo record (record.operating (operation value) name)) session (next value)) :
    RespectsAt (LogsTo record noted) session (do
      requireChangeable name
      requireRegistry name
      let value ← read reading
      next value) := by
  intro earlier hlogged
  obtain ⟨hthere, hchangeable⟩ | ⟨⟨complaint, hcomplains⟩, hnothing⟩ :=
    hlogged.changeable_or_complains name
  · rw [Action.run_bind_ok _ (requireChangeable_run hchangeable),
      Action.run_bind_ok _ (requireRegistry_run hthere)]
    cases reading with
    | error complaint =>
        rw [hunread complaint rfl]
        exact hlogged
    | ok value =>
        rw [hread value rfl]
        exact hnext value hthere hchangeable earlier hlogged
  · -- the operation cannot be carried out, whether it is readable or not
    have hnoted : noted = record := by
      cases hreading : reading with
      | error complaint => exact hunread complaint hreading
      | ok value => exact (hread value hreading).trans (hnothing _)
    rw [← bind_assoc, Action.run_bind_error _ hcomplains, hnoted]
    exact hlogged

theorem register_logsTo (name : RegistryName) (registration : Reading Registration) :
    RespectsAt (LogsTo record (record.after (.ok (.register name registration)))) session
      (register name registration) := by
  refine changing_logsTo name registration
    (fun given => .register given.source given.dest (given.script.conversion given.source)) ?_ ?_ ?_
  · rintro ⟨source, dest, script⟩ rfl
    rfl
  · rintro complaint rfl
    rfl
  rintro ⟨source, dest, script⟩ hthere hchangeable
  have hoperate (machine : Machine) : RespectsAt (LogsTo record (record.operating
      (.register source dest (script.conversion source)) name)) { session with machine := machine }
      (do
        let registry ← registry name
        setRegistry name
          (← onMachine (registry.register source dest (script.conversion source)))
        return Answer.nothing) := by
    generalize hbefore : { session with machine := machine } = before
    have hregistries : before.registries = session.registries := by rw [← hbefore]
    have hfresh : before.isFresh = session.isFresh := by rw [← hbefore]
    rw [← hregistries] at hthere
    rw [← hfresh] at hchangeable
    exact operate_logsTo hthere hchangeable _ fun _ _ => rfl
  dsimp only
  split
  · have hlogs : session.machine.LogsOn
        (Machine.writeLog (.registering source dest) session.machine).2 :=
      fun record => .writeLog _ rfl rfl (by simp [LogLine.needs]) (by simp)
    exact logsTo_after (run_onMachine_lift rfl) (logsOn_allowsChanges.program session _ hlogs)
      (hoperate _)
  · exact hoperate session.machine

theorem unregister_logsTo (name : RegistryName) (types : Reading (ValueType × ValueType)) :
    RespectsAt (LogsTo record (record.after (.ok (.unregister name types)))) session
      (unregister name types) := by
  refine changing_logsTo name types (fun pair => .unregister pair.1 pair.2) ?_ ?_ ?_
  · rintro ⟨source, dest⟩ rfl
    rfl
  · rintro complaint rfl
    rfl
  rintro ⟨source, dest⟩ hthere hchangeable
  exact operate_logsTo hthere hchangeable (.unregister source dest) fun _ _ => rfl

theorem newRegistry_run {registry : Registry} {machine : Machine} (name : String)
    (hmade : Registry.withBuiltIns session.machine = (registry, machine)) :
    (step (.newRegistry name .builtIns)).run session = (.ok .nothing,
      { session with
        machine := machine
        registries := session.registries.insert name registry }) :=
  Action.run_bind_ok _ (run_onMachine_lift hmade)

theorem newRegistry_logsTo (name : String) (contents : RegistryContents) :
    RespectsAt (LogsTo record (record.after (.ok (.newRegistry name contents)))) session
      (step (.newRegistry name contents)) := by
  intro earlier hlogged
  cases contents with
  | nothing =>
      exact ⟨hlogged.program.withNamed _, Alike.get?_insert hlogged.named name
        (.empty hlogged.program.coherent), hlogged.isFresh⟩
  | builtIns =>
      have hlogs := Registry.withBuiltIns_logsTo hlogged.program.coherent record
      have hfollows := Registry.Follows.withBuiltIns hlogged.program.coherent
      rcases hmade : Registry.withBuiltIns session.machine with ⟨registry, machine⟩
      rw [hmade] at hlogs hfollows
      have hafter := hlogged.onMachine hlogs rfl rfl
      rw [newRegistry_run name hmade]
      exact ⟨hafter.program.withNamed _, Alike.get?_insert hafter.named name hfollows,
        hafter.isFresh⟩

/-! ## All commands -/

/-- Changing the environments is of no matter to the log. -/
theorem logsOn_environments (environments : Directory Environment) :
    session.LogsOn { session with environments := environments } :=
  fun _ _ hlogged => ⟨hlogged.program, hlogged.named, hlogged.isFresh⟩

/-- Every command lets the log go on, with the record that the command asks for. -/
theorem step_logsTo (hfunctions : ∀ name environment,
      session.environments.get? name = some environment → environment.IsOfSessions)
    (record : RegistryRecord) (command : Command) :
    RespectsAt (LogsTo record (record.after (.ok command))) session (step command) := by
  have hallows := Machine.logsOn_allowsUse
  have hsessions := logsOn_allowsChanges
  have hcomposes := hsessions.toComposes
  -- nothing is noted of a command that changes no registry
  have hon (hon : RespectsAt LogsOn session (step command))
      (hnoted : record.after (.ok command) = record) :
      RespectsAt (LogsTo record (record.after (.ok command))) session (step command) := by
    rw [hnoted]
    exact hon record
  cases huse : command.isUse with
  | true =>
      refine hon (respects_use hallows hsessions huse session) ?_
      cases command <;> first | rfl | cases huse
  | false =>
      cases command with
      | newRegistry name contents => exact newRegistry_logsTo name contents
      | register name registration => exact register_logsTo name registration
      | unregister name types => exact unregister_logsTo name types
      | newEnvironment name => exact hon (logsOn_environments _) rfl
      | load name functions =>
          refine hon (lookup_respectsAt hcomposes fun environment _ => ?_) rfl
          refine .bind_of_ok hcomposes (run_onMachine_lift rfl)
            (hsessions.program session _ (hallows.loading _ functions.name _)) ?_
          exact logsOn_environments _
      | bind environmentName name function =>
          refine hon (lookup_respectsAt hcomposes fun environment _ => ?_) rfl
          exact logsOn_environments _
      | call environmentName name arguments target? =>
          refine hon (call_respectsAt hallows hsessions (fun environment hget cells => ?_) arguments
            target?) rfl
          exact (hfunctions environmentName environment hget).respects_call hallows name cells
      | _ => cases huse

/-! ## Whole runs -/

/-- The lines that a session has written in its steps. -/
def logged (isFresh : Bool) (commands : List (Except Complaint Command)) : List LogLine :=
  (reports isFresh commands).flatMap StepReport.log

namespace HasLogged

theorem start (isFresh : Bool) : (start isFresh).HasLogged [] (.start isFresh) :=
  ⟨.fresh isFresh, fun _ => .none, rfl⟩

/-- The lines that have been reported are earlier ones from then on. -/
theorem cleared (hlogged : session.HasLogged earlier record) :
    session.cleared.HasLogged (earlier ++ session.machine.log) record where
  program := by
    have hcleared : session.cleared.machine.HasLogged (earlier ++ session.machine.log) record :=
      hlogged.program.congr rfl rfl rfl
    rwa [← List.append_nil (earlier ++ session.machine.log)] at hcleared
  named name := Alike.rel_mono (fun _ _ hfollows => hfollows.mono ⟨List.prefix_rfl, List.prefix_rfl⟩
    (hfollows.coherent.congr rfl rfl)) (hlogged.named name)
  isFresh := hlogged.isFresh

theorem attempt (hlogged : session.HasLogged earlier record) (hrest : session.AtRest)
    (command : Except Complaint Command) :
    (((Session.attempt command).run session).2).HasLogged earlier (record.after command) := by
  cases command with
  | ok command => exact step_logsTo hrest.alike.functions record command earlier hlogged
  | error complaint => exact hlogged

/-- A session that goes on from a state at rest goes on with its log. -/
theorem mapM_report (hlogged : session.HasLogged earlier record) (hrest : session.AtRest)
    {commands : List (Except Complaint Command)}
    (hbinds : ∀ command, .ok command ∈ commands → command.BindsSessionFunctions) :
    (commands.mapM report session).2.HasLogged
      (earlier ++ (commands.mapM report session).1.flatMap StepReport.log)
      (commands.foldl RegistryRecord.after record) := by
  induction commands generalizing session earlier record with
  | nil =>
      change session.HasLogged (earlier ++ []) record
      rwa [List.append_nil]
  | cons command rest ih =>
      have hafter := (hrest.attempt fun given hgiven =>
        hbinds given (hgiven ▸ List.mem_cons_self)).1
      have hend := ih (hlogged.attempt hrest command).cleared hafter.cleared fun given hmem =>
        hbinds given (List.mem_cons_of_mem _ hmem)
      rw [List.append_assoc] at hend
      rw [List.mapM_cons, Action.bind_apply, report_apply rfl, Action.bind_apply]
      exact hend

end HasLogged

theorem report_log (command : Except Complaint Command) (session : Session) :
    (report command session).1.log = ((attempt command).run session).2.machine.log := by
  rcases hrun : (attempt command).run session with ⟨outcome, after⟩
  rw [report_apply hrun]

/-- What a session has written is reported after each step. -/
theorem log_mapM_report (hlog : session.machine.log = [])
    (commands : List (Except Complaint Command)) :
    (commands.mapM report session).2.machine.log = [] := by
  induction commands generalizing session with
  | nil => exact hlog
  | cons command rest ih =>
      rw [List.mapM_cons, Action.bind_apply, report_apply rfl, Action.bind_apply]
      exact ih rfl

theorem afterSteps_hasLogged (isFresh : Bool) {commands : List (Except Complaint Command)}
    (hbinds : ∀ command, .ok command ∈ commands → command.BindsSessionFunctions) :
    (afterSteps isFresh commands).HasLogged (logged isFresh commands) (.of isFresh commands) ∧
      (afterSteps isFresh commands).machine.log = [] :=
  ⟨(HasLogged.start isFresh).mapM_report (.start isFresh) hbinds, log_mapM_report rfl commands⟩

/-- What the lines of a session tell of it, from its start to a state with a record of its
registries. -/
structure LogTells (session : Session) (record : RegistryRecord) (lines : List LogLine) : Prop where
  identities : lines.filterMap LogLine.allocated? = session.machine.identities
  numbered : ∀ index identity, (lines.filterMap LogLine.allocated?)[index]? = some identity →
    ∃ type, identity = ⟨index + 1, some type⟩ ∧
      (LogLine.allocated identity).content = "allocated type id " ++
        Decimal.naturalText (index + 1) ++ " for " ++ type.name ++ " (" ++ type.typeClass.name ++
          ")"
  allocatedOnce : ((lines.filterMap LogLine.allocated?).map TypeIdentity.type?).Nodup
  used : ∀ type, LogLine.Allocate lines type ↔ (session.machine.identity? type).isSome
  tables : lines.filterMap LogLine.built? = session.machine.tables.map OperationTable.type
  builtOnce : (lines.filterMap LogLine.built?).Nodup
  builtBehind : ∀ before type, before ++ [.builtTable type] <+: lines →
    LogLine.Allocate before type
  values : ∀ name cell type, session.cells.get? name = some cell → cell.type? = some type →
    .builtTable type ∈ lines
  ready : lines.countP LogLine.isReady =
    record.installations + session.machine.global?.isSome.toNat
  readyBehind : ∀ before number, before ++ [.registryReady number] <+: lines →
    number = BuiltIn.all.length ∧ ∀ builtIn ∈ BuiltIn.all,
      LogLine.Allocate before builtIn.source ∧ LogLine.Allocate before builtIn.dest
  replaced : lines.filterMap LogLine.replaced? = record.replacements
  global : ∀ registry, session.machine.global? = some registry →
    registry.Follows session.machine record.global
  named : ∀ name, Option.Rel (fun registry history => registry.Follows session.machine history)
    (session.registries.get? name) (record.named.get? name)

theorem HasLogged.tells {lines : List LogLine} (hlogged : session.HasLogged lines record)
    (hlog : session.machine.log = []) (hrest : session.AtRest) : session.LogTells record lines := by
  have hprogram := hlogged.program
  rw [hlog, List.append_nil] at hprogram
  have hcoherent := hprogram.coherent
  exact {
    identities := hprogram.allocated
    numbered := fun index identity hget => by
      rw [hprogram.allocated] at hget
      obtain ⟨hnumber, htype⟩ := hcoherent.numbered index identity hget
      obtain ⟨type, htype⟩ := Option.isSome_iff_exists.mp htype
      obtain ⟨number, type?⟩ := identity
      cases hnumber
      cases htype
      exact ⟨type, rfl, rfl⟩
    allocatedOnce := hprogram.allocated ▸ hcoherent.distinct
    used := fun type => by
      refine ⟨?_, hprogram.allocate⟩
      rintro ⟨identity, hline, htype⟩
      have hmem : identity ∈ session.machine.identities := by
        rw [← hprogram.allocated, LogLine.mem_allocated]
        exact hline
      rw [hcoherent.identity?_eq_some_iff.mpr ⟨hmem, htype⟩]
      rfl
    tables := hprogram.built
    builtOnce := hprogram.built ▸ hcoherent.once
    builtBehind := fun before type hbefore =>
      hprogram.behind before _ hbefore type (List.mem_singleton_self type)
    values := fun name cell type hget htype => by
      obtain ⟨holdings, howns⟩ := hrest.owns
      obtain ⟨holding?, -, hholds⟩ := howns.exists_holding hget
      have hlisted : ∃ table ∈ session.machine.tables, table.type = type := by
        cases hholds with
        | empty => cases htype
        | direct hlisted => exact ⟨_, hlisted, Option.some.inj htype⟩
        | boxed hlisted => exact ⟨_, hlisted, Option.some.inj htype⟩
      rw [← LogLine.mem_built, hprogram.built]
      exact List.mem_map.mpr hlisted
    ready := hprogram.ready
    readyBehind := fun before number hbefore => by
      have hneeds := hprogram.behind before _ hbefore
      refine ⟨hprogram.conversions number (hbefore.subset (List.mem_append_right _
        (List.mem_singleton_self _))), fun builtIn hmem => ⟨?_, ?_⟩⟩
      · exact hneeds _ (List.mem_flatMap.mpr ⟨builtIn, hmem, List.mem_cons_self⟩)
      · exact hneeds _ (List.mem_flatMap.mpr ⟨builtIn, hmem,
          List.mem_cons_of_mem _ (List.mem_singleton_self _)⟩)
    replaced := hprogram.replaced
    global := fun registry hregistry => hprogram.global registry hregistry
    named := hlogged.named }

/-- What the lines of a single command tell, in a state of a session with a record of its
registries. -/
structure StepTells (session : Session) (record : RegistryRecord)
    (command : Except Complaint Command) (lines : List LogLine) : Prop where
  replaced : lines.filterMap LogLine.replaced? = record.replacing command
  installed : ∀ name, command = .ok (.newRegistry name .builtIns) →
    ∃ installation, (∀ line ∈ installation, line.allocated?.isSome) ∧
      lines = installation ++ [.registryReady BuiltIn.all.length]
  silent : ∀ given, command = .ok given → given.ConvertsAmongSeen session → lines = []

theorem HasLogged.stepTells {lines : List LogLine} (hlogged : session.HasLogged lines record)
    (hlog : session.machine.log = []) (hrest : session.AtRest)
    (command : Except Complaint Command) :
    session.StepTells record command (report command session).1.log := by
  have hafter := (hlogged.attempt hrest command).program.replaced
  have hbefore := hlogged.program.replaced
  rw [report_log]
  rw [hlog, List.append_nil] at hbefore
  rw [List.filterMap_append, hbefore, record.after_replacements] at hafter
  refine ⟨List.append_cancel_left hafter, ?_, ?_⟩
  · rintro name rfl
    obtain ⟨installation, hlines, hwritten⟩ :=
      Registry.withBuiltIns_log hlogged.program.coherent
    rw [hlog, List.nil_append] at hwritten
    rcases hmade : Registry.withBuiltIns session.machine with ⟨registry, machine⟩
    rw [hmade] at hwritten
    have hrun : (Session.attempt (.ok (.newRegistry name .builtIns))).run session = _ :=
      newRegistry_run name hmade
    rw [hrun]
    exact ⟨installation, hlines, hwritten⟩
  · rintro given rfl hamong
    exact (step_silent hamong).program.log.trans hlog

/-- In every run of a session, the log accounts for what the session has used. There is one line for
each type with an identity, and these lines number the types from one upwards in their order. There
is at most one line about the table of a type, after the one about its identity. Each registry that
is made with the built-in conversions is reported once, after the identities of all their types, and
the global registry is made at most once. A conversion is reported as replaced exactly if it is
registered for a pair of types that has a live conversion in that registry at that moment. And a
conversion by a registry that is there, with types only that have an identity and a table, adds no
line, whether it succeeds or fails. -/
theorem log_accounts_for_runs (isFresh : Bool) (commands : List (Except Complaint Command))
    (hcommands : ∀ command, .ok command ∈ commands → command.BindsSessionFunctions)
    (next : Except Complaint Command) :
    let session := afterSteps isFresh commands
    let lines := (report next session).1.log
    session.LogTells (.of isFresh commands) (logged isFresh commands) ∧
      session.StepTells (.of isFresh commands) next lines ∧
      logged isFresh (commands ++ [next]) = logged isFresh commands ++ lines := by
  obtain ⟨hlogged, hlog⟩ := afterSteps_hasLogged isFresh hcommands
  have hrest := afterSteps_atRest isFresh hcommands
  refine ⟨hlogged.tells hlog hrest, hlogged.stepTells hlog hrest next, ?_⟩
  have hnext : ([next].mapM report (afterSteps isFresh commands)).1 =
      [(report next (afterSteps isFresh commands)).1] := by
    rw [List.mapM_cons]
    rfl
  unfold logged reports
  rw [mapM_report_append, List.flatMap_append]
  exact congrArg _ (congrArg _ hnext |>.trans (List.flatMap_singleton ..))

/-- Two conversions that are registered for the same pair of types, one after the other. -/
def replacingSession : List (Except Complaint Command) :=
  [.ok (.newRegistry "answers" .nothing),
    .ok (.new "flag" (.ok (some ⟨.boolean, true⟩))),
    .ok (.table (.ok .text)),
    .ok (.register (.named "answers") (.ok ⟨.boolean, .text, .failing .inexact⟩)),
    .ok (.register (.named "answers") (.ok ⟨.boolean, .text, .constant "yes"⟩))]

/-- Both types are known by then, so what the second conversion does is not seen in the log. -/
theorem second_conversion_is_logged_once :
    (∀ command, .ok command ∈ replacingSession → command.BindsSessionFunctions) ∧
      (afterSteps true replacingSession).LogTells (.of true replacingSession)
        [.allocated ⟨1, some .boolean⟩, .builtTable .boolean, .allocated ⟨2, some .text⟩,
          .builtTable .text, .replaced .boolean .text] ∧
      (report (.ok (.coerce (.named "answers") "flag" (.ok .text)))
        (afterSteps true replacingSession)).1.log = [] := by
  have hcommands : ∀ command, .ok command ∈ replacingSession → command.BindsSessionFunctions := by
    simp only [replacingSession, List.mem_cons, Except.ok.injEq, List.not_mem_nil, or_false]
    rintro command (rfl | rfl | rfl | rfl | rfl) <;> trivial
  have hruns := log_accounts_for_runs true replacingSession hcommands
    (.ok (.coerce (.named "answers") "flag" (.ok .text)))
  have hlines : logged true replacingSession =
      [.allocated ⟨1, some .boolean⟩, .builtTable .boolean, .allocated ⟨2, some .text⟩,
        .builtTable .text, .replaced .boolean .text] := by decide +kernel
  have hboolean : (afterSteps true replacingSession).machine.HasSeen .boolean := by
    constructor <;> decide +kernel
  have htext : (afterSteps true replacingSession).machine.HasSeen .text := by
    constructor <;> decide +kernel
  have hflag : ((afterSteps true replacingSession).cells.get? "flag").map Cell.type? =
      some (some .boolean) := by decide +kernel
  have hhistory : (RegistryRecord.of true replacingSession).named.get? "answers" =
      some ([.register .boolean .text ((ConversionScript.failing .inexact).conversion .boolean)] ++
        [.register .boolean .text ((ConversionScript.constant "yes").conversion .boolean)]) := rfl
  rw [hlines] at hruns
  obtain ⟨htells, hstep, -⟩ := hruns
  refine ⟨hcommands, htells, hstep.silent _ rfl ?_⟩
  rintro dest hdest
  cases hdest
  have hnamed := htells.named "answers"
  rw [hhistory] at hnamed
  cases hregistry : (afterSteps true replacingSession).registries.get? "answers" with
  | none =>
      rw [hregistry] at hnamed
      cases hnamed
  | some registry =>
      rw [hregistry, Option.rel_some_some] at hnamed
      refine ⟨registry, hregistry, fun cell hcell => ?_⟩
      rw [hcell] at hflag
      rw [Option.some.inj hflag]
      refine hnamed.convertsAmong hboolean htext fun conversion hlive value => ?_
      rw [liveConversion?_register_self] at hlive
      rw [← Option.some.inj hlive]
      trivial

end Session

end DynamicValue
