/-
# Sessions that are alike

Two sessions are alike if their programs are and if they have the same variables, registries and
environments, up to what belongs to their programs. The parts of which commands are made then do the
same in both.
-/

import DynamicValue.Proofs.Likeness.Assignment
import DynamicValue.Proofs.Likeness.Native
import DynamicValue.Proofs.Session.Holdings

namespace DynamicValue

/-- Two sessions that differ in nothing but what their programs know about types. -/
structure Session.Alike (first second : Session) : Prop where
  machine : first.machine.Alike second.machine
  cells : ∀ name, Option.Rel (Cell.Alike first.machine second.machine) (first.cells.get? name)
    (second.cells.get? name)
  registries : ∀ name, Option.Rel (Registry.Alike first.machine second.machine)
    (first.registries.get? name) (second.registries.get? name)
  environments : first.environments = second.environments
  functions : ∀ name environment, first.environments.get? name = some environment →
    environment.IsOfSessions
  isFresh : first.isFresh = second.isFresh

instance : Likeness Session := ⟨Session.machine, Session.Alike⟩

/-- The programs of sessions that are alike are alike. -/
theorem Later.programs {first second first' second' : Session}
    (hlater : Later first second first' second') :
    Later first.machine second.machine first'.machine second'.machine :=
  ⟨hlater.alike.machine, hlater.first, hlater.second⟩

namespace Session

variable {α β γ δ : Type} {first second : Session} {name : String}

/-! ## Changes of sessions -/

namespace Alike

/-- Entries that correspond in one way may correspond in another. -/
theorem rel_mono {relation relation' : α → β → Prop}
    (himp : ∀ value value', relation value value' → relation' value value') {found? : Option α}
    {other? : Option β} (hfound : Option.Rel relation found? other?) :
    Option.Rel relation' found? other? := by
  cases hfound with
  | some hvalues => exact .some (himp _ _ hvalues)
  | none => exact .none

/-- Programs that go on leave the variables and the registries as they are. -/
theorem withMachine (halike : first.Alike second) {machine other : Machine}
    (hlater : Later first.machine second.machine machine other) :
    Later first second { first with machine := machine } { second with machine := other } where
  alike := {
    machine := hlater.alike
    cells := fun name => rel_mono (fun _ _ hcells => hcells.later hlater) (halike.cells name)
    registries := fun name =>
      rel_mono (fun _ _ hregistries => hregistries.mono hlater.first hlater.alike.coherent
        hlater.second hlater.alike.otherCoherent) (halike.registries name)
    environments := halike.environments
    functions := halike.functions
    isFresh := halike.isFresh }
  first := hlater.first
  second := hlater.second

theorem withCells (halike : first.Alike second) {cells cells' : Directory Cell}
    (hcells : ∀ name, Option.Rel (Cell.Alike first.machine second.machine) (cells.get? name)
      (cells'.get? name)) :
    Later first second { first with cells := cells } { second with cells := cells' } where
  alike := { halike with cells := hcells }
  first := .refl _
  second := .refl _

theorem get?_insert {relation : α → β → Prop} {directory : Directory α} {other : Directory β}
    (hentries : ∀ name, Option.Rel relation (directory.get? name) (other.get? name)) (name : String)
    {value : α} {value' : β} (hvalues : relation value value') (found : String) :
    Option.Rel relation ((directory.insert name value).get? found)
      ((other.insert name value').get? found) := by
  rw [Directory.get?_insert, Directory.get?_insert]
  split
  · exact .some hvalues
  · exact hentries found

theorem get?_erase {relation : α → β → Prop} {directory : Directory α} {other : Directory β}
    (hentries : ∀ name, Option.Rel relation (directory.get? name) (other.get? name))
    (name found : String) :
    Option.Rel relation ((directory.erase name).get? found) ((other.erase name).get? found) := by
  rw [Directory.get?_erase, Directory.get?_erase]
  split
  · exact .none
  · exact hentries found

end Alike

/-! ## Parts of commands -/

/-- A part of a command that can be read is the same on both sides. -/
theorem reading_agrees (halike : first.Alike second) (reading : Reading α)
    {next : α → SessionAction γ} {next' : α → SessionAction δ}
    {final : Session → Session → γ → δ → Prop}
    (hnext : ∀ value, Agree first second (next value) (next' value) final) :
    Agree first second (read reading >>= next) (read reading >>= next') final := by
  cases reading with
  | error complaint => exact .throw halike _
  | ok value => exact hnext value

/-- Something that is looked up is there on both sides or missing on both. -/
theorem orComplain_agrees (halike : first.Alike second) (complaint : Complaint)
    {relation : α → β → Prop} {found? : Option α} {other? : Option β}
    (hfound : Option.Rel relation found? other?) :
    Agree first second (orComplain complaint found?) (orComplain complaint other?)
      fun _ _ => relation := by
  cases hfound with
  | some hvalues => exact .pure halike hvalues
  | none => exact .throw halike _

/-- A look at the session that depends on nothing but the session. -/
theorem looking_agrees (halike : first.Alike second) {next : Session → SessionAction γ}
    {next' : Session → SessionAction δ} {final : Session → Session → γ → δ → Prop}
    (hnext : Agree first second (next first) (next' second) final) :
    Agree first second (get >>= next) (get >>= next') final := by
  refine (Agree.get halike).bind ?_
  rintro _ _ _ _ - ⟨rfl, rfl, rfl, rfl⟩
  exact hnext

/-- A variable that is looked up. -/
theorem lookingUp_agrees (halike : first.Alike second) (name : String)
    {next : Cell → SessionAction γ} {next' : Cell → SessionAction δ}
    {final : Session → Session → γ → δ → Prop}
    (hnext : ∀ cell cell', cell.Alike first.machine second.machine cell' →
      Agree first second (next cell) (next' cell') final) :
    Agree first second (valueOf name >>= next) (valueOf name >>= next') final := by
  have hfound := halike.cells name
  unfold valueOf
  rw [bind_assoc, bind_assoc]
  refine looking_agrees halike ?_
  generalize first.cells.get? name = cell? at hfound ⊢
  generalize second.cells.get? name = cell'? at hfound ⊢
  cases hfound with
  | some hcells => exact hnext _ _ hcells
  | none => exact .throw halike _

section Running

variable (halike : first.Alike second)
include halike

omit halike in
theorem running_agrees {action : Action Session α} {other : Action Session β}
    {values : Session → Session → α → β → Prop}
    (hparts : Agree first second action other values) :
    Agree first second (running action) (running other) values := by
  obtain ⟨hlater, hends⟩ := hparts
  rcases haction : action.run first with ⟨outcome, first'⟩
  rcases hother : other.run second with ⟨outcome', second'⟩
  rw [haction, hother] at hlater hends
  refine .of_run (run_running haction) (run_running hother) hlater ?_
  cases hends with
  | ok hvalues => exact .ok hvalues
  | error hfailures => exact .error (congrArg Failure.halted hfailures)

theorem programAction_agrees {action : Action Machine α} {other : Action Machine β}
    {values : Machine → Machine → α → β → Prop}
    (hparts : Agree first.machine second.machine action other values) :
    Agree first second (programAction action) (programAction other) fun first second =>
      values first.machine second.machine :=
  hparts.within (fun _ _ hlater => halike.withMachine hlater) fun _ _ _ _ _ hvalues => hvalues

theorem onMachine_agrees {action : Action Machine α} {other : Action Machine β}
    {values : Machine → Machine → α → β → Prop}
    (hparts : Agree first.machine second.machine action other values) :
    Agree first second (onMachine action) (onMachine other) fun first second =>
      values first.machine second.machine :=
  running_agrees (programAction_agrees halike hparts)

/-- An action on a variable. -/
theorem onVariable_agrees (name : String) {action action' : Action Focus α}
    (values : Machine → Machine → α → α → Prop)
    (haction : ∀ cell cell', cell.Alike first.machine second.machine cell' →
      Agree ⟨first.machine, cell⟩ ⟨second.machine, cell'⟩ action action' fun changed changed' =>
        values changed.machine changed'.machine) :
    Agree first second (onVariable name action) (onVariable name action') fun first second =>
      values first.machine second.machine := by
  refine lookingUp_agrees halike name fun cell cell' hcells => ?_
  have hparts : Agree (Focus.mk first.machine cell) (Focus.mk second.machine cell') action action'
      fun changed changed' => values changed.machine changed'.machine := haction cell cell' hcells
  refine running_agrees (Agree.within hparts ?_ fun _ _ _ _ _ hvalues => hvalues)
  intro changed changed' hchanged
  have hlater := halike.withMachine ⟨hchanged.alike.1, hchanged.first, hchanged.second⟩
  exact hlater.trans (hlater.alike.withCells
    (Alike.get?_insert hlater.alike.cells name hchanged.alike.2))

/-- A value that is stored in a variable. -/
theorem store_agrees (name : String) {cell cell' : Cell}
    (hcells : cell.Alike first.machine second.machine cell') :
    Agree first second (store name cell) (store name cell') Same := by
  have hset := halike.withCells (Alike.get?_insert halike.cells name hcells)
  have hold := halike.cells name
  refine running_agrees ((Agree.get halike).bind ?_)
  rintro _ _ _ _ - ⟨rfl, rfl, rfl, rfl⟩
  have hsets : Agree first second
      (set { first with cells := first.cells.insert name cell } : Action Session PUnit)
      (set { second with cells := second.cells.insert name cell' }) fun changed changed' _ _ =>
        { first with cells := first.cells.insert name cell } = changed ∧
          { second with cells := second.cells.insert name cell' } = changed' :=
    .of_run (Action.run_set _ _) (Action.run_set _ _) hset (.ok ⟨rfl, rfl⟩)
  refine hsets.bind ?_
  rintro _ _ _ _ hlater ⟨rfl, rfl⟩
  generalize first.cells.get? name = old? at hold ⊢
  generalize second.cells.get? name = old'? at hold ⊢
  cases hold with
  | none => exact .pure hlater.alike rfl
  | some hcells =>
      exact programAction_agrees hlater.alike (Cell.destroy_agrees hlater.alike.machine hcells)

omit halike in
/-- A step that is carried out while the command holds something that ends in the same way on both
sides. -/
theorem holding_agrees {destroy destroy' giveUp giveUp' : Action Machine Unit}
    {action : SessionAction α} {other : SessionAction β}
    {values : Session → Session → α → β → Prop}
    (hdestroy : ∀ machine other', Later first.machine second.machine machine other' →
      Agree machine other' destroy destroy' Same)
    (hgiveUp : ∀ machine other', Later first.machine second.machine machine other' →
      Agree machine other' giveUp giveUp' Same)
    (hparts : Agree first second action other values) :
    Agree first second (holding destroy giveUp action) (holding destroy' giveUp' other) values := by
  obtain ⟨hlater, hends⟩ := hparts
  rcases haction : action.run first with ⟨outcome, first'⟩
  rcases hother : other.run second with ⟨outcome', second'⟩
  rw [haction, hother] at hlater hends
  cases hends with
  | ok hvalues =>
      have hheld := run_holding_ok destroy giveUp haction
      have hheld' := run_holding_ok destroy' giveUp' hother
      exact .of_run hheld hheld' hlater (.ok hvalues)
  | error hfailures =>
      subst hfailures
      rename_i failure
      cases failure with
      | complaint complaint =>
          have hheld := run_holding_complaint destroy giveUp haction
          have hheld' := run_holding_complaint destroy' giveUp' hother
          have hends : Agree first' second'
              (do onMachine destroy; complain complaint : SessionAction α)
              (do onMachine destroy'; complain complaint : SessionAction β) values :=
            (onMachine_agrees hlater.alike (hdestroy _ _ hlater.programs)).bind
              fun _ _ _ _ hlater _ => .throw hlater.alike _
          unfold Agree
          rw [hheld, hheld']
          exact ⟨hlater.trans hends.1, hends.2⟩
      | halted halt =>
          have hheld := run_holding_halted destroy giveUp haction
          have hheld' := run_holding_halted destroy' giveUp' hother
          have hgiven := programAction_agrees hlater.alike (hgiveUp _ _ hlater.programs)
          exact .of_run hheld hheld' (hlater.trans hgiven.1) (.error rfl)

omit halike in
theorem holdingInstance_agrees (held : Instance) {action : SessionAction α}
    {other : SessionAction β} {values : Session → Session → α → β → Prop}
    (hparts : Agree first second action other values) :
    Agree first second (holdingInstance held action) (holdingInstance held other) values :=
  holding_agrees (fun _ _ hlater => hlater.alike.destroy held)
    (fun _ _ hlater => hlater.alike.discard held) hparts

omit halike in
theorem holdingCells_agrees {held held' : List Cell}
    (hcells : List.Forall₂ (Cell.Alike first.machine second.machine) held held')
    {action : SessionAction α} {other : SessionAction β}
    {values : Session → Session → α → β → Prop}
    (hparts : Agree first second action other values) :
    Agree first second (holdingCells held action) (holdingCells held' other) values :=
  holding_agrees
    (fun _ _ hlater => Cell.destroyAll_agrees hlater.alike (Cell.Alike.laterAll hcells hlater))
    (fun _ _ hlater => Cell.discardAll_agrees hlater.alike (Cell.Alike.laterAll hcells hlater))
    hparts

/-! ## Registries and environments -/

theorem requireRegistry_agrees (name : RegistryName) :
    Agree first second (requireRegistry name) (requireRegistry name) Same := by
  cases name with
  | global => exact .pure halike rfl
  | named name =>
      refine looking_agrees halike ?_
      exact (orComplain_agrees halike _ (halike.registries name)).answer fun _ _ _ _ _ _ => rfl

theorem registry_agrees (name : RegistryName) :
    Agree first second (registry name) (registry name) fun first second registry registry' =>
      registry.Alike first.machine second.machine registry' := by
  cases name with
  | global => exact onMachine_agrees halike halike.machine.globalRegistry
  | named name =>
      have hfound := halike.registries name
      refine looking_agrees halike ?_
      generalize first.registries.get? name = registry? at hfound ⊢
      generalize second.registries.get? name = registry'? at hfound ⊢
      cases hfound with
      | some hregistries => exact .pure halike hregistries
      | none => exact .throw halike _

theorem setRegistry_agrees (name : RegistryName) {registry registry' : Registry}
    (hregistries : registry.Alike first.machine second.machine registry') :
    Agree first second (setRegistry name registry) (setRegistry name registry') Same := by
  cases name with
  | global => exact onMachine_agrees halike (halike.machine.setGlobalRegistry hregistries)
  | named name =>
      have hentries := Alike.get?_insert halike.registries name hregistries
      exact .of_run (Action.run_modify _ _) (Action.run_modify _ _)
        ⟨{ halike with registries := hentries }, .refl _, .refl _⟩ (.ok rfl)

theorem requireChangeable_agrees (name : RegistryName) :
    Agree first second (requireChangeable name) (requireChangeable name) Same := by
  refine looking_agrees halike ?_
  rw [halike.isFresh]
  split
  · exact .throw halike _
  · exact .pure halike rfl

/-- Both sessions have the same environments. -/
theorem environment_agrees (name : String) {next : Environment → SessionAction γ}
    {next' : Environment → SessionAction δ} {final : Session → Session → γ → δ → Prop}
    (hnext : ∀ environment : Environment, environment.IsOfSessions →
      Agree first second (next environment) (next' environment) final) :
    Agree first second (environment name >>= next) (environment name >>= next') final := by
  unfold environment
  rw [bind_assoc, bind_assoc]
  refine looking_agrees halike ?_
  rw [← halike.environments]
  cases hfound : first.environments.get? name with
  | some environment => exact hnext environment (halike.functions name environment hfound)
  | none => exact .throw halike _

theorem setEnvironment_agrees (name : String) {environment : Environment}
    (henvironment : environment.IsOfSessions) :
    Agree first second (setEnvironment name environment) (setEnvironment name environment)
      Same := by
  refine .of_run (Action.run_modify _ _) (Action.run_modify _ _)
    ⟨{ halike with environments := ?_, functions := ?_ }, .refl _, .refl _⟩ (.ok rfl)
  · exact congrArg (·.insert name environment) halike.environments
  · intro found environment' hfound
    rw [Directory.get?_insert] at hfound
    split at hfound
    · exact Option.some.inj hfound ▸ henvironment
    · exact halike.functions found environment' hfound

/-- Each program hands out identities of its own. -/
theorem identityOf_agrees (type? : Reading (Option ValueType)) :
    Agree first second (identityOf type?) (identityOf type?) fun first second identity identity' =>
      identity.Alike first.machine second.machine identity' := by
  refine reading_agrees halike type? fun type? => ?_
  cases type? with
  | none =>
      have hnull := TypeIdentity.Alike.null first.machine second.machine
      exact onMachine_agrees halike (.pure halike.machine hnull)
  | some type => exact onMachine_agrees halike (halike.machine.identify type)

end Running

end Session

end DynamicValue
