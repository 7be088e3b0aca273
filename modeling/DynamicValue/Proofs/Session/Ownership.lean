/-
# Who owns the payloads of a session

A session of variable steps has, at any time, each payload that was created and not yet destroyed in
exactly one variable, also right after a step that panicked. So at its end each payload that was
ever created has been destroyed exactly once. Steps that move a payload from one variable to
another, or out of a variable, move this very payload: they create nothing, and they destroy nothing
but what was in the place that the payload goes to.
-/

import DynamicValue.Proofs.Session.Settling
import DynamicValue.Proofs.Session.Simulation

namespace DynamicValue

/-- The steps that make, change, move, unwrap, look at or remove variables, and those that ask for
their values as other types. -/
def Command.isVariableStep : Command → Bool
  | new .. | clone .. | assign .. | assignValue .. | swap .. | take .. | reset .. | drop ..
  | intoInner .. | holds .. | downcast .. | mutate .. | append .. | get .. | tryGet ..
  | getToMut .. => true
  | _ => false

namespace Session

/-- The payload that a variable holds, with its serial number, as it is read out of the variable. -/
def instanceIn? (session : Session) (name : String) : Option Instance :=
  (session.cells.get? name).bind fun cell =>
    (cell.contents?.run session.machine).1.toOption.join

/-- The payloads that have been created and not yet destroyed are those that the variables hold,
each of them one; and no payload was destroyed twice, or before it was created. -/
structure Conserves (session : Session) : Prop where
  held : ∀ serial, (∃ name contents, session.instanceIn? name = some contents ∧
    contents.serial = serial) ↔
      serial < session.machine.created ∧ serial ∉ session.machine.destroyed
  once : ∀ first second contents other, session.instanceIn? first = some contents →
    session.instanceIn? second = some other → contents.serial = other.serial → first = second
  destroyedOnce : session.machine.destroyed.Nodup
  created : ∀ serial ∈ session.machine.destroyed, serial < session.machine.created

section Ownership

variable {session : Session} {holdings : Directory (Option Holding)} {pending : List Holding}
  {name : String}

/-! ## From holdings to instances -/

theorem Owns.instanceIn?_eq (howns : session.Owns holdings pending) (name : String) :
    session.instanceIn? name = (holdings.get? name).join.map Holding.contents := by
  unfold instanceIn?
  cases hget : session.cells.get? name with
  | none => rw [howns.get?_eq_none_iff.mpr hget]; rfl
  | some cell =>
      obtain ⟨holding?, hheld, hholds⟩ := howns.exists_holding hget
      rw [hheld, Option.bind_some,
        Cell.contents?_run howns.accounts hholds (Owns.mem_accounts hheld)]
      rfl

theorem Owns.instanceIn?_of_held {holding? : Option Holding} (howns : session.Owns holdings pending)
    (hheld : holdings.get? name = some holding?) :
    session.instanceIn? name = holding?.map Holding.contents := by
  rw [howns.instanceIn?_eq, hheld]
  rfl

/-- Whatever is held is held by a variable. -/
theorem exists_name_of_mem {holding : Holding} (hmem : holding ∈ holdings.values.reduceOption) :
    ∃ name, holdings.get? name = some (some holding) := by
  obtain ⟨⟨name, holding?⟩, hentry, hvalue⟩ := List.mem_map.mp (List.reduceOption_mem_iff.mp hmem)
  obtain rfl : holding? = some holding := hvalue
  exact ⟨name, Directory.mem_entries_iff.mp hentry⟩

theorem Owns.instanceIn?_eq_some_iff (howns : session.Owns holdings pending) {contents : Instance} :
    session.instanceIn? name = some contents ↔
      ∃ holding : Holding, holdings.get? name = some (some holding) ∧
        holding.contents = contents := by
  rw [howns.instanceIn?_eq, Option.map_eq_some_iff]
  simp only [Option.join_eq_some_iff]

/-- No two variables hold the same payload. -/
theorem Owns.name_eq_of_serial_eq (howns : session.Owns holdings []) {first second : String}
    {holding other : Holding} (hfirst : holdings.get? first = some (some holding))
    (hsecond : holdings.get? second = some (some other)) (hserial : holding.serial = other.serial) :
    first = second := by
  by_contra hne
  have hlisted : holding :: others holdings first =
      (some holding).toList ++ others holdings first := rfl
  have haccounts := howns.accounts.perm (held_perm hfirst)
  rw [← hlisted] at haccounts
  have hnodup := haccounts.nodup.of_append_left
  rw [List.map_cons, List.nodup_cons, hserial] at hnodup
  exact hnodup.1 (List.mem_map_of_mem (mem_others hsecond (Ne.symm hne)))

/-- A session whose variables account for its program conserves its payloads. -/
theorem Owns.conserves (howns : session.Owns holdings []) : session.Conserves := by
  have hinstances := howns.accounts.instances
  have hnodup := howns.accounts.nodup
  rw [List.nil_append] at hinstances hnodup
  constructor
  · intro serial
    have hmem : serial ∈ holdings.values.reduceOption.map Holding.serial ++
        session.machine.destroyed ↔ serial ∈ List.range session.machine.created :=
      hinstances.mem_iff
    rw [List.mem_append, List.mem_range] at hmem
    constructor
    · rintro ⟨name, contents, hcontents, rfl⟩
      obtain ⟨holding, hheld, rfl⟩ := howns.instanceIn?_eq_some_iff.mp hcontents
      have hserial : holding.contents.serial ∈ holdings.values.reduceOption.map Holding.serial :=
        List.mem_map_of_mem (f := Holding.serial) (mem_held hheld)
      refine ⟨hmem.mp (Or.inl hserial), fun hdestroyed => ?_⟩
      exact (List.nodup_append.mp hnodup).2.2 _ hserial _ hdestroyed rfl
    · rintro ⟨hcreated, hlive⟩
      rcases hmem.mpr hcreated with hheld | hdestroyed
      · obtain ⟨holding, hmember, rfl⟩ := List.mem_map.mp hheld
        obtain ⟨name, hname⟩ := exists_name_of_mem hmember
        exact ⟨name, holding.contents, howns.instanceIn?_eq_some_iff.mpr ⟨holding, hname, rfl⟩, rfl⟩
      · exact absurd hdestroyed hlive
  · intro first second contents other hfirst hsecond hserial
    obtain ⟨holding, hheld, rfl⟩ := howns.instanceIn?_eq_some_iff.mp hfirst
    obtain ⟨holding', hheld', rfl⟩ := howns.instanceIn?_eq_some_iff.mp hsecond
    exact howns.name_eq_of_serial_eq hheld hheld' hserial
  · exact hnodup.of_append_right
  · intro serial hdestroyed
    exact List.mem_range.mp (hinstances.mem_iff.mp (List.mem_append_right _ hdestroyed))

/-! ## The steps -/

/-- A copy that is made and given up at once settles. -/
theorem copying_settles {β : Type} {machine : Machine} {accounted : List Holding}
    (hcoherent : machine.Coherent) (haccounts : machine.Accounts accounted) (lent : Instance)
    (value : β) :
    Action.Settles machine accounted (do
      let copied ← Machine.clone lent
      let _ ← Machine.destroy copied
      return value) := by
  cases hcopied : lent.payload.copied with
  | error halt =>
      exact .bind_of_error _ (Machine.clone_run_error hcopied machine)
        (.advance hcoherent (haccounts.report _))
  | ok copied =>
      have hmade := haccounts.create copied lent.payload.copyEvents
      have hcoherent := hcoherent.advance machine.heap 1 [] lent.payload.copyEvents
      refine .bind_of_ok (Machine.clone_run_ok hcopied machine) (.advance _ _ _ _ _) ?_
      refine Action.Settles.bind (destroying_settles hcoherent hmade) ?_
      exact fun _ after _ hafter => .pure hafter.coherent hafter.accounts _

theorem get_settles (howns : session.Owns holdings pending) (name : String)
    (type : Reading ValueType) : Settles session holdings pending (step (.get name type)) := by
  refine Settles.reading howns type fun type => ?_
  refine Settles.lookingUp howns name fun cell holding? hholds hsub => ?_
  exact (Settles.onMachine howns
    (Cell.get_settles howns.coherent howns.accounts hholds hsub type)).answer _

theorem tryGet_settles (howns : session.Owns holdings pending) (name : String)
    (type : Reading ValueType) : Settles session holdings pending (step (.tryGet name type)) := by
  refine Settles.reading howns type fun type => ?_
  refine Settles.lookingUp howns name fun cell holding? hholds hsub => ?_
  exact (Settles.onMachine howns
    (Cell.tryGet_settles howns.coherent howns.accounts hholds hsub type)).answer _

/-- The payload that is to be written is held until the access is over. The variables hold what they
held before. -/
theorem getToMut_settles (howns : session.Owns holdings []) (name : String)
    (payload : Reading Payload) :
    Settles session holdings [] (step (.getToMut name payload)) := by
  refine Settles.reading howns payload fun payload => ?_
  refine creating_ends payload (.refl howns) fun contents made hmade => ?_
  refine Action.Ends.bind
    ((Settles.holdingInstance (?_ : Settles made holdings [.loose contents] _)).imp
      (fun _ _ hafter => hafter) fun _ hafter => hmade.trans hafter) fun result after hafter => ?_
  · refine Settles.lookingUp hmade.owns name fun cell holding? hholds hsub => ?_
    refine Settles.onMachine hmade.owns (Action.Settles.bind (Cell.get_settles hmade.owns.coherent
      hmade.owns.accounts hholds hsub payload.type) fun result after _ hafter => ?_)
    cases result with
    | error error => exact .pure hafter.coherent hafter.accounts _
    | ok access =>
        simp only []
        split
        · refine .bind_of_ok (Cell.instanceOf?_run hafter.accounts
            (hholds.mono hafter.knows) hsub payload.type) (.refl _) ?_
          split
          · exact copying_settles hafter.coherent hafter.accounts _ _
          · exact .pure hafter.coherent hafter.accounts _
        · exact .pure hafter.coherent hafter.accounts _
  · have hdestroy : (Machine.destroy contents).Settles after.machine
        ([] ++ holdings.values.reduceOption) :=
      destroying_settles hafter.owns.coherent hafter.owns.accounts
    exact ((hmade.trans hafter).released hdestroy).bind fun _ _ hend => .pure hend

/-- Every variable step leaves the variables in order, however it ends. -/
theorem variable_step_owns (howns : session.Owns holdings []) {command : Command}
    (hvariable : command.isVariableStep) :
    ∃ holdings', ((step command).run session).2.Owns holdings' [] := by
  have hcontainer : ∀ container : ContainerCommand,
      ∃ holdings', ((step container.command).run session).2.Owns holdings' [] := by
    intro container
    obtain ⟨-, holdings', hafter, -⟩ := step_refines howns container
    exact ⟨holdings', hafter⟩
  cases command with
  | new name payload? => exact hcontainer (.new name payload?)
  | clone source target => exact hcontainer (.clone source target)
  | assign source target => exact hcontainer (.assign source target)
  | assignValue name payload => exact hcontainer (.assignValue name payload)
  | swap first second => exact hcontainer (.swap first second)
  | take source target => exact hcontainer (.take source target)
  | reset name => exact hcontainer (.reset name)
  | drop name => exact hcontainer (.drop name)
  | intoInner name type => exact hcontainer (.intoInner name type)
  | holds name type => exact hcontainer (.holds name type)
  | downcast name type => exact hcontainer (.downcast name type)
  | mutate name payload => exact hcontainer (.mutate name payload)
  | append name suffix => exact hcontainer (.append name suffix)
  | get name type => exact ⟨holdings, (get_settles howns name type).left.owns⟩
  | tryGet name type => exact ⟨holdings, (tryGet_settles howns name type).left.owns⟩
  | getToMut name payload => exact ⟨holdings, (getToMut_settles howns name payload).left.owns⟩
  | _ => cases hvariable

/-- The steps that move payloads take the payload itself along: nothing is created, and nothing is
destroyed but the payload in the place that another one goes to, and an unwrapped one by its new
owner. -/
structure MovesPayloads (session : Session) : Prop where
  swap : ∀ first second, first ≠ second → (session.cells.get? first).isSome →
    (session.cells.get? second).isSome →
    let after := ((step (.swap first second)).run session).2
    after.instanceIn? first = session.instanceIn? second ∧
      after.instanceIn? second = session.instanceIn? first ∧ after.machine = session.machine
  take : ∀ source target, (session.cells.get? source).isSome →
    let after := ((step (.take source target)).run session).2
    let ended? := if source = target then none else session.instanceIn? target
    after.instanceIn? target = session.instanceIn? source ∧
      (source ≠ target → after.instanceIn? source = none) ∧
      after.machine.created = session.machine.created ∧
      after.machine.destroyed =
        session.machine.destroyed ++ (ended?.map Instance.serial).toList ∧
      after.machine.events =
        session.machine.events ++ Payload.dropEventsOf (ended?.map Instance.payload)
  unwrap : ∀ name cell, session.cells.get? name = some cell →
    let moved := cell.intoInstance?.run session.machine
    moved.1 = .ok (session.instanceIn? name) ∧ moved.2.created = session.machine.created ∧
      moved.2.destroyed = session.machine.destroyed ∧ moved.2.events = session.machine.events
  intoInner : ∀ name contents, session.instanceIn? name = some contents →
    let after := ((step (.intoInner name (.ok contents.payload.type))).run session).2
    after.cells.get? name = none ∧ after.machine.created = session.machine.created ∧
      after.machine.destroyed = session.machine.destroyed ++ [contents.serial] ∧
      after.machine.events = session.machine.events ++ contents.payload.dropEvents

theorem Owns.swap_moves (howns : session.Owns holdings []) {first second : String}
    (hne : first ≠ second) {firstCell secondCell : Cell}
    (hfirst : session.cells.get? first = some firstCell)
    (hsecond : session.cells.get? second = some secondCell) :
    let after := ((step (.swap first second)).run session).2
    after.instanceIn? first = session.instanceIn? second ∧
      after.instanceIn? second = session.instanceIn? first ∧ after.machine = session.machine := by
  obtain ⟨firstHolding?, hfirstHeld, -⟩ := howns.exists_holding hfirst
  obtain ⟨secondHolding?, hsecondHeld, -⟩ := howns.exists_holding hsecond
  obtain ⟨hrun, hafter⟩ := swap_run howns hne hfirst hsecond hfirstHeld hsecondHeld
  have hstep : (step (.swap first second)).run session = (.ok .nothing, _) := hrun
  rw [hstep]
  refine ⟨?_, ?_, rfl⟩
  · rw [hafter.instanceIn?_eq, howns.instanceIn?_eq, Directory.get?_insert_of_ne _ _ hne,
      Directory.get?_insert_self, hsecondHeld]
  · rw [hafter.instanceIn?_eq, howns.instanceIn?_eq, Directory.get?_insert_self, hfirstHeld]

theorem Owns.take_moves (howns : session.Owns holdings []) {source : String} {cell : Cell}
    (hget : session.cells.get? source = some cell) (target : String) :
    let after := ((step (.take source target)).run session).2
    let ended? := if source = target then none else session.instanceIn? target
    after.instanceIn? target = session.instanceIn? source ∧
      (source ≠ target → after.instanceIn? source = none) ∧
      after.machine.created = session.machine.created ∧
      after.machine.destroyed =
        session.machine.destroyed ++ (ended?.map Instance.serial).toList ∧
      after.machine.events =
        session.machine.events ++ Payload.dropEventsOf (ended?.map Instance.payload) := by
  obtain ⟨holding?, hheld, -⟩ := howns.exists_holding hget
  obtain ⟨heap, hrun, hafter⟩ := take_run howns hget hheld target
  have hstep : (step (.take source target)).run session = (_, _) := hrun
  have hended : (if source = target then none else session.instanceIn? target) =
      ((holdings.insert source none).get? target).join.map Holding.contents := by
    by_cases hsame : source = target
    · rw [if_pos hsame, hsame, Directory.get?_insert_self]
      rfl
    · rw [if_neg hsame, Directory.get?_insert_of_ne _ _ (Ne.symm hsame), howns.instanceIn?_eq]
  simp only [hstep, hended]
  refine ⟨?_, fun hne => ?_, rfl, ?_, ?_⟩
  · rw [hafter.instanceIn?_eq, howns.instanceIn?_eq, Directory.get?_insert_self, hheld]
  · rw [hafter.instanceIn?_eq, Directory.get?_insert_of_ne _ _ hne, Directory.get?_insert_self]
    rfl
  · rw [Machine.advance_destroyed]
    cases ((holdings.insert source none).get? target).join <;> rfl
  · rw [Machine.advance_events]
    cases ((holdings.insert source none).get? target).join <;> rfl

theorem Owns.unwrap_moves (howns : session.Owns holdings []) {cell : Cell}
    (hget : session.cells.get? name = some cell) :
    let moved := cell.intoInstance?.run session.machine
    moved.1 = .ok (session.instanceIn? name) ∧ moved.2.created = session.machine.created ∧
      moved.2.destroyed = session.machine.destroyed ∧
      moved.2.events = session.machine.events := by
  obtain ⟨holding?, hheld, hholds⟩ := howns.exists_holding hget
  obtain ⟨heap, hinto, -⟩ := Cell.intoInstance?_run (howns.accounts.perm (held_perm hheld)) hholds
  simp only [hinto]
  refine ⟨?_, rfl, ?_, ?_⟩
  · rw [howns.instanceIn?_eq, hheld]
    rfl
  · rw [Machine.advance_destroyed, List.append_nil]
  · rw [Machine.advance_events, List.append_nil]

theorem Owns.intoInner_moves (howns : session.Owns holdings []) {contents : Instance}
    (hcontents : session.instanceIn? name = some contents) :
    let after := ((step (.intoInner name (.ok contents.payload.type))).run session).2
    after.cells.get? name = none ∧ after.machine.created = session.machine.created ∧
      after.machine.destroyed = session.machine.destroyed ++ [contents.serial] ∧
      after.machine.events = session.machine.events ++ contents.payload.dropEvents := by
  obtain ⟨holding, hheld, rfl⟩ := howns.instanceIn?_eq_some_iff.mp hcontents
  cases hget : session.cells.get? name with
  | none =>
      rw [howns.get?_eq_none_iff.mpr hget] at hheld
      cases hheld
  | some cell =>
      obtain ⟨heap, hrun, -⟩ := intoInner_run howns hget hheld
      have hstep : (step (.intoInner name (.ok holding.contents.payload.type))).run session =
        (_, _) := hrun
      simp only [hstep]
      exact ⟨Directory.get?_erase_self _ _, rfl, rfl, rfl⟩

theorem Owns.movesPayloads (howns : session.Owns holdings []) : session.MovesPayloads where
  swap first second hne hfirst hsecond := by
    obtain ⟨firstCell, hfirst⟩ := Option.isSome_iff_exists.mp hfirst
    obtain ⟨secondCell, hsecond⟩ := Option.isSome_iff_exists.mp hsecond
    exact howns.swap_moves hne hfirst hsecond
  take source target hsource := by
    obtain ⟨cell, hget⟩ := Option.isSome_iff_exists.mp hsource
    exact howns.take_moves hget target
  unwrap name cell hget := howns.unwrap_moves hget
  intoInner name contents hcontents := howns.intoInner_moves hcontents

/-! ## Whole sessions -/

theorem afterSteps_owns (isFresh : Bool) {commands : List (Except Complaint Command)}
    (hvariable : ∀ command, .ok command ∈ commands → command.isVariableStep) :
    ∃ holdings, (afterSteps isFresh commands).Owns holdings [] := by
  refine afterSteps_induction (fun session => ∃ holdings, session.Owns holdings [])
    ⟨_, .start isFresh⟩ ?_
  rintro command hmem session ⟨holdings, howns⟩
  cases command with
  | error complaint => exact ⟨holdings, howns.cleared⟩
  | ok command =>
      obtain ⟨holdings', hafter⟩ := variable_step_owns howns (hvariable command hmem)
      exact ⟨holdings', hafter.cleared⟩

/-- In every state that a session of variable steps can reach, the payloads that are alive are in
the variables, each in one of them, and steps that move a payload take this very payload along. When
the session is over, every payload that was created has been destroyed, and none of them twice. -/
theorem variable_sessions_conserve_payloads (isFresh : Bool)
    (commands : List (Except Complaint Command))
    (hvariable : ∀ command, .ok command ∈ commands → command.isVariableStep) :
    let session := afterSteps isFresh commands
    let ended := (finish session).2
    session.Conserves ∧ session.MovesPayloads ∧
      ended.cells = .empty ∧ ended.machine.created = session.machine.created ∧
      ended.machine.destroyed.Perm (List.range session.machine.created) := by
  obtain ⟨holdings, howns⟩ := afterSteps_owns isFresh hvariable
  exact ⟨howns.conserves, howns.movesPayloads, howns.finish_apply⟩

/-- A session in which a copy and a destruction fail in the middle of a step. -/
def failingSession : List (Except Complaint Command) :=
  [.ok (.new "kept" (.ok (some ⟨.probe, ⟨"kept", 0, .onDrop⟩⟩))),
    .ok (.new "source" (.ok (some ⟨.bigProbe, ⟨"source", 0, .onClone⟩⟩))),
    .ok (.clone "source" "copy"),
    .ok (.assign "kept" "source"),
    .ok (.take "source" "kept")]

theorem failing_session_conserves_payloads :
    (∀ command, .ok command ∈ failingSession → command.isVariableStep) ∧
      (afterSteps true failingSession).Conserves ∧
      (finish (afterSteps true failingSession)).2.machine.destroyed.Perm
        (List.range (afterSteps true failingSession).machine.created) := by
  have hvariable : ∀ command, .ok command ∈ failingSession → command.isVariableStep := by
    simp [failingSession, Command.isVariableStep]
  obtain ⟨hconserves, -, -, -, hdestroyed⟩ :=
    variable_sessions_conserve_payloads true failingSession hvariable
  exact ⟨hvariable, hconserves, hdestroyed⟩

end Ownership

end Session

end DynamicValue
