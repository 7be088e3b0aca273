/-
# What a panic leaves behind

A payload may panic when it is copied and when it is destroyed, and both happen in the middle of the
operations that copy and destroy. What such an operation leaves follows from the order in which it
copies, writes, destroys and empties, and is stated here for each operation and each place at which
a panic may strike: what the variable holds then, which payloads were created and destroyed, and in
which order this was reported. Every other variable keeps its table, its slot and its payload.
-/

import DynamicValue.Proofs.Registry.Relations
import DynamicValue.Proofs.Session.Steps

namespace DynamicValue.Session

/-- What an operation does to a variable: how it ends, what the variable holds then, how many
payloads it has created, which it has destroyed, and what it has reported. -/
structure Effect where
  ended : Except Halt Unit
  held? : Option Instance
  created : Nat
  destroyed : List Nat
  events : List Event

namespace Effect

/-- The effect of destroying what a variable holds. The variable is empty, however it ends. -/
def destroying (old? : Option Instance) : Effect where
  ended := Payload.droppedOf (old?.map Instance.payload)
  held? := none
  created := 0
  destroyed := (old?.map Instance.serial).toList
  events := Payload.dropEventsOf (old?.map Instance.payload)

/-- The payloads that an operation creates and destroys, and its reports, show in the program. -/
structure Happens (effect : Effect) (before after : Machine) : Prop where
  created : after.created = before.created + effect.created
  destroyed : after.destroyed = before.destroyed ++ effect.destroyed
  events : after.events = before.events ++ effect.events

end Effect

/-- An operation has this effect on one variable, and every other variable is exactly as before. -/
structure Leaves (before : Session) (name : String) (effect : Effect)
    (run : Except Failure Answer × Session) : Prop where
  ended : (run.1.map fun _ => ()) = effect.ended.mapError .halted
  held : run.2.instanceIn? name = effect.held?
  empty : effect.held? = none → run.2.cells.get? name = some .empty
  machine : effect.Happens before.machine run.2.machine
  others : ∀ other, other ≠ name → run.2.cells.get? other = before.cells.get? other ∧
    run.2.instanceIn? other = before.instanceIn? other

/-- An operation ends with a halt and leaves all variables, the heap and everything else as they
were; it has reported what it tried to do. -/
def Untouched (before : Session) (halt : Halt) (events : List Event)
    (run : Except Failure Answer × Session) : Prop :=
  run = (.error (.halted halt),
    { before with machine := before.machine.advance before.machine.heap 0 [] events })

/-- What the copying and destroying operations leave when they panic, and when they do not. Each
variable is empty or has a payload that can be read, so the cases leave nothing out.

Assigning a variable to itself does nothing. A value of the same type is copied first and written
over the old one, which is destroyed last. A value of another type finds an empty variable, since
the old value is destroyed first. A new payload of the variable's own type is in place when the old
one is destroyed, and one of another type is lost if that fails. A variable that is reset is empty,
and a copy that fails does not reach the variable that it was made for. -/
structure WithstandsPanics (session : Session) : Prop where
  readable : ∀ name cell, session.cells.get? name = some cell →
    cell.isEmpty = (session.instanceIn? name).isNone
  assignSelf : ∀ name cell, session.cells.get? name = some cell →
    (step (.assign name name)).run session = (.ok (.reuse true), session)
  copyFails : ∀ source target old contents halt, source ≠ target →
    session.instanceIn? target = some old → session.instanceIn? source = some contents →
    old.payload.type = contents.payload.type → contents.payload.copied = .error halt →
    session.Untouched halt contents.payload.copyEvents ((step (.assign source target)).run session)
  copyOver : ∀ source target old contents copy, source ≠ target →
    session.instanceIn? target = some old → session.instanceIn? source = some contents →
    old.payload.type = contents.payload.type → contents.payload.copied = .ok copy →
    session.Leaves target
      { ended := old.payload.dropped
        held? := some ⟨session.machine.created, copy⟩
        created := 1
        destroyed := [old.serial]
        events := contents.payload.copyEvents ++ old.payload.dropEvents }
      ((step (.assign source target)).run session)
  emptySource : ∀ source target cell other, source ≠ target →
    session.cells.get? target = some cell → session.cells.get? source = some other →
    other.isEmpty = true →
    session.Leaves target (.destroying (session.instanceIn? target))
      ((step (.assign source target)).run session)
  dropFails : ∀ source target cell old? contents halt,
    session.cells.get? target = some cell → session.instanceIn? target = old? →
    session.instanceIn? source = some contents →
    old?.map (·.payload.type) ≠ some contents.payload.type →
    Payload.droppedOf (old?.map Instance.payload) = .error halt →
    session.Leaves target (.destroying old?) ((step (.assign source target)).run session)
  copyFailsLater : ∀ source target cell old? contents halt,
    session.cells.get? target = some cell → session.instanceIn? target = old? →
    session.instanceIn? source = some contents →
    old?.map (·.payload.type) ≠ some contents.payload.type →
    Payload.droppedOf (old?.map Instance.payload) = .ok () →
    contents.payload.copied = .error halt →
    session.Leaves target
      { ended := .error halt
        held? := none
        created := 0
        destroyed := (old?.map Instance.serial).toList
        events := Payload.dropEventsOf (old?.map Instance.payload) ++ contents.payload.copyEvents }
      ((step (.assign source target)).run session)
  copyAnew : ∀ source target cell old? contents copy,
    session.cells.get? target = some cell → session.instanceIn? target = old? →
    session.instanceIn? source = some contents →
    old?.map (·.payload.type) ≠ some contents.payload.type →
    Payload.droppedOf (old?.map Instance.payload) = .ok () →
    contents.payload.copied = .ok copy →
    session.Leaves target
      { ended := .ok ()
        held? := some ⟨session.machine.created, copy⟩
        created := 1
        destroyed := (old?.map Instance.serial).toList
        events := Payload.dropEventsOf (old?.map Instance.payload) ++ contents.payload.copyEvents }
      ((step (.assign source target)).run session)
  valueOver : ∀ name payload old, session.instanceIn? name = some old →
    old.payload.type = payload.type →
    session.Leaves name
      { ended := old.payload.dropped
        held? := some ⟨session.machine.created, payload⟩
        created := 1
        destroyed := [old.serial]
        events := old.payload.dropEvents }
      ((step (.assignValue name (.ok payload))).run session)
  valueLost : ∀ name payload cell old? halt, session.cells.get? name = some cell →
    session.instanceIn? name = old? → old?.map (·.payload.type) ≠ some payload.type →
    Payload.droppedOf (old?.map Instance.payload) = .error halt →
    session.Leaves name
      { ended := .error halt
        held? := none
        created := 1
        destroyed := (old?.map Instance.serial).toList ++ [session.machine.created]
        events := Payload.dropEventsOf (old?.map Instance.payload) ++ payload.dropEvents }
      ((step (.assignValue name (.ok payload))).run session)
  valueAnew : ∀ name payload cell old?, session.cells.get? name = some cell →
    session.instanceIn? name = old? → old?.map (·.payload.type) ≠ some payload.type →
    Payload.droppedOf (old?.map Instance.payload) = .ok () →
    session.Leaves name
      { ended := .ok ()
        held? := some ⟨session.machine.created, payload⟩
        created := 1
        destroyed := (old?.map Instance.serial).toList
        events := Payload.dropEventsOf (old?.map Instance.payload) }
      ((step (.assignValue name (.ok payload))).run session)
  reset : ∀ name cell, session.cells.get? name = some cell →
    session.Leaves name (.destroying (session.instanceIn? name)) ((step (.reset name)).run session)
  cloneFails : ∀ source target contents halt, session.instanceIn? source = some contents →
    contents.payload.copied = .error halt →
    session.Untouched halt contents.payload.copyEvents ((step (.clone source target)).run session)

section Effects

variable {session : Session} {holdings : Directory (Option Holding)} {pending : List Holding}
  {name source target : String} {cell other changed : Cell} {holding? : Option Holding}
  {holding theirs : Holding} {effect : Effect} {machine : Machine} {halt : Halt}

/-! ## From what a variable holds to what is left -/

section Instances

variable (holding? : Option Holding)

theorem map_payload :
    (holding?.map Holding.contents).map Instance.payload = holding?.map Holding.payload :=
  Option.map_map _ _ _

theorem map_serial :
    ((holding?.map Holding.contents).map Instance.serial).toList =
      holding?.toList.map Holding.serial := by
  cases holding? <;> rfl

theorem Effect.destroying_contents :
    Effect.destroying (holding?.map Holding.contents) =
      { ended := Payload.droppedOf (holding?.map Holding.payload)
        held? := none
        created := 0
        destroyed := holding?.toList.map Holding.serial
        events := Payload.dropEventsOf (holding?.map Holding.payload) } := by
  rw [Effect.destroying, map_payload, map_serial]

end Instances

/-- A variable that was worked on and put back is the only one that is affected. -/
theorem Owns.leaves {outcome : Except Failure Answer} (howns : session.Owns holdings pending)
    (hextends : session.machine.Extends machine)
    (hfocus : Focus.Owns ⟨machine, changed⟩ holding? (others holdings name))
    (hended : (outcome.map fun _ => ()) = effect.ended.mapError .halted)
    (hheld : holding?.map Holding.contents = effect.held?)
    (hmachine : effect.Happens session.machine machine) :
    session.Leaves name effect (outcome,
      { session with machine := machine, cells := session.cells.insert name changed }) := by
  have hafter : Owns { session with
      machine := machine, cells := session.cells.insert name changed }
      (holdings.insert name holding?) [] := howns.unfocus hextends hfocus
  refine ⟨hended, ?_, fun hnone => ?_, hmachine, fun other hother => ⟨?_, ?_⟩⟩
  · rw [hafter.instanceIn?_eq, Directory.get?_insert_self]
    exact hheld
  · rw [← hheld, Option.map_eq_none_iff] at hnone
    obtain rfl := (hnone ▸ hfocus.holds).eq_empty
    exact Directory.get?_insert_self _ _ _
  · exact Directory.get?_insert_of_ne _ _ hother
  · rw [hafter.instanceIn?_eq, howns.instanceIn?_eq, Directory.get?_insert_of_ne _ _ hother]

/-- A change of a variable that is reported has the effect of the change. -/
theorem Owns.tracked_leaves {action : Action Focus Unit} (howns : session.Owns holdings pending)
    (hget : session.cells.get? name = some cell)
    (hrun : action.run ⟨session.machine, cell⟩ = (effect.ended, ⟨machine, changed⟩))
    (hextends : session.machine.Extends machine)
    (hfocus : Focus.Owns ⟨machine, changed⟩ holding? (others holdings name))
    (hheld : holding?.map Holding.contents = effect.held?)
    (hmachine : effect.Happens session.machine machine) :
    session.Leaves name effect ((tracked name action).run session) := by
  rw [tracked_run hget hrun]
  refine howns.leaves hextends hfocus ?_ hheld hmachine
  cases effect.ended <;> rfl

/-- A change of a variable that halts and leaves the variable and the heap as they are. -/
theorem tracked_untouched {action : Action Focus Unit} {events : List Event}
    (hget : session.cells.get? name = some cell)
    (hrun : action.run ⟨session.machine, cell⟩ =
      (.error halt, ⟨session.machine.advance session.machine.heap 0 [] events, cell⟩)) :
    session.Untouched halt events ((tracked name action).run session) := by
  rw [tracked_run hget hrun, Directory.insert_eq_self hget]
  rfl

/-! ## Assigning variables -/

/-- Nothing happens to a variable that is assigned to itself. -/
theorem assign_self_run (hget : session.cells.get? name = some cell) :
    (step (.assign name name)).run session = (.ok (.reuse true), session) := by
  have hrun : (pure () : Action Focus Unit).run ⟨session.machine, cell⟩ =
      (.ok (), ⟨session.machine, cell⟩) := rfl
  have hreuses : cell.reuses cell = true := by simp [Cell.reuses]
  have hstep : (step (.assign name name)).run session =
      (tracked name (if name = name then pure () else Cell.assign cell)).run session :=
    Action.run_bind_ok _ (run_valueOf_some hget)
  rw [hstep, if_pos rfl, tracked_run hget hrun, Directory.insert_eq_self hget, hreuses]
  rfl

/-- Assigning another variable changes the target by its value. -/
theorem assign_run (hsource : session.cells.get? source = some other) (hne : source ≠ target) :
    (step (.assign source target)).run session =
      (tracked target (Cell.assign other)).run session := by
  have hstep : (step (.assign source target)).run session =
      (tracked target (if source = target then pure () else Cell.assign other)).run session :=
    Action.run_bind_ok _ (run_valueOf_some hsource)
  rw [hstep, if_neg hne]

/-- Assigning an empty variable destroys what the target holds. -/
theorem Owns.assign_leaves_empty (howns : session.Owns holdings []) (hne : source ≠ target)
    (hheld : holdings.get? target = some holding?)
    (hsource : session.cells.get? source = some other) (hempty : other.isEmpty = true) :
    session.Leaves target (.destroying (holding?.map Holding.contents))
      ((step (.assign source target)).run session) := by
  obtain ⟨cell, hget, hholds⟩ := howns.exists_cell hheld
  obtain ⟨heap, hreset, hafter⟩ := Cell.reset_run (howns.focus hheld hholds)
  rw [← Cell.assign_run_empty (Option.isNone_iff_eq_none.mp hempty)] at hreset
  rw [assign_run hsource hne, Effect.destroying_contents]
  exact howns.tracked_leaves hget hreset (.advance _ heap _ _ _) hafter rfl ⟨rfl, rfl, rfl⟩

section Assign

variable (howns : session.Owns holdings []) (hne : source ≠ target)
  (htheirs : holdings.get? source = some (some theirs))
include howns hne htheirs

/-- A target works on its own value while the source holds what it holds. -/
theorem Owns.assign_focus (hheld : holdings.get? target = some holding?) :
    ∃ cell other, session.cells.get? target = some cell ∧
      Focus.Owns ⟨session.machine, cell⟩ holding? (others holdings target) ∧
      other.Holds session.machine (some theirs) ∧ theirs ∈ others holdings target ∧
      (step (.assign source target)).run session =
        (tracked target (Cell.assign other)).run session := by
  obtain ⟨cell, hget, hholds⟩ := howns.exists_cell hheld
  obtain ⟨other, hsource, hother⟩ := howns.exists_cell htheirs
  exact ⟨cell, other, hget, howns.focus hheld hholds, hother, mem_others htheirs hne,
    assign_run hsource hne⟩

section Same

variable (hheld : holdings.get? target = some (some holding))
  (htype : holding.payload.type = theirs.payload.type)
include hheld htype

theorem Owns.assign_untouched (hcopied : theirs.payload.copied = .error halt) :
    session.Untouched halt theirs.payload.copyEvents
      ((step (.assign source target)).run session) := by
  obtain ⟨cell, other, hget, hfocus, hother, hmem, hrun⟩ := howns.assign_focus hne htheirs hheld
  rw [hrun]
  exact tracked_untouched hget (Cell.assign_run_same_error hfocus hother hmem htype hcopied)

theorem Owns.assign_leaves_over {copy : Payload} (hcopied : theirs.payload.copied = .ok copy) :
    session.Leaves target
      { ended := holding.payload.dropped
        held? := some ⟨session.machine.created, copy⟩
        created := 1
        destroyed := [holding.serial]
        events := theirs.payload.copyEvents ++ holding.payload.dropEvents }
      ((step (.assign source target)).run session) := by
  obtain ⟨cell, other, hget, hfocus, hother, hmem, hrun⟩ := howns.assign_focus hne htheirs hheld
  obtain ⟨cell', heap, hassign, hafter⟩ :=
    Cell.assign_run_same_ok hfocus hother hmem htype hcopied
  rw [hrun]
  exact howns.tracked_leaves hget hassign (.advance _ heap _ _ _) hafter rfl ⟨rfl, rfl, rfl⟩

end Same

section Other

variable (hheld : holdings.get? target = some holding?)
  (htype : holding?.map (·.payload.type) ≠ some theirs.payload.type)
include hheld htype

theorem Owns.assign_leaves_dropped
    (hdropped : Payload.droppedOf (holding?.map Holding.payload) = .error halt) :
    session.Leaves target (.destroying (holding?.map Holding.contents))
      ((step (.assign source target)).run session) := by
  obtain ⟨cell, other, hget, hfocus, hother, hmem, hrun⟩ := howns.assign_focus hne htheirs hheld
  obtain ⟨heap, hassign, hafter⟩ := Cell.assign_run_other_drop_error hfocus hother htype hdropped
  rw [hrun, Effect.destroying_contents, hdropped]
  exact howns.tracked_leaves hget hassign (.advance _ heap _ _ _) hafter rfl ⟨rfl, rfl, rfl⟩

theorem Owns.assign_leaves_nothing
    (hdropped : Payload.droppedOf (holding?.map Holding.payload) = .ok ())
    (hcopied : theirs.payload.copied = .error halt) :
    session.Leaves target
      { ended := .error halt
        held? := none
        created := 0
        destroyed := holding?.toList.map Holding.serial
        events := Payload.dropEventsOf (holding?.map Holding.payload) ++
          theirs.payload.copyEvents }
      ((step (.assign source target)).run session) := by
  obtain ⟨cell, other, hget, hfocus, hother, hmem, hrun⟩ := howns.assign_focus hne htheirs hheld
  obtain ⟨heap, hassign, hafter⟩ :=
    Cell.assign_run_other_copy_error hfocus hother hmem htype hdropped hcopied
  rw [hrun]
  exact howns.tracked_leaves hget hassign (.advance _ heap _ _ _) hafter rfl ⟨rfl, rfl, rfl⟩

theorem Owns.assign_leaves_copy {copy : Payload}
    (hdropped : Payload.droppedOf (holding?.map Holding.payload) = .ok ())
    (hcopied : theirs.payload.copied = .ok copy) :
    session.Leaves target
      { ended := .ok ()
        held? := some ⟨session.machine.created, copy⟩
        created := 1
        destroyed := holding?.toList.map Holding.serial
        events := Payload.dropEventsOf (holding?.map Holding.payload) ++
          theirs.payload.copyEvents }
      ((step (.assign source target)).run session) := by
  obtain ⟨cell, other, hget, hfocus, hother, hmem, hrun⟩ := howns.assign_focus hne htheirs hheld
  obtain ⟨cell', holding', heap, hassign, hafter, hcontents⟩ :=
    Cell.assign_run_other_ok hfocus hother hmem htype hdropped hcopied
  rw [hrun]
  exact howns.tracked_leaves hget hassign (.advance _ heap _ _ _) hafter
    (congrArg some hcontents) ⟨rfl, rfl, rfl⟩

end Other

end Assign

/-! ## Assigning new payloads -/

/-- The payload that an assignment is given is made before the variable is changed. -/
theorem assignValue_run (hget : session.cells.get? name = some cell) (payload : Payload) :
    (step (.assignValue name (.ok payload))).run session =
      (tracked name (Cell.assignInstance ⟨session.machine.created, payload⟩)).run
        { session with machine := session.machine.advance session.machine.heap 1 [] [] } := by
  have hstep : (step (.assignValue name (.ok payload))).run session =
      (onMachine (Machine.create payload) >>= fun contents =>
        tracked name (Cell.assignInstance contents)).run session :=
    Action.run_bind_ok _ (run_valueOf_some hget)
  rw [hstep, Action.run_bind_ok _
    (run_onMachine_lift (Machine.create_apply payload session.machine))]

/-- The payload that was made first counts among those that were created. -/
theorem Owns.leaves_of_made {run : Except Failure Answer × Session} {ended : Except Halt Unit}
    {held? : Option Instance} {created : Nat} {destroyed : List Nat} {events : List Event}
    (howns : session.Owns holdings []) (payload : Payload)
    (hleaves : Leaves
      { session with machine := session.machine.advance session.machine.heap 1 [] [] } name
      ⟨ended, held?, created, destroyed, events⟩ run) :
    session.Leaves name ⟨ended, held?, created + 1, destroyed, events⟩ run := by
  have hmade := create_owns howns payload
  obtain ⟨hcreated, hdestroyed, hevents⟩ := hleaves.machine
  rw [Machine.advance_created, Nat.add_assoc, Nat.add_comm 1] at hcreated
  rw [Machine.advance_destroyed, List.append_nil] at hdestroyed
  rw [Machine.advance_events, List.append_nil] at hevents
  refine ⟨hleaves.ended, hleaves.held, hleaves.empty, ⟨hcreated, hdestroyed, hevents⟩,
    fun other hother => ⟨(hleaves.others other hother).1, ?_⟩⟩
  rw [(hleaves.others other hother).2, hmade.instanceIn?_eq, howns.instanceIn?_eq]

section AssignValue

variable (howns : session.Owns holdings []) (payload : Payload)
include howns

/-- A variable works on its own value while the command holds the new payload. -/
theorem Owns.assignValue_focus (hheld : holdings.get? name = some holding?) :
    ∃ cell, session.cells.get? name = some cell ∧
      Focus.Owns ⟨session.machine.advance session.machine.heap 1 [] [], cell⟩ holding?
        (.loose ⟨session.machine.created, payload⟩ :: others holdings name) ∧
      (step (.assignValue name (.ok payload))).run session =
        (tracked name (Cell.assignInstance ⟨session.machine.created, payload⟩)).run
          { session with machine := session.machine.advance session.machine.heap 1 [] [] } := by
  obtain ⟨cell, hget, hholds⟩ := howns.exists_cell hheld
  exact ⟨cell, hget, (create_owns howns payload).focus hheld (hholds.mono (.advance _ _ _ _ _)),
    assignValue_run hget payload⟩

theorem Owns.assignValue_leaves_over (hheld : holdings.get? name = some (some holding))
    (htype : payload.type = holding.payload.type) :
    session.Leaves name
      { ended := holding.payload.dropped
        held? := some ⟨session.machine.created, payload⟩
        created := 1
        destroyed := [holding.serial]
        events := holding.payload.dropEvents }
      ((step (.assignValue name (.ok payload))).run session) := by
  obtain ⟨cell, hget, hfocus, hrun⟩ := howns.assignValue_focus payload hheld
  obtain ⟨cell', heap, hassign, hafter⟩ := Cell.assignInstance_run_same hfocus htype
  rw [hrun]
  refine howns.leaves_of_made payload ?_
  exact (create_owns howns payload).tracked_leaves hget hassign (.advance _ heap _ _ _) hafter rfl
    ⟨rfl, rfl, rfl⟩

section Other

variable (hheld : holdings.get? name = some holding?)
  (htype : holding?.map (·.payload.type) ≠ some payload.type)
include hheld htype

theorem Owns.assignValue_leaves_nothing
    (hdropped : Payload.droppedOf (holding?.map Holding.payload) = .error halt) :
    session.Leaves name
      { ended := .error halt
        held? := none
        created := 1
        destroyed := holding?.toList.map Holding.serial ++ [session.machine.created]
        events := Payload.dropEventsOf (holding?.map Holding.payload) ++ payload.dropEvents }
      ((step (.assignValue name (.ok payload))).run session) := by
  obtain ⟨cell, hget, hfocus, hrun⟩ := howns.assignValue_focus payload hheld
  obtain ⟨heap, hassign, hafter⟩ := Cell.assignInstance_run_other_error hfocus htype hdropped
  rw [hrun]
  refine howns.leaves_of_made payload ?_
  exact (create_owns howns payload).tracked_leaves hget hassign (.advance _ heap _ _ _) hafter rfl
    ⟨rfl, rfl, rfl⟩

theorem Owns.assignValue_leaves_new
    (hdropped : Payload.droppedOf (holding?.map Holding.payload) = .ok ()) :
    session.Leaves name
      { ended := .ok ()
        held? := some ⟨session.machine.created, payload⟩
        created := 1
        destroyed := holding?.toList.map Holding.serial
        events := Payload.dropEventsOf (holding?.map Holding.payload) }
      ((step (.assignValue name (.ok payload))).run session) := by
  obtain ⟨cell, hget, hfocus, hrun⟩ := howns.assignValue_focus payload hheld
  obtain ⟨cell', holding', known, heap, heap', hassign, hlearns, hafter, hcontents⟩ :=
    Cell.assignInstance_run_other_ok hfocus htype hdropped
  rw [hrun]
  refine howns.leaves_of_made payload ?_
  -- The table of the new type may be built on the way, so the program has not only advanced.
  refine (create_owns howns payload).tracked_leaves hget hassign ?_ hafter
    (congrArg some hcontents) ⟨?_, ?_, ?_⟩
  · exact ((Machine.Extends.advance _ heap _ _ _).trans hlearns.toExtends).trans
      (.advance _ _ _ _ _)
  · exact hlearns.created
  · rw [Machine.advance_destroyed, List.append_nil, hlearns.destroyed]
    rfl
  · rw [Machine.advance_events, List.append_nil, hlearns.events]
    rfl

end Other

end AssignValue

/-! ## Resetting and copying -/

/-- A variable that is reset is empty, however its payload ends. -/
theorem Owns.reset_leaves (howns : session.Owns holdings [])
    (hheld : holdings.get? name = some holding?) :
    session.Leaves name (.destroying (holding?.map Holding.contents))
      ((step (.reset name)).run session) := by
  obtain ⟨cell, hget, hholds⟩ := howns.exists_cell hheld
  obtain ⟨heap, hreset, hafter⟩ := Cell.reset_run (howns.focus hheld hholds)
  have hstep : (step (.reset name)).run session = (_, _) :=
    Action.run_bind_pure (fun _ => Answer.nothing) (run_onVariable hget hreset)
  rw [hstep, Effect.destroying_contents]
  refine howns.leaves (.advance _ heap _ _ _) hafter ?_ rfl ⟨rfl, rfl, rfl⟩
  cases Payload.droppedOf (holding?.map Holding.payload) <;> rfl

/-- A copy that fails reaches no variable. -/
theorem Owns.clone_untouched (howns : session.Owns holdings [])
    (hheld : holdings.get? source = some (some theirs))
    (hcopied : theirs.payload.copied = .error halt) (target : String) :
    session.Untouched halt theirs.payload.copyEvents
      ((step (.clone source target)).run session) := by
  obtain ⟨other, hget, hholds⟩ := howns.exists_cell hheld
  have hclone := Cell.clone_run_error howns.accounts hholds (mem_held hheld) hcopied
  have hstep : (step (.clone source target)).run session =
      (Session.onMachine other.clone >>= fun copy => store target copy >>= fun _ =>
        pure Answer.nothing).run session :=
    Action.run_bind_ok _ (run_valueOf_some hget)
  rw [hstep]
  exact Action.run_bind_error _ (run_onMachine hclone)

/-! ## All of them together -/

/-- What is read out of a variable is what the variable holds. -/
theorem Owns.exists_held {old? : Option Instance} (howns : session.Owns holdings pending)
    (hget : session.cells.get? name = some cell) (hold : session.instanceIn? name = old?) :
    ∃ holding?, holdings.get? name = some holding? ∧ old? = holding?.map Holding.contents := by
  obtain ⟨holding?, hheld, -⟩ := howns.exists_holding hget
  exact ⟨holding?, hheld, hold.symm.trans (howns.instanceIn?_of_held hheld)⟩

/-- A variable of another type is another variable. -/
theorem ne_of_type_ne (htheirs : holdings.get? source = some (some theirs))
    (hheld : holdings.get? target = some holding?)
    (htype : holding?.map (·.payload.type) ≠ some theirs.payload.type) : source ≠ target := by
  rintro rfl
  obtain rfl : some theirs = holding? := Option.some.inj (htheirs.symm.trans hheld)
  exact htype rfl

/-- Variables that account for their program withstand panics. -/
theorem Owns.withstandsPanics (howns : session.Owns holdings []) : session.WithstandsPanics where
  readable name cell hget := by
    obtain ⟨holding?, hheld, hholds⟩ := howns.exists_holding hget
    rw [hholds.isEmpty_eq, howns.instanceIn?_of_held hheld, Option.isNone_map]
  assignSelf name cell hget := assign_self_run hget
  copyFails source target old contents halt hne hold hcontents htype hcopied := by
    obtain ⟨holding, hheld, rfl⟩ := howns.instanceIn?_eq_some_iff.mp hold
    obtain ⟨theirs, htheirs, rfl⟩ := howns.instanceIn?_eq_some_iff.mp hcontents
    exact howns.assign_untouched hne htheirs hheld htype hcopied
  copyOver source target old contents copy hne hold hcontents htype hcopied := by
    obtain ⟨holding, hheld, rfl⟩ := howns.instanceIn?_eq_some_iff.mp hold
    obtain ⟨theirs, htheirs, rfl⟩ := howns.instanceIn?_eq_some_iff.mp hcontents
    exact howns.assign_leaves_over hne htheirs hheld htype hcopied
  emptySource source target cell other hne hget hsource hempty := by
    obtain ⟨holding?, hheld, hold⟩ := howns.exists_held hget rfl
    rw [hold]
    exact howns.assign_leaves_empty hne hheld hsource hempty
  dropFails source target cell old? contents halt hget hold hcontents htype hdropped := by
    obtain ⟨holding?, hheld, rfl⟩ := howns.exists_held hget hold
    obtain ⟨theirs, htheirs, rfl⟩ := howns.instanceIn?_eq_some_iff.mp hcontents
    rw [Option.map_map] at htype
    rw [map_payload] at hdropped
    exact howns.assign_leaves_dropped (ne_of_type_ne htheirs hheld htype) htheirs hheld htype
      hdropped
  copyFailsLater source target cell old? contents halt hget hold hcontents htype hdropped
      hcopied := by
    obtain ⟨holding?, hheld, rfl⟩ := howns.exists_held hget hold
    obtain ⟨theirs, htheirs, rfl⟩ := howns.instanceIn?_eq_some_iff.mp hcontents
    rw [Option.map_map] at htype
    rw [map_payload] at hdropped ⊢
    rw [map_serial]
    exact howns.assign_leaves_nothing (ne_of_type_ne htheirs hheld htype) htheirs hheld htype
      hdropped hcopied
  copyAnew source target cell old? contents copy hget hold hcontents htype hdropped hcopied := by
    obtain ⟨holding?, hheld, rfl⟩ := howns.exists_held hget hold
    obtain ⟨theirs, htheirs, rfl⟩ := howns.instanceIn?_eq_some_iff.mp hcontents
    rw [Option.map_map] at htype
    rw [map_payload] at hdropped ⊢
    rw [map_serial]
    exact howns.assign_leaves_copy (ne_of_type_ne htheirs hheld htype) htheirs hheld htype
      hdropped hcopied
  valueOver name payload old hold htype := by
    obtain ⟨holding, hheld, rfl⟩ := howns.instanceIn?_eq_some_iff.mp hold
    exact howns.assignValue_leaves_over payload hheld htype.symm
  valueLost name payload cell old? halt hget hold htype hdropped := by
    obtain ⟨holding?, hheld, rfl⟩ := howns.exists_held hget hold
    rw [Option.map_map] at htype
    rw [map_payload] at hdropped ⊢
    rw [map_serial]
    exact howns.assignValue_leaves_nothing payload hheld htype hdropped
  valueAnew name payload cell old? hget hold htype hdropped := by
    obtain ⟨holding?, hheld, rfl⟩ := howns.exists_held hget hold
    rw [Option.map_map] at htype
    rw [map_payload] at hdropped ⊢
    rw [map_serial]
    exact howns.assignValue_leaves_new payload hheld htype hdropped
  reset name cell hget := by
    obtain ⟨holding?, hheld, hold⟩ := howns.exists_held hget rfl
    rw [hold]
    exact howns.reset_leaves hheld
  cloneFails source target contents halt hcontents hcopied := by
    obtain ⟨theirs, htheirs, rfl⟩ := howns.instanceIn?_eq_some_iff.mp hcontents
    exact howns.clone_untouched htheirs hcopied target

end Effects

/-- In every state that a session reaches, the operations that copy and destroy leave of a variable
exactly what the order of their parts says, wherever a payload panics, and they leave every other
variable as it was. -/
theorem reached_sessions_withstand_panics (isFresh : Bool)
    (commands : List (Except Complaint Command))
    (hcommands : ∀ command, .ok command ∈ commands → command.BindsSessionFunctions) :
    (afterSteps isFresh commands).WithstandsPanics := by
  obtain ⟨holdings, howns⟩ := (afterSteps_atRest isFresh hcommands).owns
  exact howns.withstandsPanics

/-- A session with a variable that fails when it is destroyed, one of the same type that fails when
it is copied, and one of another type. -/
def fragileSession : List (Except Complaint Command) :=
  [.ok (.new "old" (.ok (some ⟨.probe, ⟨"old", 0, .onDrop⟩⟩))),
    .ok (.new "twin" (.ok (some ⟨.probe, ⟨"twin", 0, .onClone⟩⟩))),
    .ok (.new "large" (.ok (some ⟨.bigProbe, ⟨"large", 0, .none⟩⟩)))]

/-- A payload is found in a variable if its serial number and its value are. -/
theorem instanceIn?_of_as? {session : Session} {name : String} {serial : Nat} {type : ValueType}
    {value : type.Value}
    (hfound : ((session.instanceIn? name).map fun contents =>
      (contents.serial, contents.payload.as? type)) = some (serial, some value)) :
    session.instanceIn? name = some ⟨serial, ⟨type, value⟩⟩ := by
  obtain ⟨contents, hcontents, hsame⟩ := Option.map_eq_some_iff.mp hfound
  obtain ⟨rfl, hvalue⟩ := Prod.mk.inj hsame
  rw [hcontents, ← Payload.eq_of_as? hvalue]

theorem fragile_variables_withstand_panics :
    (∀ command, .ok command ∈ fragileSession → command.BindsSessionFunctions) ∧
      (afterSteps true fragileSession).Untouched
        (.panic ("clone bomb " ++ Probe.text ⟨"twin", 0, .onClone⟩))
        [.cloned ⟨"twin", 0, .onClone⟩]
        ((step (.assign "twin" "old")).run (afterSteps true fragileSession)) ∧
      (afterSteps true fragileSession).Leaves "old"
        (.destroying (some ⟨0, ⟨.probe, ⟨"old", 0, .onDrop⟩⟩⟩))
        ((step (.assign "large" "old")).run (afterSteps true fragileSession)) := by
  have hcommands : ∀ command, .ok command ∈ fragileSession → command.BindsSessionFunctions := by
    simp only [fragileSession, List.mem_cons, Except.ok.injEq, List.not_mem_nil, or_false]
    rintro command (rfl | rfl | rfl) <;> trivial
  have hsession := reached_sessions_withstand_panics true fragileSession hcommands
  have hcell : ((afterSteps true fragileSession).cells.get? "old").isSome = true := by
    decide +kernel
  have hold : (afterSteps true fragileSession).instanceIn? "old" =
      some ⟨0, ⟨.probe, ⟨"old", 0, .onDrop⟩⟩⟩ :=
    instanceIn?_of_as? (by decide +kernel)
  have htwin : (afterSteps true fragileSession).instanceIn? "twin" =
      some ⟨1, ⟨.probe, ⟨"twin", 0, .onClone⟩⟩⟩ :=
    instanceIn?_of_as? (by decide +kernel)
  have hlarge : (afterSteps true fragileSession).instanceIn? "large" =
      some ⟨2, ⟨.bigProbe, ⟨"large", 0, .none⟩⟩⟩ :=
    instanceIn?_of_as? (by decide +kernel)
  obtain ⟨cell, hget⟩ := Option.isSome_iff_exists.mp hcell
  -- From here on the session is not evaluated any more.
  generalize afterSteps true fragileSession = session at *
  refine ⟨hcommands, ?_, ?_⟩
  · exact hsession.copyFails "twin" "old" _ _ _ (by decide) hold htwin rfl rfl
  · exact hsession.dropFails "large" "old" cell _ _
      (.panic ("drop bomb " ++ Probe.text ⟨"old", 0, .onDrop⟩)) hget hold hlarge (by decide) rfl

end DynamicValue.Session
