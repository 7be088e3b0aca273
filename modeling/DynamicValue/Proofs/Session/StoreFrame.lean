/-
# What a step of the typed store may change

A step of the typed store changes no other variables than those that its command writes, and it
fails with a complaint or a panic, never with a fault. Both are kept by sequences of steps, so they
are shown for the parts and carried over to the commands.
-/

import DynamicValue.Proofs.Session.TypedStore

namespace DynamicValue

/-- The variables that a command may change. -/
def ContainerCommand.written : ContainerCommand → List String
  | new name _ | assignValue name _ | reset name | drop name | intoInner name _ | mutate name _
  | append name _ => [name]
  | clone _ target | assign _ target => [target]
  | swap first second => [first, second]
  | take source target => [source, target]
  | holds .. | downcast .. => []

namespace Payload

/-- Copying a payload fails with a panic if it fails. -/
theorem copied_ne_fault (payload : Payload) (fault : Fault) :
    payload.copied ≠ .error (.fault fault) := by
  unfold copied
  split
  · split <;> simp
  · simp

/-- Destroying a payload fails with a panic if it fails. -/
theorem dropped_ne_fault (payload : Payload) (fault : Fault) :
    payload.dropped ≠ .error (.fault fault) := by
  unfold dropped
  split
  · split <;> simp
  · simp

theorem droppedOf_ne_fault (payload? : Option Payload) (fault : Fault) :
    droppedOf payload? ≠ .error (.fault fault) := by
  cases payload? with
  | none => simp [droppedOf]
  | some payload => exact payload.dropped_ne_fault fault

end Payload

namespace TypedStore

/-- An action that never ends in a fault and leaves all variables but the named ones as they are. -/
structure Confined {α : Type} (names : List String) (action : StoreAction α) : Prop where
  sound : ∀ store fault, (action.run store).1 ≠ .error (.halted (.fault fault))
  frame : ∀ store, ∀ other ∉ names,
    (action.run store).2.contents.get? other = store.contents.get? other

namespace Confined

variable {α β : Type} {names : List String} {name : String}

theorem pure (value : α) : Confined names (Pure.pure value) where
  sound _ _ := nofun
  frame _ _ _ := rfl

theorem complain (complaint : Complaint) : Confined names (complain complaint : StoreAction α) where
  sound _ _ := nofun
  frame _ _ _ := rfl

theorem read (reading : Reading α) : Confined names (read reading) where
  sound store fault := by
    rw [run_read]
    cases reading <;> nofun
  frame _ _ _ := rfl

theorem emit (events : List Event) : Confined names (emit events) where
  sound _ _ := nofun
  frame _ _ _ := rfl

theorem get : Confined names (MonadState.get : StoreAction TypedStore) where
  sound _ _ := nofun
  frame _ _ _ := rfl

/-- A result that is no fault. -/
theorem ending {outcome : Except Halt α} (houtcome : ∀ fault, outcome ≠ .error (.fault fault)) :
    Confined names (ending outcome) where
  sound store fault := by
    rw [run_ending]
    cases outcome with
    | ok value => nofun
    | error halt =>
        intro heq
        cases heq
        exact houtcome fault rfl
  frame _ _ _ := rfl

theorem put (value? : Option Payload) (hname : name ∈ names) :
    Confined names (put name value?) where
  sound _ _ := nofun
  frame _ _ hother := Directory.get?_insert_of_ne _ _ fun heq => hother (heq ▸ hname)

theorem erase (hname : name ∈ names) : Confined names (erase name) where
  sound _ _ := nofun
  frame _ _ hother := Directory.get?_erase_of_ne _ fun heq => hother (heq ▸ hname)

/-- Actions that follow one another are confined if each of them is. -/
theorem bind {action : StoreAction α} {next : α → StoreAction β} (haction : Confined names action)
    (hnext : ∀ value, Confined names (next value)) : Confined names (action >>= next) where
  sound store fault := by
    rcases hrun : action.run store with ⟨outcome, after⟩
    cases outcome with
    | error failure =>
        have hsound := haction.sound store fault
        rw [hrun] at hsound
        rw [Action.run_bind_error _ hrun]
        simpa using hsound
    | ok value =>
        rw [Action.run_bind_ok _ hrun]
        exact (hnext value).sound after fault
  frame store other hother := by
    have hframe := haction.frame store other hother
    rcases hrun : action.run store with ⟨outcome, after⟩
    rw [hrun] at hframe
    cases outcome with
    | error failure =>
        rw [Action.run_bind_error _ hrun]
        exact hframe
    | ok value =>
        rw [Action.run_bind_ok _ hrun]
        exact ((hnext value).frame after other hother).trans hframe

theorem valueOf (name : String) : Confined names (valueOf name) :=
  get.bind fun store => by
    cases store.contents.get? name with
    | none => exact complain _
    | some value? => exact pure value?

theorem copy (payload : Payload) : Confined names (copy payload) :=
  (emit _).bind fun _ => ending payload.copied_ne_fault

theorem copyOf (value? : Option Payload) : Confined names (copyOf value?) := by
  cases value? with
  | none => exact pure none
  | some payload => exact (copy payload).bind fun copied => pure (some copied)

theorem destroy (value? : Option Payload) : Confined names (destroy value?) :=
  (emit _).bind fun _ => ending (Payload.droppedOf_ne_fault value?)

theorem reset (mine? : Option Payload) (hname : name ∈ names) : Confined names (reset name mine?) :=
  (put none hname).bind fun _ => destroy mine?

theorem store (value? : Option Payload) (hname : name ∈ names) :
    Confined names (store name value?) :=
  get.bind fun _ => (put value? hname).bind fun _ => destroy _

theorem tracked {change : Option Payload → StoreAction Unit}
    (hchange : ∀ mine?, Confined names (change mine?)) : Confined names (tracked name change) :=
  (valueOf name).bind fun before? => (hchange before?).bind fun _ =>
    (valueOf name).bind fun _ => pure _

theorem copyOver (theirs? mine? : Option Payload) (hname : name ∈ names) :
    Confined names (copyOver name theirs? mine?) := by
  unfold TypedStore.copyOver
  split
  · exact reset mine? hname
  · split
    · exact (copy _).bind fun _ => (put _ hname).bind fun _ => destroy mine?
    · exact (reset mine? hname).bind fun _ => (copy _).bind fun _ => put _ hname

theorem moveOver (payload : Payload) (mine? : Option Payload) (hname : name ∈ names) :
    Confined names (moveOver name payload mine?) := by
  unfold TypedStore.moveOver
  split
  · exact (put _ hname).bind fun _ => destroy mine?
  · refine (put none hname).bind fun _ => (emit _).bind fun _ => ?_
    split
    · exact put _ hname
    · rename_i halt hdropped
      refine (emit _).bind fun _ => ending fun fault heq => ?_
      exact Payload.droppedOf_ne_fault mine? fault (hdropped.trans heq)

theorem mutate (payload : Payload) (mine? : Option Payload) (hname : name ∈ names) :
    Confined names (mutate name payload mine?) := by
  unfold TypedStore.mutate
  split
  · exact (put _ hname).bind fun _ => (destroy mine?).bind fun _ => pure true
  · exact (destroy _).bind fun _ => pure false

theorem append (suffix : String) (mine? : Option Payload) (hname : name ∈ names) :
    Confined names (append name suffix mine?) := by
  unfold TypedStore.append
  split
  · exact (put _ hname).bind fun _ => pure true
  · exact pure false

end Confined

/-- Each command changes only the variables that it writes, and none ends in a fault. -/
theorem step_confined (command : ContainerCommand) : Confined command.written (step command) := by
  cases command with
  | new name payload? =>
      refine (Confined.read payload?).bind fun payload? => ?_
      exact (Confined.store payload? (by simp [ContainerCommand.written])).bind fun _ => .pure _
  | clone source target =>
      refine (Confined.valueOf source).bind fun value? => ?_
      refine (Confined.copyOf value?).bind fun copy? => ?_
      exact (Confined.store copy? (by simp [ContainerCommand.written])).bind fun _ => .pure _
  | assign source target =>
      refine (Confined.valueOf source).bind fun theirs? => .tracked fun mine? => ?_
      split
      · exact .pure ()
      · exact .copyOver theirs? mine? (by simp [ContainerCommand.written])
  | assignValue name payload =>
      refine (Confined.valueOf name).bind fun _ => (Confined.read payload).bind fun payload => ?_
      exact .tracked fun mine? => .moveOver payload mine? (by simp [ContainerCommand.written])
  | swap first second =>
      simp only [step]
      have hrest : Confined [first, second] (do
          let firstValue? ← TypedStore.valueOf first
          let secondValue? ← TypedStore.valueOf second
          TypedStore.put first secondValue?
          TypedStore.put second firstValue?
          return Answer.nothing) :=
        (Confined.valueOf first).bind fun _ => (Confined.valueOf second).bind fun _ =>
          (Confined.put _ (by simp)).bind fun _ => (Confined.put _ (by simp)).bind fun _ => .pure _
      split
      · exact (Confined.complain _).bind fun _ => hrest
      · exact hrest
  | take source target =>
      refine (Confined.valueOf source).bind fun value? =>
        (Confined.put none (by simp [ContainerCommand.written])).bind fun _ => ?_
      exact (Confined.store value? (by simp [ContainerCommand.written])).bind fun _ => .pure _
  | reset name =>
      refine (Confined.valueOf name).bind fun value? => ?_
      exact (Confined.reset value? (by simp [ContainerCommand.written])).bind fun _ => .pure _
  | drop name =>
      refine Confined.get.bind fun store => ?_
      split
      · exact .pure _
      · exact (Confined.erase (by simp [ContainerCommand.written])).bind fun _ =>
          (Confined.destroy _).bind fun _ => .pure _
  | intoInner name type =>
      refine (Confined.valueOf name).bind fun value? => (Confined.read type).bind fun type => ?_
      split
      · split
        · exact (Confined.erase (by simp [ContainerCommand.written])).bind fun _ =>
            (Confined.destroy _).bind fun _ => .pure _
        · exact .pure _
      · exact .pure _
  | mutate name payload =>
      refine (Confined.valueOf name).bind fun mine? => ?_
      refine (Confined.read payload).bind fun payload => ?_
      exact (Confined.mutate payload mine? (by simp [ContainerCommand.written])).bind
        fun _ => .pure _
  | append name suffix =>
      refine (Confined.valueOf name).bind fun mine? => ?_
      exact (Confined.append suffix mine?
        (by simp [ContainerCommand.written])).bind fun _ => .pure _
  | holds name type =>
      exact (Confined.read type).bind fun type => (Confined.valueOf name).bind fun _ => .pure _
  | downcast name type =>
      exact (Confined.read type).bind fun type => (Confined.valueOf name).bind fun _ => .pure _

/-- No report of a whole run tells of a fault. -/
theorem reports_sound (commands : List (Except Complaint ContainerCommand)) (store : TypedStore) :
    ∀ shown ∈ (commands.mapM report store).1, ∀ fault,
      shown.outcome ≠ .error (.halted (.fault fault)) := by
  induction commands generalizing store with
  | nil =>
      intro shown hmem
      exact absurd (show shown ∈ [] from hmem) List.not_mem_nil
  | cons command rest ih =>
      rw [List.mapM_cons, Action.bind_apply, Action.bind_apply, report_apply rfl]
      intro shown hmem fault
      rcases List.mem_cons.mp hmem with rfl | hrest
      · have hsound : Confined ((command.toOption.map ContainerCommand.written).getD [])
            (attempt command) := by
          cases command with
          | ok command => exact step_confined command
          | error complaint => exact .complain complaint
        exact hsound.sound store fault
      · exact ih _ shown hrest fault

end TypedStore

end DynamicValue
