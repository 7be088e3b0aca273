/-
# The typed store with its types exchanged

The typed store knows nothing of slots and boxes, so nothing in it depends on which of the two types
of probes a value has, except where two types are compared; and types that are exchanged are the
same if they were the same before. So each step of the store does the same on the exchanged store,
given the command with its types exchanged: it answers with the types exchanged, fails in the same
way, and leaves the exchanged variables and events.
-/

import DynamicValue.Proofs.Directory
import DynamicValue.Proofs.Exchange.Command
import DynamicValue.Proofs.Session.TypedStore

namespace DynamicValue

open ValueType (exchangeName_name exchangeName_shownName)

/-- The command with the types in it exchanged. -/
def ContainerCommand.exchanged : ContainerCommand → ContainerCommand
  | new name payload? => new name (payload?.map (Option.map Payload.exchanged))
  | assignValue name payload => assignValue name (payload.map Payload.exchanged)
  | intoInner name type => intoInner name (type.map ValueType.exchanged)
  | mutate name payload => mutate name (payload.map Payload.exchanged)
  | holds name type => holds name (type.map ValueType.exchanged)
  | downcast name type => downcast name (type.map ValueType.exchanged)
  | other => other

theorem ContainerCommand.command_exchanged (command : ContainerCommand) :
    command.exchanged.command = command.command.exchanged := by
  cases command <;> rfl

namespace TypedStore

/-- The store with the types of its values and events exchanged. -/
def exchanged (store : TypedStore) : TypedStore :=
  ⟨store.contents.map (Option.map Payload.exchanged), store.events.map Event.exchanged⟩

theorem get?_exchanged (store : TypedStore) (name : String) :
    store.exchanged.contents.get? name =
      (store.contents.get? name).map (Option.map Payload.exchanged) :=
  Directory.get?_map _ _ _

/-- The exchanged store shows the same variables, with the names of their types exchanged. -/
theorem views_exchanged (store : TypedStore) :
    store.exchanged.views = store.views.map VariableView.exchanged := by
  change (store.contents.entries.map _).map _ = (store.contents.entries.map _).map _
  rw [List.map_map, List.map_map]
  refine List.map_congr_left fun ⟨name, value?⟩ _ => ?_
  cases value? with
  | none => exact congrArg (VariableView.mk name · "") (exchangeName_shownName none).symm
  | some payload =>
      exact congrArg₂ (VariableView.mk name) (exchangeName_name payload.type).symm
        payload.text_exchanged

/-- An action that does on the exchanged store what another one does on the store, up to a change of
the values that it gives. -/
def Equivariant {α β : Type} (action : StoreAction α) (other : StoreAction β) (change : α → β) :
    Prop :=
  ∀ store, other.run store.exchanged =
    ((action.run store).1.map change, (action.run store).2.exchanged)

namespace Equivariant

variable {α β γ δ : Type} {name : String}

/-! ## Parts of steps -/

theorem pure {change : α → β} {value : α} {value' : β} (hvalues : value' = change value) :
    Equivariant (Pure.pure value) (Pure.pure value') change := by
  subst hvalues
  exact fun _ => rfl

theorem complain {change : α → β} (complaint : Complaint) :
    Equivariant (complain complaint) (TypedStore.complain complaint) change := fun _ => rfl

theorem bind {action : StoreAction α} {other : StoreAction β} {change : α → β}
    {next : α → StoreAction γ} {next' : β → StoreAction δ} {final : γ → δ}
    (haction : Equivariant action other change)
    (hnext : ∀ value, Equivariant (next value) (next' (change value)) final) :
    Equivariant (action >>= next) (other >>= next') final := by
  intro store
  have hother := haction store
  rcases hrun : action.run store with ⟨outcome, after⟩
  rw [hrun] at hother
  cases outcome with
  | error failure => rw [Action.run_bind_error _ hrun, Action.run_bind_error _ hother]; rfl
  | ok value => rw [Action.run_bind_ok _ hrun, Action.run_bind_ok _ hother, hnext value]

/-- What follows from what an action gives. -/
theorem answer {action : StoreAction α} {other : StoreAction β} {change : α → β} {final : γ → δ}
    {value : α → γ} {value' : β → δ} (haction : Equivariant action other change)
    (hvalues : ∀ given, value' (change given) = final (value given)) :
    Equivariant (action >>= fun given => Pure.pure (value given))
      (other >>= fun given => Pure.pure (value' given)) final :=
  haction.bind fun given => pure (hvalues given)

theorem read {change : α → β} (reading : Reading α) :
    Equivariant (TypedStore.read reading) (TypedStore.read (reading.map change)) change := by
  intro store
  cases reading <;> rfl

theorem get : Equivariant MonadState.get MonadState.get exchanged := fun _ => rfl

theorem emit (events : List Event) :
    Equivariant (emit events) (TypedStore.emit (events.map Event.exchanged)) id := by
  intro store
  simp [TypedStore.emit, exchanged]

theorem ending (outcome : Except Halt Unit) :
    Equivariant (ending outcome) (TypedStore.ending outcome) id := by
  intro store
  cases outcome <;> rfl

theorem put (name : String) (value? : Option Payload) :
    Equivariant (put name value?) (TypedStore.put name (value?.map Payload.exchanged)) id := by
  intro store
  simp [TypedStore.put, exchanged, Directory.map_insert]

theorem erase (name : String) : Equivariant (erase name) (TypedStore.erase name) id := by
  intro store
  simp [TypedStore.erase, exchanged, Directory.map_erase]

theorem valueOf (name : String) :
    Equivariant (valueOf name) (TypedStore.valueOf name) (Option.map Payload.exchanged) := by
  refine get.bind fun store => ?_
  rw [store.get?_exchanged]
  cases store.contents.get? name with
  | none => exact complain _
  | some value? => exact pure rfl

theorem copy (payload : Payload) :
    Equivariant (copy payload) (TypedStore.copy payload.exchanged) Payload.exchanged := by
  have hcopied := payload.copied_exchanged
  unfold TypedStore.copy
  rw [payload.copyEvents_exchanged, hcopied]
  refine (emit _).bind fun _ store => ?_
  cases payload.copied <;> rfl

theorem copyOf (value? : Option Payload) :
    Equivariant (copyOf value?) (TypedStore.copyOf (value?.map Payload.exchanged))
      (Option.map Payload.exchanged) := by
  cases value? with
  | none => exact pure rfl
  | some payload => exact (copy payload).answer fun _ => rfl

theorem destroy (value? : Option Payload) :
    Equivariant (destroy value?) (TypedStore.destroy (value?.map Payload.exchanged)) id := by
  unfold TypedStore.destroy
  rw [Payload.dropEventsOf_exchanged, Payload.droppedOf_exchanged]
  exact (emit _).bind fun _ => ending _

theorem store (name : String) (value? : Option Payload) :
    Equivariant (store name value?) (TypedStore.store name (value?.map Payload.exchanged)) id := by
  refine get.bind fun store => ?_
  have hold : (store.exchanged.contents.get? name).join =
      (store.contents.get? name).join.map Payload.exchanged := by
    rw [store.get?_exchanged]
    cases store.contents.get? name <;> rfl
  rw [hold]
  exact (put name value?).bind fun _ => destroy _

/-! ## Changes of variables -/

theorem typeOf_exchanged (value? : Option Payload) :
    typeOf (value?.map Payload.exchanged) = (typeOf value?).map ValueType.exchanged := by
  cases value? <;> rfl

/-- Types that are exchanged are the same if they were the same before. -/
theorem exchanged_eq_iff {first? second? : Option ValueType} :
    first?.map ValueType.exchanged = second?.map ValueType.exchanged ↔ first? = second? :=
  (Option.map_injective fun _ _ => ValueType.exchanged_inj.mp).eq_iff

/-- A comparison of the type of a value with another type. -/
theorem comparing {change : α → β} (first? second? : Option Payload)
    {same differ : StoreAction α} {same' differ' : StoreAction β}
    (hsame : Equivariant same same' change) (hdiffer : Equivariant differ differ' change) :
    Equivariant (if typeOf first? = typeOf second? then same else differ)
      (if typeOf (first?.map Payload.exchanged) = typeOf (second?.map Payload.exchanged)
        then same' else differ') change := by
  simp only [typeOf_exchanged, exchanged_eq_iff]
  split
  · exact hsame
  · exact hdiffer

theorem tracked {change change' : Option Payload → StoreAction Unit}
    (hchange : ∀ mine?, Equivariant (change mine?) (change' (mine?.map Payload.exchanged)) id) :
    Equivariant (tracked name change) (TypedStore.tracked name change') Answer.exchanged := by
  refine (valueOf name).bind fun before? => (hchange before?).bind fun _ => ?_
  refine (valueOf name).answer fun after? => ?_
  simp only [typeOf_exchanged, exchanged_eq_iff]
  rfl

theorem reset (mine? : Option Payload) :
    Equivariant (reset name mine?) (TypedStore.reset name (mine?.map Payload.exchanged)) id :=
  (put name none).bind fun _ => destroy mine?

theorem copyOver (theirs? mine? : Option Payload) :
    Equivariant (copyOver name theirs? mine?)
      (TypedStore.copyOver name (theirs?.map Payload.exchanged) (mine?.map Payload.exchanged))
      id := by
  cases theirs? with
  | none => exact reset mine?
  | some theirs =>
      refine comparing mine? (some theirs) ?_ ?_
      · exact (copy theirs).bind fun copied => (put name (some copied)).bind fun _ => destroy mine?
      · exact (reset mine?).bind fun _ => (copy theirs).bind fun copied => put name (some copied)

theorem moveOver (payload : Payload) (mine? : Option Payload) :
    Equivariant (moveOver name payload mine?)
      (TypedStore.moveOver name payload.exchanged (mine?.map Payload.exchanged)) id := by
  refine comparing mine? (some payload) ?_ ?_
  · exact (put name (some payload)).bind fun _ => destroy mine?
  · rw [Payload.dropEventsOf_exchanged, Payload.droppedOf_exchanged, payload.dropEvents_exchanged]
    refine (put name none).bind fun _ => (emit _).bind fun _ => ?_
    cases Payload.droppedOf mine? with
    | ok _ => exact put name (some payload)
    | error halt => exact (emit _).bind fun _ => ending _

theorem mutate (payload : Payload) (mine? : Option Payload) :
    Equivariant (mutate name payload mine?)
      (TypedStore.mutate name payload.exchanged (mine?.map Payload.exchanged)) id := by
  refine comparing mine? (some payload) ?_ ?_
  · exact (put name (some payload)).bind fun _ => (destroy mine?).answer fun _ => rfl
  · exact (destroy (some payload)).answer fun _ => rfl

/-- No probe is a text that could grow. -/
theorem append (suffix : String) (mine? : Option Payload) :
    Equivariant (append name suffix mine?)
      (TypedStore.append name suffix (mine?.map Payload.exchanged)) id := by
  cases mine? with
  | none => exact pure rfl
  | some mine =>
      obtain ⟨type, value⟩ := mine
      cases type with
      | text => exact (put name (some ⟨.text, value ++ suffix⟩)).answer fun _ => rfl
      | _ => exact pure rfl

/-! ## Steps -/

/-- Every step of the store does the same with the types exchanged. -/
theorem step (command : ContainerCommand) :
    Equivariant (step command) (TypedStore.step command.exchanged) Answer.exchanged := by
  cases command with
  | new name payload? =>
      exact (read payload?).bind fun value? => (store name value?).answer fun _ => rfl
  | clone source target =>
      exact (valueOf source).bind fun value? => (copyOf value?).bind fun copied? =>
        (store target copied?).answer fun _ => rfl
  | assign source target =>
      refine (valueOf source).bind fun theirs? => tracked fun mine? => ?_
      by_cases hsame : source = target
      · simp only [if_pos hsame]
        exact pure rfl
      · simp only [if_neg hsame]
        exact copyOver theirs? mine?
  | assignValue name payload =>
      exact (valueOf name).bind fun _ => (read payload).bind fun payload =>
        tracked fun mine? => moveOver payload mine?
  | swap first second =>
      by_cases hsame : first = second
      · simp only [TypedStore.step, ContainerCommand.exchanged, if_pos hsame]
        exact complain _
      · simp only [TypedStore.step, ContainerCommand.exchanged, if_neg hsame]
        exact (valueOf first).bind fun firstValue? => (valueOf second).bind fun secondValue? =>
          (put first secondValue?).bind fun _ => (put second firstValue?).answer fun _ => rfl
  | take source target =>
      exact (valueOf source).bind fun value? => (put source none).bind fun _ =>
        (store target value?).answer fun _ => rfl
  | reset name => exact (valueOf name).bind fun mine? => (reset mine?).answer fun _ => rfl
  | drop name =>
      refine get.bind fun store => ?_
      rw [store.get?_exchanged]
      cases store.contents.get? name with
      | none => exact pure rfl
      | some value? => exact (erase name).bind fun _ => (destroy value?).answer fun _ => rfl
  | intoInner name type =>
      refine (valueOf name).bind fun value? => (read type).bind fun type => ?_
      cases value? with
      | none => exact pure rfl
      | some payload =>
          simp only [Option.map_some, Payload.exchanged_type, ValueType.exchanged_inj]
          split
          · exact (erase name).bind fun _ => (destroy (some payload)).answer fun _ => rfl
          · exact pure rfl
  | mutate name payload =>
      exact (valueOf name).bind fun mine? => (read payload).bind fun payload =>
        (mutate payload mine?).answer fun _ => rfl
  | append name suffix =>
      exact (valueOf name).bind fun mine? => (append suffix mine?).answer fun _ => rfl
  | holds name type =>
      refine (read type).bind fun type => (valueOf name).answer fun value? => ?_
      refine congrArg Answer.truth (decide_eq_decide.mpr ?_)
      rw [typeOf_exchanged, ← Option.map_some, exchanged_eq_iff]
  | downcast name type =>
      refine (read type).bind fun type => (valueOf name).answer fun value? => ?_
      cases value? with
      | none => rfl
      | some payload =>
          simp only [Option.map_some, Option.filter_some, Payload.exchanged_type,
            ValueType.exchanged_inj]
          split <;> rfl

end Equivariant

end TypedStore

end DynamicValue
