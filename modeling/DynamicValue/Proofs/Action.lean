/-
# Running actions

What an action does is what its run gives on a state: an outcome and the state that it leaves. These
lemmas run the combinators from which actions are built, so that a proof can follow an action from
one part to the next. A part that succeeds hands its result on; a part that halts ends the whole.

The lemmas are stated for any type of failure, so they serve the actions of a program, which halt,
and the steps of a session, which fail.
-/

import DynamicValue.Session.State

namespace DynamicValue.Action

section Sequence

variable {ε σ α β : Type} {action : ExceptT ε (StateM σ) α} {state changed : σ}

@[simp] theorem run_pure (value : α) (state : σ) :
    (pure value : ExceptT ε (StateM σ) α).run state = (.ok value, state) := rfl

@[simp] theorem run_get (state : σ) :
    (get : ExceptT ε (StateM σ) σ).run state = (.ok state, state) := rfl

@[simp] theorem run_set (state changed : σ) :
    (set changed : ExceptT ε (StateM σ) PUnit).run state = (.ok ⟨⟩, changed) := rfl

@[simp] theorem run_modify (change : σ → σ) (state : σ) :
    (modify change : ExceptT ε (StateM σ) PUnit).run state = (.ok ⟨⟩, change state) := rfl

/-- A change of the state that cannot fail, as a part of an action. -/
@[simp] theorem run_lift (part : StateM σ α) (state : σ) :
    (liftM part : ExceptT ε (StateM σ) α).run state = (.ok (part state).1, (part state).2) := rfl

/-- A part that succeeds hands its result and its state on. -/
theorem run_bind_ok {value : α} (next : α → ExceptT ε (StateM σ) β)
    (hrun : action.run state = (.ok value, changed)) :
    (action >>= next).run state = (next value).run changed := by
  change ExceptT.bindCont next (action.run state).1 (action.run state).2 = _
  rw [hrun]
  rfl

/-- A part that fails ends the whole in the state that it leaves. -/
theorem run_bind_error {failure : ε} (next : α → ExceptT ε (StateM σ) β)
    (hrun : action.run state = (.error failure, changed)) :
    (action >>= next).run state = (.error failure, changed) := by
  change ExceptT.bindCont next (action.run state).1 (action.run state).2 = _
  rw [hrun]
  rfl

/-- Parts that do the same in a state can be exchanged there. -/
theorem run_bind_congr {other : ExceptT ε (StateM σ) α} (next : α → ExceptT ε (StateM σ) β)
    (hrun : action.run state = other.run state) :
    (action >>= next).run state = (other >>= next).run state := by
  change ExceptT.bindCont next (action.run state).1 (action.run state).2 = _
  rw [hrun]
  rfl

/-- A result that is changed by a function does not change the state. -/
theorem run_map (change : α → β) (action : ExceptT ε (StateM σ) α) (state : σ) :
    (change <$> action).run state =
      ((action.run state).1.map change, (action.run state).2) := by
  rcases hrun : action.run state with ⟨outcome, changed⟩
  cases outcome with
  | ok value => exact run_bind_ok (fun value => pure (change value)) hrun
  | error failure => exact run_bind_error (fun value => pure (change value)) hrun

/-- An action that is followed by nothing but its answer. -/
theorem run_bind_pure {outcome : Except ε α} (answer : α → β)
    (hrun : action.run state = (outcome, changed)) :
    (action >>= fun value => pure (answer value)).run state = (outcome.map answer, changed) := by
  cases outcome with
  | error failure => exact run_bind_error _ hrun
  | ok value => exact run_bind_ok _ hrun

end Sequence

section Ends

variable {ε σ α β : Type} {state after : σ} {action : ExceptT ε (StateM σ) α}
  {succeeds : α → σ → Prop} {fails : σ → Prop}

/-- How an action ends in a state: it may succeed with a value and leave a state of which something
is true, or it may fail and leave a state of which something else is true. -/
structure Ends (state : σ) (action : ExceptT ε (StateM σ) α) (succeeds : α → σ → Prop)
    (fails : σ → Prop) : Prop where
  ok : ∀ value after, action.run state = (.ok value, after) → succeeds value after
  error : ∀ failure after, action.run state = (.error failure, after) → fails after

namespace Ends

theorem of_ok {value : α} (hrun : action.run state = (.ok value, after))
    (hsucceeds : succeeds value after) : Ends state action succeeds fails where
  ok _ _ hother := by
    rw [hrun] at hother
    cases hother
    exact hsucceeds
  error _ _ hother := by
    rw [hrun] at hother
    cases hother

theorem of_error {failure : ε} (hrun : action.run state = (.error failure, after))
    (hfails : fails after) : Ends state action succeeds fails where
  ok _ _ hother := by
    rw [hrun] at hother
    cases hother
  error _ _ hother := by
    rw [hrun] at hother
    cases hother
    exact hfails

theorem pure {value : α} (hsucceeds : succeeds value state) :
    Ends state (Pure.pure value : ExceptT ε (StateM σ) α) succeeds fails :=
  of_ok (run_pure value state) hsucceeds

theorem throw (failure : ε) (hfails : fails state) :
    Ends state (throw failure : ExceptT ε (StateM σ) α) succeeds fails :=
  of_error rfl hfails

/-- A change of the state that cannot fail, as a part of an action. -/
theorem lift {part : StateM σ α} (hsucceeds : succeeds (part state).1 (part state).2) :
    Ends state (liftM part : ExceptT ε (StateM σ) α) succeeds fails :=
  of_ok (run_lift part state) hsucceeds

/-- An action that ends like another one does in its state. -/
theorem congr {other : ExceptT ε (StateM σ) α} {state' : σ}
    (hrun : action.run state = other.run state') (hother : Ends state' other succeeds fails) :
    Ends state action succeeds fails :=
  ⟨fun _ _ hends => hother.ok _ _ (hrun ▸ hends), fun _ _ hends => hother.error _ _ (hrun ▸ hends)⟩

/-- A first part that is known to succeed. -/
theorem bind_of_ok {next : α → ExceptT ε (StateM σ) β} {final : β → σ → Prop} {value : α}
    (hrun : action.run state = (.ok value, after))
    (hnext : Ends after (next value) final fails) : Ends state (action >>= next) final fails :=
  hnext.congr (run_bind_ok next hrun)

/-- Where the first part ends is where the rest begins. -/
theorem bind {next : α → ExceptT ε (StateM σ) β} {final : β → σ → Prop}
    (haction : Ends state action succeeds fails)
    (hnext : ∀ value after, succeeds value after → Ends after (next value) final fails) :
    Ends state (action >>= next) final fails := by
  rcases hrun : action.run state with ⟨outcome, after⟩
  cases outcome with
  | error failure => exact of_error (run_bind_error next hrun) (haction.error failure after hrun)
  | ok value => exact bind_of_ok hrun (hnext value after (haction.ok value after hrun))

theorem imp {succeeds' : α → σ → Prop} {fails' : σ → Prop}
    (haction : Ends state action succeeds fails)
    (hsucceeds : ∀ value after, succeeds value after → succeeds' value after)
    (hfails : ∀ after, fails after → fails' after) : Ends state action succeeds' fails' :=
  ⟨fun _ _ hrun => hsucceeds _ _ (haction.ok _ _ hrun),
    fun _ _ hrun => hfails _ (haction.error _ _ hrun)⟩

/-- What is true of the state that is left whether the action succeeds or fails. -/
theorem left {leaves : σ → Prop} (haction : Ends state action (fun _ => leaves) leaves) :
    leaves (action.run state).2 := by
  rcases hrun : action.run state with ⟨outcome, after⟩
  cases outcome with
  | error failure => exact haction.error failure after hrun
  | ok value => exact haction.ok value after hrun

theorem of_left {leaves : σ → Prop} (hleaves : leaves (action.run state).2) :
    Ends state action (fun _ => leaves) leaves where
  ok _ _ hrun := by rwa [hrun] at hleaves
  error _ _ hrun := by rwa [hrun] at hleaves

end Ends

end Ends

section Scope

variable {σ τ α : Type}

/-- Two changes of the state, one after the other. -/
theorem bind_apply {β : Type} (first : StateM σ α) (next : α → StateM σ β) (state : σ) :
    (first >>= next) state = next (first state).1 (first state).2 := rfl

theorem run_within (part : σ → τ) (replace : σ → τ → σ) (action : Action τ α) (state : σ) :
    (action.within part replace).run state =
      ((action.run (part state)).1, replace state (action.run (part state)).2) := rfl

/-- An action that succeeds is not cleaned up. -/
theorem run_unwinding_ok {action : Action σ α} {state changed : σ} {value : α}
    (cleanUp : Action σ Unit) (hrun : action.run state = (.ok value, changed)) :
    (unwinding action cleanUp).run state = (.ok value, changed) := by
  unfold unwinding
  rw [ExceptT.run_mk, bind_apply, hrun]
  rfl

/-- An action that halts is cleaned up, and the halt goes on whatever the clean-up does. -/
theorem run_unwinding_error {action : Action σ α} {state changed : σ} {halt : Halt}
    (cleanUp : Action σ Unit) (hrun : action.run state = (.error halt, changed)) :
    (unwinding action cleanUp).run state = (.error halt, (cleanUp.run changed).2) := by
  unfold unwinding
  rw [ExceptT.run_mk, bind_apply, hrun]
  rfl

/-- The local value of an action that succeeds is handed to the caller. -/
theorem run_withLocal_ok {action : Action (σ × τ) α} {state changed : σ} {start final : τ}
    {value : α} (giveUp : τ → Action σ Unit)
    (hrun : action.run (state, start) = (.ok value, changed, final)) :
    (withLocal start giveUp action).run state = (.ok (value, final), changed) := by
  unfold withLocal
  rw [ExceptT.run_mk, bind_apply, show (get : StateM σ σ) state = (state, state) from rfl]
  simp only [hrun]
  rfl

/-- The local value of an action that halts is given up. -/
theorem run_withLocal_error {action : Action (σ × τ) α} {state changed : σ} {start final : τ}
    {halt : Halt} (giveUp : τ → Action σ Unit)
    (hrun : action.run (state, start) = (.error halt, changed, final)) :
    (withLocal start giveUp action).run state = (.error halt, ((giveUp final).run changed).2) := by
  unfold withLocal
  rw [ExceptT.run_mk, bind_apply, show (get : StateM σ σ) state = (state, state) from rfl]
  simp only [hrun]
  rfl

/-- An action that is cleaned up after a halt. -/
theorem Ends.unwinding {action : Action σ α} {cleanUp : Action σ Unit} {state : σ}
    {succeeds : α → σ → Prop} {halted fails : σ → Prop}
    (haction : Ends state action succeeds halted)
    (hcleanUp : ∀ after, halted after → fails (cleanUp.run after).2) :
    Ends state (Action.unwinding action cleanUp) succeeds fails := by
  rcases hrun : action.run state with ⟨outcome, after⟩
  cases outcome with
  | error halt =>
      exact .of_error (run_unwinding_error cleanUp hrun)
        (hcleanUp after (haction.error halt after hrun))
  | ok value => exact .of_ok (run_unwinding_ok cleanUp hrun) (haction.ok value after hrun)

end Scope

end DynamicValue.Action
