/-
# The depth of nested conversions

How deep conversions may ask for each other is limited, and a coercion that would go deeper is
exhausted. The limit is seen in no other way: whatever else comes of a coercion at some depth comes
of it at every greater depth. No combinator takes up again what is exhausted, so this is a property
of actions that all combinators keep.
-/

import DynamicValue.Proofs.Registry.Settling

namespace DynamicValue

/-- An action ends like another one in every state where it is not exhausted. -/
def Action.Approximates {σ α : Type} (action other : Action σ α) : Prop :=
  ∀ state, (action.run state).1 ≠ .error .exhausted → other.run state = action.run state

namespace Action.Approximates

variable {σ τ α β : Type} {action other : Action σ α}

theorem refl (action : Action σ α) : action.Approximates action := fun _ _ => rfl

theorem exhausted (other : Action σ α) : Approximates (throw .exhausted) other :=
  fun _ hends => absurd rfl hends

section Runs

variable {state after : σ} (haction : action.Approximates other)
include haction

theorem run_ok {value : α} (hrun : action.run state = (.ok value, after)) :
    other.run state = (.ok value, after) :=
  (haction state (by rw [hrun]; exact fun heq => by cases heq)).trans hrun

theorem run_error {halt : Halt} (hrun : action.run state = (.error halt, after))
    (hhalt : halt ≠ .exhausted) : other.run state = (.error halt, after) :=
  (haction state (by rw [hrun]; exact fun heq => hhalt (Except.error.inj heq))).trans hrun

end Runs

theorem halt_ne {halt : Halt} (hends : (.error halt : Except Halt α) ≠ .error .exhausted) :
    halt ≠ .exhausted := fun heq => hends (congrArg Except.error heq)

/-- Parts that are followed by parts. What exhausts the first part exhausts the whole. -/
theorem bind {next next' : α → Action σ β} (haction : action.Approximates other)
    (hnext : ∀ value, (next value).Approximates (next' value)) :
    (action >>= next).Approximates (other >>= next') := by
  intro state hends
  rcases hrun : action.run state with ⟨outcome, after⟩
  cases outcome with
  | error halt =>
      rw [run_bind_error _ hrun] at hends ⊢
      exact run_bind_error _ (haction.run_error hrun (halt_ne hends))
  | ok value =>
      rw [run_bind_ok _ hrun] at hends ⊢
      rw [run_bind_ok _ (haction.run_ok hrun)]
      exact hnext value after hends

theorem unwinding (haction : action.Approximates other) (cleanUp : Action σ Unit) :
    (Action.unwinding action cleanUp).Approximates (Action.unwinding other cleanUp) := by
  intro state hends
  rcases hrun : action.run state with ⟨outcome, after⟩
  cases outcome with
  | error halt =>
      rw [run_unwinding_error _ hrun] at hends ⊢
      exact run_unwinding_error _ (haction.run_error hrun (halt_ne hends))
  | ok value => rw [run_unwinding_ok _ hrun, run_unwinding_ok _ (haction.run_ok hrun)]

theorem within {part : τ → σ} {replace : τ → σ → τ} (haction : action.Approximates other) :
    (action.within part replace).Approximates (other.within part replace) := by
  intro state hends
  rw [run_within] at hends
  rw [run_within, run_within, haction (part state) hends]

theorem withLocal {action other : Action (σ × τ) α} (haction : action.Approximates other)
    (start : τ) (giveUp : τ → Action σ Unit) :
    (Action.withLocal start giveUp action).Approximates
      (Action.withLocal start giveUp other) := by
  intro state hends
  rcases hrun : action.run (state, start) with ⟨outcome, after, final⟩
  cases outcome with
  | error halt =>
      rw [run_withLocal_error _ hrun] at hends ⊢
      exact run_withLocal_error _ (haction.run_error hrun (halt_ne hends))
  | ok value => rw [run_withLocal_ok _ hrun, run_withLocal_ok _ (haction.run_ok hrun)]

end Action.Approximates

/-- The requests that one converter meets are met in the same way by another one, unless they are
exhausted. -/
def Converter.Approximates (converter other : Converter) : Prop :=
  ∀ cell dest, (converter cell dest).Approximates (other cell dest)

section Converters

variable {converter other : Converter} (hconverters : converter.Approximates other)
include hconverters

theorem Plan.run_approximates {α : Type} (input : Instance) (plan : Plan α) :
    (plan.run converter input).Approximates (plan.run other input) := by
  -- the answer to a request is handed to the rest of the plan in the scope of the value
  have hrequest (cell : Cell) (dest : ValueType)
      (next : Except ConversionError dest.Value → Plan α)
      (hnext : ∀ answer, ((next answer).run converter input).Approximates
        ((next answer).run other input)) :
      Action.Approximates
        (cell.inScope do (next (← converter cell dest)).run converter input)
        (cell.inScope do (next (← other cell dest)).run other input) :=
    (((hconverters cell dest).bind hnext).unwinding cell.discard).bind fun _ => .refl _
  induction plan with
  | give value => exact .refl _
  | fail error => exact .refl _
  | identify type next ih => exact .bind (.refl _) fun identity => ih identity
  | report event next ih => exact .bind (.refl _) fun _ => ih
  | convert source dest next ih =>
      exact .bind (.refl _) fun cell => hrequest cell dest next ih
  | convertCopy dest next ih =>
      exact .bind (.refl _) fun _ => .bind (.refl _) fun cell => hrequest cell dest next ih

theorem RegistryEntry.apply_approximates (entry : RegistryEntry) (source : Instance) :
    (entry.apply converter source).Approximates (entry.apply other source) := by
  refine .bind (.refl _) fun casting => ?_
  cases source.payload.as? entry.source with
  | none => exact .refl _
  | some value =>
      simp only []
      split
      · exact .bind (Plan.run_approximates hconverters source _).within fun _ => .refl _
      · exact .refl _

theorem Registry.castWith_approximates (registry : Registry) (source : Instance)
    (sourceType destType : TypeIdentity) :
    (registry.castWith converter source sourceType destType).Approximates
      (registry.castWith other source sourceType destType) := by
  unfold castWith
  split
  · exact .refl _
  · split
    · exact .refl _
    · split
      · exact .refl _
      · exact RegistryEntry.apply_approximates hconverters _ source

theorem Registry.convertPayload_approximates (registry : Registry) (source : Instance)
    (sourceType destType : TypeIdentity) (dest : ValueType) :
    (registry.convertPayload converter source sourceType destType dest).Approximates
      (registry.convertPayload other source sourceType destType dest) :=
  .bind ((registry.castWith_approximates hconverters source sourceType destType).withLocal _ _)
    fun _ => .refl _

end Converters

/-- A coercion that is not exhausted ends in the same way at every greater depth. -/
theorem Registry.coerceWithin_approximates (registry : Registry) {depth deeper : Nat}
    (hle : depth ≤ deeper) :
    Converter.Approximates (registry.coerceWithin depth) (registry.coerceWithin deeper) := by
  induction depth generalizing deeper with
  | zero => exact fun _ _ => .exhausted _
  | succ depth ih =>
      obtain ⟨deeper, rfl⟩ : ∃ rest, deeper = rest + 1 := ⟨deeper - 1, by omega⟩
      intro cell dest
      rw [coerceWithin_succ, coerceWithin_succ]
      refine .bind (.refl _) fun identity => ?_
      split
      · exact .refl _
      · refine .bind (.refl _) fun contents? => ?_
        cases contents? with
        | none => exact .refl _
        | some source =>
            exact registry.convertPayload_approximates (ih (Nat.le_of_succ_le_succ hle)) source
              cell.identity identity dest

end DynamicValue
