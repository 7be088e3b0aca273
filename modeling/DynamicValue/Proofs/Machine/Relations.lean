/-
# Relations between a program and what becomes of it

Whatever an operation on dynamic values does to a program, it does by a few primitive changes: it
gives out an identity, builds a table, or changes the heap and the payloads, with events of copies
and ends only. A relation that each primitive change keeps to, and that is kept from one change to
the next, is kept by the operations that are made of them, however they end. The primitive changes
may be limited to some types; then so are the operations.
-/

import DynamicValue.Cell.Lifetime
import DynamicValue.Proofs.Machine.Coherence

namespace DynamicValue

/-- The conversion that an event reports. -/
def Event.conversion? : Event → Option (ValueType × ValueType)
  | converted source dest => some (source, dest)
  | cloned _ => none
  | dropped _ => none

/-- An action leads, however it ends, from a state to one that is related to it. -/
def Action.RespectsAt {ε σ α : Type} (relation : σ → σ → Prop) (state : σ)
    (action : ExceptT ε (StateM σ) α) : Prop :=
  relation state (action.run state).2

/-- An action leads from every state to one that is related to it. -/
def Action.Respects {ε σ α : Type} (relation : σ → σ → Prop)
    (action : ExceptT ε (StateM σ) α) : Prop :=
  ∀ state, RespectsAt relation state action

/-- A relation between states that is kept by doing nothing and by doing one thing after another. -/
structure Composes {σ : Type} (relation : σ → σ → Prop) : Prop where
  refl : ∀ state, relation state state
  trans : ∀ {first second third}, relation first second → relation second third →
    relation first third

/-- A part that is left as it is. -/
theorem Composes.same {σ ρ : Type} (part : σ → ρ) :
    Composes fun state after => part after = part state :=
  ⟨fun _ => rfl, fun hfirst hsecond => hsecond.trans hfirst⟩

/-- A relation between parts of states, as one between the states. -/
theorem Composes.on {σ τ : Type} {relation : σ → σ → Prop} (hcomposes : Composes relation)
    (part : τ → σ) : Composes fun state after => relation (part state) (part after) :=
  ⟨fun _ => hcomposes.refl _, hcomposes.trans⟩

namespace Action

variable {ε σ τ α β : Type} {relation : σ → σ → Prop} {state : σ}

/-! ## Single states -/

namespace RespectsAt

theorem of_run {action : ExceptT ε (StateM σ) α} {outcome : Except ε α} {after : σ}
    (hrun : action.run state = (outcome, after)) (hrelated : relation state after) :
    RespectsAt relation state action := by
  unfold RespectsAt
  rwa [hrun]

theorem related {action : ExceptT ε (StateM σ) α} {outcome : Except ε α} {after : σ}
    (haction : RespectsAt relation state action) (hrun : action.run state = (outcome, after)) :
    relation state after := by
  unfold RespectsAt at haction
  rwa [hrun] at haction

variable (hcomposes : Composes relation)
include hcomposes

theorem pure (value : α) : RespectsAt relation state (Pure.pure value : ExceptT ε (StateM σ) α) :=
  hcomposes.refl state

/-- A part is followed by parts that keep to the relation from where it ends. -/
theorem bind {action : ExceptT ε (StateM σ) α} {next : α → ExceptT ε (StateM σ) β}
    (haction : RespectsAt relation state action)
    (hnext : ∀ value after, action.run state = (.ok value, after) →
      RespectsAt relation after (next value)) :
    RespectsAt relation state (action >>= next) := by
  unfold RespectsAt at haction ⊢
  rcases hrun : action.run state with ⟨outcome, after⟩
  rw [hrun] at haction
  cases outcome with
  | error failure =>
      rw [run_bind_error _ hrun]
      exact haction
  | ok value =>
      rw [run_bind_ok _ hrun]
      exact hcomposes.trans haction (hnext value after hrun)

/-- A first part that is known to succeed. -/
theorem bind_of_ok {action : ExceptT ε (StateM σ) α} {next : α → ExceptT ε (StateM σ) β}
    {value : α} {after : σ} (hrun : action.run state = (.ok value, after))
    (hrelated : relation state after) (hnext : RespectsAt relation after (next value)) :
    RespectsAt relation state (action >>= next) := by
  refine bind hcomposes (of_run hrun hrelated) fun other later hother => ?_
  rw [hrun] at hother
  cases hother
  exact hnext

theorem unwinding {action : Action σ α} {cleanUp : Action σ Unit} {state : σ}
    (haction : RespectsAt relation state action)
    (hcleanUp : ∀ after, RespectsAt relation after cleanUp) :
    RespectsAt relation state (action.unwinding cleanUp) := by
  unfold RespectsAt at haction ⊢
  rcases hrun : action.run state with ⟨outcome, after⟩
  rw [hrun] at haction
  cases outcome with
  | error halt =>
      rw [run_unwinding_error _ hrun]
      exact hcomposes.trans haction (hcleanUp after)
  | ok value =>
      rw [run_unwinding_ok _ hrun]
      exact haction

/-- An action with a local value, which is not seen by the relation. -/
theorem withLocal {start : τ} {giveUp : τ → Action σ Unit} {action : Action (σ × τ) α} {state : σ}
    (haction : RespectsAt (fun state after => relation state.1 after.1) (state, start) action)
    (hgiveUp : ∀ final after, RespectsAt relation after (giveUp final)) :
    RespectsAt relation state (Action.withLocal start giveUp action) := by
  unfold RespectsAt at haction ⊢
  rcases hrun : action.run (state, start) with ⟨outcome, after, final⟩
  rw [hrun] at haction
  cases outcome with
  | error halt =>
      rw [run_withLocal_error _ hrun]
      exact hcomposes.trans haction (hgiveUp final after)
  | ok value =>
      rw [run_withLocal_ok _ hrun]
      exact haction

end RespectsAt

/-! ## All states -/

namespace Respects

/-- A change of the state that cannot fail, as a part of an action. -/
theorem lift {change : StateM σ α} (hchange : ∀ state, relation state (change state).2) :
    Respects relation (liftM change : ExceptT ε (StateM σ) α) := hchange

theorem changing {change : σ → σ} (hchange : ∀ state, relation state (change state)) :
    Respects relation (modify change : ExceptT ε (StateM σ) PUnit) := hchange

/-- A result that is changed by a function. -/
theorem map {action : ExceptT ε (StateM σ) α} (haction : Respects relation action)
    (change : α → β) : Respects relation (change <$> action) := fun state => by
  unfold RespectsAt
  rw [run_map]
  exact haction state

/-- An action that runs on a part of the state. -/
theorem within {part : σ → τ} {replace : σ → τ → σ} {inner : τ → τ → Prop}
    {action : Action τ α} (haction : Respects inner action)
    (hreplace : ∀ state changed, inner (part state) changed →
      relation state (replace state changed)) :
    Respects relation (action.within part replace) :=
  fun state => hreplace state _ (haction (part state))

variable (hcomposes : Composes relation)
include hcomposes

theorem pure (value : α) : Respects relation (Pure.pure value : ExceptT ε (StateM σ) α) :=
  fun state => hcomposes.refl state

theorem throw (failure : ε) : Respects relation (throw failure : ExceptT ε (StateM σ) α) :=
  fun state => hcomposes.refl state

theorem get : Respects relation (get : ExceptT ε (StateM σ) σ) := fun state => hcomposes.refl state

theorem bind {action : ExceptT ε (StateM σ) α} {next : α → ExceptT ε (StateM σ) β}
    (haction : Respects relation action) (hnext : ∀ value, Respects relation (next value)) :
    Respects relation (action >>= next) :=
  fun state => .bind hcomposes (haction state) fun value after _ => hnext value after

theorem unwinding {action : Action σ α} {cleanUp : Action σ Unit}
    (haction : Respects relation action) (hcleanUp : Respects relation cleanUp) :
    Respects relation (action.unwinding cleanUp) :=
  fun state => .unwinding hcomposes (haction state) hcleanUp

end Respects

end Action

open DynamicValue.Action (Respects RespectsAt)

/-! ## Looking at values -/

section Looking

variable {relation : Machine → Machine → Prop} (hcomposes : Composes relation)
include hcomposes

theorem Machine.respects_load (address : Nat) : Respects relation (load address) := by
  refine .bind hcomposes (.get hcomposes) fun machine => ?_
  split
  · exact .pure hcomposes _
  · exact .throw hcomposes _

theorem Slot.respects_read (type : ValueType) (slot : Slot) :
    Respects relation (slot.read type) := by
  have hchecked (contents : Instance) : Respects relation (if contents.payload.type = type
      then pure contents else Action.fault .wrongType : Action Machine Instance) := by
    split
    · exact .pure hcomposes _
    · exact .throw hcomposes _
  unfold read
  split
  · exact .bind hcomposes (.pure hcomposes _) hchecked
  · exact .bind hcomposes (Machine.respects_load hcomposes _) hchecked
  · exact .bind hcomposes (.throw hcomposes _) hchecked

namespace Cell

theorem respects_contents? (cell : Cell) : Respects relation cell.contents? := by
  unfold contents?
  split
  · exact (Slot.respects_read hcomposes _ _).map some
  · exact .pure hcomposes _

theorem respects_holds (cell : Cell) (type : ValueType) : Respects relation (cell.holds type) := by
  refine .bind hcomposes (cell.respects_contents? hcomposes) fun contents? => ?_
  split <;> exact .pure hcomposes _

theorem respects_instanceOf? (cell : Cell) (type : ValueType) :
    Respects relation (cell.instanceOf? type) := by
  refine .bind hcomposes (cell.respects_contents? hcomposes) fun contents? => ?_
  split <;> exact .pure hcomposes _

theorem respects_valueOf? (cell : Cell) (type : ValueType) :
    Respects relation (cell.valueOf? type) := by
  refine .bind hcomposes (cell.respects_contents? hcomposes) fun contents? => ?_
  split <;> exact .pure hcomposes _

theorem respects_text (cell : Cell) : Respects relation cell.text := by
  refine .bind hcomposes (cell.respects_contents? hcomposes) fun contents? => ?_
  split <;> exact .pure hcomposes _

theorem respects_debugText (cell : Cell) : Respects relation cell.debugText := by
  unfold debugText
  split
  · exact .bind hcomposes (cell.respects_text hcomposes) fun _ => .pure hcomposes _
  · exact .pure hcomposes _

theorem respects_pushOnto (cell : Cell) (stack : List HostValue) :
    Respects relation (cell.pushOnto stack) := by
  refine .bind hcomposes (cell.respects_contents? hcomposes) fun contents? => ?_
  split <;> exact .pure hcomposes _

end Cell

end Looking

/-! ## Changing programs -/

/-- A relation between programs that the primitive changes keep to which have to do with the given
types. -/
structure Machine.Allows (types : ValueType → Prop) (relation : Machine → Machine → Prop) : Prop
    extends Composes relation where
  advance : ∀ (machine : Machine) (heap : List (Option Instance)) (created : Nat)
    (destroyed : List Nat) (events : List Event), (∀ event ∈ events, event.conversion? = none) →
    relation machine (machine.advance heap created destroyed events)
  identify : ∀ type machine, types type → relation machine (Machine.identify type machine).2
  tableFor : ∀ type machine, types type → relation machine (Machine.tableFor type machine).2

/-- No primitive change has to do with the global registry. -/
theorem Machine.allows_global? :
    Allows (fun _ => True) fun machine after => after.global? = machine.global? where
  toComposes := .same global?
  advance _ _ _ _ _ _ := rfl
  identify type machine _ := (identify_learns type machine).global?
  tableFor type machine _ := (tableFor_learns type machine).global?

variable {types : ValueType → Prop} {relation : Machine → Machine → Prop}
  (hallows : Machine.Allows types relation)

/-! ## Payloads -/

namespace Payload

theorem conversion?_of_mem_dropEvents {payload : Payload} {event : Event}
    (hmem : event ∈ payload.dropEvents) : event.conversion? = none := by
  unfold dropEvents at hmem
  split at hmem
  · rw [List.mem_singleton.mp hmem]
    rfl
  · cases hmem

theorem conversion?_of_mem_copyEvents {payload : Payload} {event : Event}
    (hmem : event ∈ payload.copyEvents) : event.conversion? = none := by
  unfold copyEvents at hmem
  split at hmem
  · rw [List.mem_singleton.mp hmem]
    rfl
  · cases hmem

end Payload

namespace Machine

include hallows

theorem respects_create (payload : Payload) :
    Respects relation (create payload : Action Machine Instance) := .lift fun machine => by
  rw [create_apply]
  exact hallows.advance machine _ 1 [] [] (by simp)

theorem respects_discard (doomed : Instance) :
    Respects relation (discard doomed : Action Machine Unit) := .lift fun machine => by
  rw [discard_apply]
  exact hallows.advance machine _ 0 _ _ fun _ => Payload.conversion?_of_mem_dropEvents

theorem respects_destroy (doomed : Instance) : Respects relation (destroy doomed) :=
  fun machine => .of_run (destroy_run doomed machine)
    (hallows.advance machine _ 0 _ _ fun _ => Payload.conversion?_of_mem_dropEvents)

theorem respects_clone (source : Instance) : Respects relation (clone source) := by
  intro machine
  cases hcopied : source.payload.copied with
  | error halt =>
      exact .of_run (clone_run_error hcopied machine)
        (hallows.advance machine _ 0 [] _ fun _ => Payload.conversion?_of_mem_copyEvents)
  | ok copied =>
      exact .of_run (clone_run_ok hcopied machine)
        (hallows.advance machine _ 1 [] _ fun _ => Payload.conversion?_of_mem_copyEvents)

/-- A change of nothing but the heap. -/
theorem relation_heap (machine : Machine) (heap : List (Option Instance)) :
    relation machine { machine with heap := heap } := by
  have hadvance := hallows.advance machine heap 0 [] [] (by simp)
  simpa only [Machine.advance, Nat.add_zero, List.append_nil] using hadvance

theorem respects_store (address : Nat) (contents : Instance) :
    Respects relation (store address contents : Action Machine Unit) := .lift fun machine => by
  rw [store_apply]
  exact hallows.advance machine _ 0 [] [] (by simp)

theorem respects_free (address : Nat) : Respects relation (free address) :=
  .bind hallows.toComposes (respects_load hallows.toComposes address) fun contents =>
    .bind hallows.toComposes (.changing fun machine => relation_heap hallows machine _) fun _ =>
      .pure hallows.toComposes contents

end Machine

/-! ## Slots and dynamic values -/

namespace Slot

include hallows

theorem respects_fill (contents : Instance) :
    Respects relation (fill contents : Action Machine Slot) := .lift fun machine => by
  unfold fill
  split
  · exact hallows.refl machine
  · exact Machine.relation_heap hallows machine _

theorem respects_exchange (slot : Slot) (contents : Instance) :
    Respects relation (slot.exchange contents) := by
  have hcomposes := hallows.toComposes
  refine .bind hcomposes (respects_read hcomposes _ slot) fun old => ?_
  split
  · exact .bind hcomposes (Machine.respects_store hallows _ _) fun _ => .pure hcomposes _
  · exact .pure hcomposes _

theorem respects_empty (type : ValueType) (slot : Slot) :
    Respects relation (slot.empty type) := by
  refine .bind hallows.toComposes (respects_read hallows.toComposes type slot) fun contents => ?_
  split
  · exact Machine.respects_free hallows _
  · exact .pure hallows.toComposes _

end Slot

namespace Cell

include hallows

/-- A value is made with the table of its type. -/
theorem respects_ofInstance (contents : Instance) (htype : types contents.payload.type) :
    Respects relation (ofInstance contents : Action Machine Cell) := fun machine =>
  hallows.trans (hallows.tableFor _ machine htype) (Slot.respects_fill hallows contents _)

theorem respects_ofPayload (payload : Payload) (htype : types payload.type) :
    Respects relation (ofPayload payload : Action Machine Cell) := fun machine =>
  hallows.trans (Machine.respects_create hallows payload machine)
    (respects_ofInstance hallows _ htype _)

theorem respects_clone (cell : Cell) : Respects relation cell.clone := by
  have hcomposes := hallows.toComposes
  unfold clone
  split
  · exact .bind hcomposes (Slot.respects_read hcomposes _ _) fun source =>
      .bind hcomposes (Machine.respects_clone hallows source) fun copied =>
        .bind hcomposes (Slot.respects_fill hallows copied) fun _ => .pure hcomposes _
  · exact .pure hcomposes _

theorem respects_intoInstance? (cell : Cell) : Respects relation cell.intoInstance? := by
  unfold intoInstance?
  split
  · exact (Slot.respects_empty hallows _ _).map some
  · exact .pure hallows.toComposes _

theorem respects_destroy (cell : Cell) : Respects relation cell.destroy := by
  refine .bind hallows.toComposes (cell.respects_intoInstance? hallows) fun contents? => ?_
  split
  · exact Machine.respects_destroy hallows _
  · exact .pure hallows.toComposes _

theorem respects_discard (cell : Cell) : Respects relation cell.discard := by
  refine .bind hallows.toComposes (cell.respects_intoInstance? hallows) fun contents? => ?_
  split
  · exact Machine.respects_discard hallows _
  · exact .pure hallows.toComposes _

/-- The end of the scope of a value keeps to the relation if what is done in it does. -/
theorem respectsAt_inScope {α : Type} (cell : Cell) {machine : Machine} {action : Action Machine α}
    (haction : RespectsAt relation machine action) :
    RespectsAt relation machine (cell.inScope action) := by
  have hcomposes := hallows.toComposes
  refine .bind hcomposes (.unwinding hcomposes haction (cell.respects_discard hallows)) ?_
  intro result after _
  exact Respects.bind hcomposes (cell.respects_destroy hallows) (fun _ => .pure hcomposes _) after

theorem respects_discardAll (cells : List Cell) : Respects relation (discardAll cells) := by
  induction cells with
  | nil => exact .pure hallows.toComposes _
  | cons cell cells ih =>
      exact .bind hallows.toComposes (cell.respects_discard hallows) fun _ => ih

theorem respects_destroyAll (cells : List Cell) : Respects relation (destroyAll cells) := by
  have hcomposes := hallows.toComposes
  induction cells with
  | nil => exact .pure hcomposes _
  | cons cell cells ih =>
      exact .bind hcomposes (.unwinding hcomposes (cell.respects_destroy hallows)
        (respects_discardAll hallows cells)) fun _ => ih

end Cell

end DynamicValue
