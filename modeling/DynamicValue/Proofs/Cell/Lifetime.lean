/-
# The life of a dynamic value in terms of holdings

Making a value takes a payload over into the value's own holding, copying adds a holding for the
copy, and destroying a value ends its holding. None of them touches the rest of the list, also when
a payload panics on the way.
-/

import DynamicValue.Proofs.Cell.Holding

namespace DynamicValue

/-- A value was made in a program for a payload: it holds the payload, in addition to what was held
before. -/
structure Machine.Makes (machine : Machine) (holdings : List Holding) (payload : Payload)
    (cell : Cell) (made : Machine) (holding : Holding) : Prop where
  coherent : made.Coherent
  knows : machine.Extends made
  holds : cell.Holds made (some holding)
  payload_eq : holding.payload = payload
  accounts : made.Accounts (holding :: holdings)

namespace Cell

variable {machine : Machine} {holdings : List Holding} {holding : Holding} {cell : Cell}
  {holding? : Option Holding} {contents : Instance}

/-! ## Making and copying values -/

/-- A value that takes a payload over holds it, and nothing else changes but what the program knows
about types. -/
theorem ofInstance_apply (hcoherent : machine.Coherent)
    (haccounts : machine.Accounts (.loose contents :: holdings)) :
    ∃ cell holding known heap,
      ofInstance contents machine = (cell, known.advance heap 0 [] []) ∧
      machine.Learns known ∧ known.Coherent ∧
      cell.Holds (known.advance heap 0 [] []) (some holding) ∧ holding.contents = contents ∧
      (known.advance heap 0 [] []).Accounts (holding :: holdings) := by
  have hlearns := Machine.tableFor_learns contents.payload.type machine
  have hknown := Machine.tableFor_coherent hcoherent contents.payload.type
  obtain ⟨hlisted, htype⟩ :=
    hknown.table?_eq_some_iff.mp (Machine.table?_tableFor hcoherent contents.payload.type)
  obtain ⟨slot, holding, heap, hfill, hholds, hcontents, hafter⟩ :=
    Slot.fill_apply (hlearns.accounts haccounts) hlisted htype
  refine ⟨⟨some (Machine.tableFor contents.payload.type machine).1, slot⟩, holding,
    (Machine.tableFor contents.payload.type machine).2, heap, ?_, hlearns, hknown,
    hholds, hcontents, hafter⟩
  unfold ofInstance
  rw [Action.bind_apply, Action.bind_apply, hfill]
  rfl

/-- A new value holds a new payload. -/
theorem ofPayload_apply (hcoherent : machine.Coherent) (haccounts : machine.Accounts holdings)
    (payload : Payload) :
    ∃ cell holding known heap,
      ofPayload payload machine = (cell, known.advance heap 0 [] []) ∧
      (machine.advance machine.heap 1 [] []).Learns known ∧ known.Coherent ∧
      cell.Holds (known.advance heap 0 [] []) (some holding) ∧
      holding.contents = ⟨machine.created, payload⟩ ∧
      (known.advance heap 0 [] []).Accounts (holding :: holdings) := by
  obtain ⟨cell, holding, known, heap, hmade, hlearns, hknown, hholds, hcontents, hafter⟩ :=
    ofInstance_apply (hcoherent.advance machine.heap 1 [] []) (haccounts.create payload [])
  refine ⟨cell, holding, known, heap, ?_, hlearns, hknown, hholds, hcontents, hafter⟩
  unfold ofPayload
  rw [Action.bind_apply, Machine.create_apply]
  exact hmade

theorem ofPayload_makes (hcoherent : machine.Coherent) (haccounts : machine.Accounts holdings)
    (payload : Payload) :
    ∃ cell made holding, ofPayload payload machine = (cell, made) ∧
      machine.Makes holdings payload cell made holding := by
  obtain ⟨cell, holding, known, heap, hmade, hlearns, hknown, hholds, hcontents, hafter⟩ :=
    ofPayload_apply hcoherent haccounts payload
  refine ⟨cell, _, holding, hmade, hknown.advance _ _ _ _, ?_, hholds,
    congrArg Instance.payload hcontents, hafter⟩
  exact ((Machine.Extends.advance _ _ _ _ _).trans hlearns.toExtends).trans (.advance _ _ _ _ _)

/-- The copy of an empty value is empty. -/
theorem clone_run_none (hholds : cell.Holds machine none) :
    cell.clone.run machine = (.ok empty, machine) := by
  rw [hholds.eq_empty]
  rfl

/-- A copy that panics changes nothing but the trace. -/
theorem clone_run_error {halt : Halt} (haccounts : machine.Accounts holdings)
    (hholds : cell.Holds machine (some holding)) (hmem : holding ∈ holdings)
    (hcopied : holding.payload.copied = .error halt) :
    cell.clone.run machine =
      (.error halt, machine.advance machine.heap 0 [] holding.payload.copyEvents) := by
  obtain ⟨table, htable, -, -⟩ := hholds.exists_table
  obtain ⟨table?, slot⟩ := cell
  subst htable
  unfold clone
  simp only []
  rw [Action.run_bind_ok _ (Slot.read_run haccounts hholds hmem)]
  exact Action.run_bind_error _ (Machine.clone_run_error hcopied machine)

/-- A copy that succeeds holds a new payload and has the table of the original. -/
theorem clone_run_ok {copy : Payload} (haccounts : machine.Accounts holdings)
    (hholds : cell.Holds machine (some holding)) (hmem : holding ∈ holdings)
    (hcopied : holding.payload.copied = .ok copy) :
    ∃ copied copiedHolding heap,
      cell.clone.run machine =
        (.ok copied, machine.advance heap 1 [] holding.payload.copyEvents) ∧
      copied.Holds (machine.advance heap 1 [] holding.payload.copyEvents) (some copiedHolding) ∧
      copiedHolding.contents = ⟨machine.created, copy⟩ ∧
      (machine.advance heap 1 [] holding.payload.copyEvents).Accounts
        (copiedHolding :: holdings) := by
  obtain ⟨table, htable, hlisted, htype⟩ := hholds.exists_table
  obtain ⟨table?, slot⟩ := cell
  subst htable
  obtain ⟨slot', copiedHolding, heap, hfill, hcopy, hcontents, hafter⟩ :=
    Slot.fill_apply (haccounts.create copy holding.payload.copyEvents) hlisted
      (htype.trans (Payload.type_of_copied hcopied).symm)
  simp only [Machine.advance_advance, List.append_nil, Nat.add_zero] at hfill hcopy hafter
  have hclone : (Machine.clone holding.contents).run machine =
      (.ok ⟨machine.created, copy⟩,
        machine.advance machine.heap 1 [] holding.payload.copyEvents) :=
    Machine.clone_run_ok hcopied machine
  refine ⟨⟨some table, slot'⟩, copiedHolding, heap, ?_, hcopy, hcontents, hafter⟩
  unfold clone
  simp only []
  rw [Action.run_bind_ok _ (Slot.read_run haccounts hholds hmem),
    Action.run_bind_ok _ hclone,
    Action.run_bind_ok _ (Action.run_lift _ _), hfill]
  rfl

/-! ## Destroying values -/

/-- The payload is moved out of a value: it is neither copied nor destroyed. -/
theorem intoInstance?_run (haccounts : machine.Accounts (holding?.toList ++ holdings))
    (hholds : cell.Holds machine holding?) :
    ∃ heap,
      cell.intoInstance?.run machine =
        (.ok (holding?.map Holding.contents), machine.advance heap 0 [] []) ∧
      (machine.advance heap 0 [] []).Accounts
        ((holding?.map fun holding => .loose holding.contents).toList ++ holdings) := by
  unfold intoInstance?
  cases holding? with
  | none =>
      refine ⟨machine.heap, ?_, haccounts.report []⟩
      rw [hholds.eq_empty, Machine.advance_self]
      rfl
  | some holding =>
      obtain ⟨table, htable, -, -⟩ := hholds.exists_table
      obtain ⟨table?, slot⟩ := cell
      subst htable
      obtain ⟨heap, hempty, hafter⟩ := Slot.empty_run haccounts hholds
      refine ⟨heap, ?_, hafter⟩
      simp only []
      rw [Action.run_map, hempty]
      rfl

/-- A destroyed value holds nothing any more, also if its payload panics. -/
theorem destroy_run (haccounts : machine.Accounts (holding?.toList ++ holdings))
    (hholds : cell.Holds machine holding?) :
    ∃ heap,
      cell.destroy.run machine =
        (Payload.droppedOf (holding?.map Holding.payload),
          machine.advance heap 0 (holding?.toList.map Holding.serial)
            (Payload.dropEventsOf (holding?.map Holding.payload))) ∧
      (machine.advance heap 0 (holding?.toList.map Holding.serial)
        (Payload.dropEventsOf (holding?.map Holding.payload))).Accounts holdings := by
  obtain ⟨heap, hinto, hafter⟩ := intoInstance?_run haccounts hholds
  refine ⟨heap, ?_⟩
  unfold destroy
  rw [Action.run_bind_ok _ hinto]
  cases holding? with
  | none => exact ⟨rfl, hafter⟩
  | some holding =>
      have hend := hafter.discard holding.payload.dropEvents
      rw [Machine.advance_heap, Machine.advance_advance] at hend
      refine ⟨?_, hend⟩
      simp only [Option.map_some]
      rw [Machine.destroy_run, Machine.advance_heap, Machine.advance_advance]
      rfl

/-- A discarded value holds nothing any more. -/
theorem discard_run (haccounts : machine.Accounts (holding?.toList ++ holdings))
    (hholds : cell.Holds machine holding?) :
    ∃ heap,
      cell.discard.run machine =
        (.ok (), machine.advance heap 0 (holding?.toList.map Holding.serial)
          (Payload.dropEventsOf (holding?.map Holding.payload))) ∧
      (machine.advance heap 0 (holding?.toList.map Holding.serial)
        (Payload.dropEventsOf (holding?.map Holding.payload))).Accounts holdings := by
  obtain ⟨heap, hinto, hafter⟩ := intoInstance?_run haccounts hholds
  refine ⟨heap, ?_⟩
  unfold discard
  rw [Action.run_bind_ok _ hinto]
  cases holding? with
  | none => exact ⟨rfl, hafter⟩
  | some holding =>
      have hend := hafter.discard holding.payload.dropEvents
      rw [Machine.advance_heap, Machine.advance_advance] at hend
      refine ⟨?_, hend⟩
      simp only [Option.map_some]
      rw [Action.run_lift, Machine.discard_apply, Machine.advance_heap, Machine.advance_advance]
      rfl

end Cell

end DynamicValue
