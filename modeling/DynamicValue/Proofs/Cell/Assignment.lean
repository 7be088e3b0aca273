/-
# Changing a dynamic value in terms of holdings

A value that is being changed has a holding of its own, and everything else that is live is in the
rest of the list. Each operation is followed through its panics: what it gives, what the value holds
afterwards, what was created and destroyed, and that the rest is still accounted for as before.
-/

import DynamicValue.Proofs.Cell.Lifetime

namespace DynamicValue

/-- The value that is being changed holds what is given, and the rest of the list accounts for
everything else. -/
structure Focus.Owns (focus : Focus) (holding? : Option Holding) (rest : List Holding) : Prop where
  coherent : focus.machine.Coherent
  holds : focus.cell.Holds focus.machine holding?
  accounts : focus.machine.Accounts (holding?.toList ++ rest)

namespace Focus

variable {α : Type} {machine changed : Machine} {cell : Cell}

/-- A value that holds a payload has a table. -/
theorem Owns.exists_table {holding : Holding} {rest : List Holding}
    (howns : Focus.Owns ⟨machine, cell⟩ (some holding) rest) :
    ∃ table, cell.table? = some table := by
  obtain ⟨table, htable, -, -⟩ := howns.holds.exists_table
  exact ⟨table, htable⟩

theorem run_current (machine : Machine) (cell : Cell) :
    current.run ⟨machine, cell⟩ = (.ok cell, ⟨machine, cell⟩) := rfl

theorem run_put (machine : Machine) (cell replacement : Cell) :
    (put replacement).run ⟨machine, cell⟩ = (.ok (), ⟨machine, replacement⟩) := rfl

theorem run_onMachine {action : Action Machine α} {outcome : Except Halt α}
    (hrun : action.run machine = (outcome, changed)) (cell : Cell) :
    (onMachine action).run ⟨machine, cell⟩ = (outcome, ⟨changed, cell⟩) := by
  unfold onMachine
  rw [Action.run_within, hrun]

end Focus

namespace Cell

open Focus

variable {machine : Machine} {cell other : Cell} {holding? : Option Holding}
  {holding theirs : Holding} {rest : List Holding} {contents : Instance} {table : OperationTable}
  {halt : Halt} {copy : Payload}

/-- A value that is reset is empty afterwards, also if its payload panics. -/
theorem reset_run (howns : Focus.Owns ⟨machine, cell⟩ holding? rest) :
    ∃ heap,
      reset.run ⟨machine, cell⟩ = (Payload.droppedOf (holding?.map Holding.payload),
        ⟨machine.advance heap 0 (holding?.toList.map Holding.serial)
          (Payload.dropEventsOf (holding?.map Holding.payload)), .empty⟩) ∧
      Focus.Owns ⟨machine.advance heap 0 (holding?.toList.map Holding.serial)
        (Payload.dropEventsOf (holding?.map Holding.payload)), .empty⟩ none rest := by
  obtain ⟨heap, hdestroy, hafter⟩ := destroy_run howns.accounts howns.holds
  refine ⟨heap, ?_, howns.coherent.advance _ _ _ _, .empty, hafter⟩
  unfold reset
  rw [Action.run_bind_ok _ (run_current _ _), Action.run_bind_ok _ (run_put _ _ _),
    run_onMachine hdestroy]

/-- A payload that is written over another one of its type is in place when the other one is
destroyed, so it stays also if that one panics. The place is the same. -/
theorem overwrite_run (howns : Focus.Owns ⟨machine, cell⟩ (some holding) (.loose contents :: rest))
    (htable : cell.table? = some table) (htype : contents.payload.type = holding.payload.type) :
    ∃ cell' heap,
      (overwrite table contents).run ⟨machine, cell⟩ = (holding.payload.dropped,
        ⟨machine.advance heap 0 [holding.serial] holding.payload.dropEvents, cell'⟩) ∧
      Focus.Owns ⟨machine.advance heap 0 [holding.serial] holding.payload.dropEvents, cell'⟩
        (some (holding.withContents contents)) rest := by
  obtain ⟨table?, slot⟩ := cell
  obtain ⟨hcoherent, hholds, haccounts⟩ := howns
  obtain rfl : table? = some table := htable
  obtain ⟨slot', hexchange, hnew⟩ := Slot.exchange_run haccounts hholds List.mem_cons_self
    ((hholds.type_eq rfl).trans htype.symm)
  have hafter := (haccounts.exchange.perm (.swap _ _ _)).discard holding.payload.dropEvents
  rw [Machine.advance_heap, Machine.advance_advance] at hafter
  refine ⟨⟨some table, slot'⟩, _, ?_, hcoherent.advance _ _ _ _, hnew.mono (.advance _ _ _ _ _),
    hafter⟩
  unfold overwrite
  rw [Action.run_bind_ok _ (run_current _ _), Action.run_bind_ok _ (run_onMachine hexchange _)]
  simp only []
  rw [Action.run_bind_ok _ (run_put _ _ _), run_onMachine (Machine.destroy_run _ _),
    Machine.advance_advance]
  rfl

/-! ## Assignment -/

/-- Assigning an empty value is a reset. -/
theorem assign_run_empty (hother : other.table? = none) (machine : Machine) (cell : Cell) :
    (assign other).run ⟨machine, cell⟩ = reset.run ⟨machine, cell⟩ := by
  unfold assign
  rw [Action.run_bind_ok _ (run_current _ _)]
  simp only [hother]

section Same

variable (howns : Focus.Owns ⟨machine, cell⟩ (some holding) rest)
  (hother : other.Holds machine (some theirs)) (hmem : theirs ∈ rest)
  (htype : holding.payload.type = theirs.payload.type)
include howns hother hmem htype

/-- Assigning a value of the same type is to copy its payload and to write the copy over the old
one. -/
theorem assign_run_same (htable : cell.table? = some table) :
    (assign other).run ⟨machine, cell⟩ =
      (onMachine (Machine.clone theirs.contents) >>= overwrite table).run ⟨machine, cell⟩ := by
  obtain ⟨mine, hmine, hlisted, hheld⟩ := howns.holds.exists_table
  obtain ⟨found, hfound, hlisted', hheld'⟩ := hother.exists_table
  obtain ⟨table?, slot⟩ := cell
  obtain ⟨other?, otherSlot⟩ := other
  obtain rfl : table? = some table := htable
  obtain rfl : other? = some found := hfound
  obtain rfl : table = mine := Option.some.inj hmine
  have hsame : table.same found := (howns.coherent.table_same_iff hlisted hlisted').mpr
    (hheld.trans (htype.trans hheld'.symm))
  have hread := Slot.read_run howns.accounts hother (List.mem_append_right _ hmem)
  unfold assign
  rw [Action.run_bind_ok _ (run_current _ _)]
  simp only [hsame, if_true]
  refine Action.run_bind_congr _ ?_
  unfold onMachine
  rw [Action.run_within, Action.run_within, Action.run_bind_ok _ hread]

/-- A copy of the same type that panics leaves the value as it was. -/
theorem assign_run_same_error (hcopied : theirs.payload.copied = .error halt) :
    (assign other).run ⟨machine, cell⟩ = (.error halt,
      ⟨machine.advance machine.heap 0 [] theirs.payload.copyEvents, cell⟩) := by
  obtain ⟨table, htable⟩ := howns.exists_table
  rw [assign_run_same howns hother hmem htype htable]
  exact Action.run_bind_error _ (run_onMachine (Machine.clone_run_error hcopied machine) cell)

/-- A copy of the same type is written over the payload of the value, which is then destroyed. -/
theorem assign_run_same_ok (hcopied : theirs.payload.copied = .ok copy) :
    ∃ cell' heap,
      (assign other).run ⟨machine, cell⟩ = (holding.payload.dropped,
        ⟨machine.advance heap 1 [holding.serial]
          (theirs.payload.copyEvents ++ holding.payload.dropEvents), cell'⟩) ∧
      Focus.Owns ⟨machine.advance heap 1 [holding.serial]
          (theirs.payload.copyEvents ++ holding.payload.dropEvents), cell'⟩
        (some (holding.withContents ⟨machine.created, copy⟩)) rest := by
  obtain ⟨table, htable⟩ := howns.exists_table
  have hclone : (Machine.clone theirs.contents).run machine = (.ok ⟨machine.created, copy⟩,
      machine.advance machine.heap 1 [] theirs.payload.copyEvents) :=
    Machine.clone_run_ok hcopied machine
  have hready : Focus.Owns ⟨machine.advance machine.heap 1 [] theirs.payload.copyEvents, cell⟩
      (some holding) (.loose ⟨machine.created, copy⟩ :: rest) :=
    ⟨howns.coherent.advance _ _ _ _, howns.holds.mono (.advance _ _ _ _ _),
      (howns.accounts.create copy theirs.payload.copyEvents).perm (.swap _ _ _)⟩
  obtain ⟨cell', heap, hoverwrite, hafter⟩ := overwrite_run hready htable
    ((Payload.type_of_copied hcopied).trans htype.symm)
  rw [Machine.advance_advance] at hoverwrite hafter
  refine ⟨cell', heap, ?_, hafter⟩
  rw [assign_run_same howns hother hmem htype htable,
    Action.run_bind_ok _ (run_onMachine hclone cell), hoverwrite]
  rfl

end Same

section Other

variable (howns : Focus.Owns ⟨machine, cell⟩ holding? rest)
  (hother : other.Holds machine (some theirs)) (hmem : theirs ∈ rest)
  (htype : holding?.map (·.payload.type) ≠ some theirs.payload.type)
include howns hother htype

/-- Assigning a value of another type is to reset the value and to store a copy in it. -/
theorem assign_run_other :
    (assign other).run ⟨machine, cell⟩ =
      (reset >>= fun _ => onMachine other.clone >>= put).run ⟨machine, cell⟩ := by
  obtain ⟨found, hfound, hlisted', hheld'⟩ := hother.exists_table
  obtain ⟨other?, otherSlot⟩ := other
  obtain rfl : other? = some found := hfound
  unfold assign
  rw [Action.run_bind_ok _ (run_current _ _)]
  cases holding? with
  | none =>
      obtain rfl := howns.holds.eq_empty
      rfl
  | some holding =>
      obtain ⟨table?, slot⟩ := cell
      obtain ⟨mine, hmine, hlisted, hheld⟩ := howns.holds.exists_table
      obtain rfl : table? = some mine := hmine
      have hdiffer : mine.same found = false := by
        rw [Bool.eq_false_iff, Ne, howns.coherent.table_same_iff hlisted hlisted']
        intro heq
        exact htype (by simp [← hheld, ← hheld', heq])
      simp only [hdiffer, Bool.false_eq_true, if_false]

/-- If the old payload panics when it is destroyed, the value is empty and nothing is copied. -/
theorem assign_run_other_drop_error
    (hdropped : Payload.droppedOf (holding?.map Holding.payload) = .error halt) :
    ∃ heap,
      (assign other).run ⟨machine, cell⟩ = (.error halt,
        ⟨machine.advance heap 0 (holding?.toList.map Holding.serial)
          (Payload.dropEventsOf (holding?.map Holding.payload)), .empty⟩) ∧
      Focus.Owns ⟨machine.advance heap 0 (holding?.toList.map Holding.serial)
        (Payload.dropEventsOf (holding?.map Holding.payload)), .empty⟩ none rest := by
  obtain ⟨heap, hreset, hafter⟩ := reset_run howns
  rw [hdropped] at hreset
  refine ⟨heap, ?_, hafter⟩
  rw [assign_run_other howns hother htype]
  exact Action.run_bind_error _ hreset

include hmem

/-- If the copy panics, the value is empty. -/
theorem assign_run_other_copy_error
    (hdropped : Payload.droppedOf (holding?.map Holding.payload) = .ok ())
    (hcopied : theirs.payload.copied = .error halt) :
    ∃ heap,
      (assign other).run ⟨machine, cell⟩ = (.error halt,
        ⟨machine.advance heap 0 (holding?.toList.map Holding.serial)
          (Payload.dropEventsOf (holding?.map Holding.payload) ++ theirs.payload.copyEvents),
          .empty⟩) ∧
      Focus.Owns ⟨machine.advance heap 0 (holding?.toList.map Holding.serial)
        (Payload.dropEventsOf (holding?.map Holding.payload) ++ theirs.payload.copyEvents),
        .empty⟩ none rest := by
  obtain ⟨heap, hreset, hafter⟩ := reset_run howns
  rw [hdropped] at hreset
  have hclone := clone_run_error hafter.accounts (hother.mono (.advance _ _ _ _ _)) hmem hcopied
  have hreport := hafter.accounts.report theirs.payload.copyEvents
  rw [Machine.advance_heap, Machine.advance_advance, List.append_nil] at hclone hreport
  refine ⟨heap, ?_, howns.coherent.advance _ _ _ _, .empty, hreport⟩
  rw [assign_run_other howns hother htype, Action.run_bind_ok _ hreset]
  exact Action.run_bind_error _ (run_onMachine hclone _)

/-- If nothing panics, the value holds a copy of the other one. -/
theorem assign_run_other_ok
    (hdropped : Payload.droppedOf (holding?.map Holding.payload) = .ok ())
    (hcopied : theirs.payload.copied = .ok copy) :
    ∃ cell' holding' heap,
      (assign other).run ⟨machine, cell⟩ = (.ok (),
        ⟨machine.advance heap 1 (holding?.toList.map Holding.serial)
          (Payload.dropEventsOf (holding?.map Holding.payload) ++ theirs.payload.copyEvents),
          cell'⟩) ∧
      Focus.Owns ⟨machine.advance heap 1 (holding?.toList.map Holding.serial)
        (Payload.dropEventsOf (holding?.map Holding.payload) ++ theirs.payload.copyEvents),
        cell'⟩ (some holding') rest ∧
      holding'.contents = ⟨machine.created, copy⟩ := by
  obtain ⟨heap, hreset, hafter⟩ := reset_run howns
  rw [hdropped] at hreset
  obtain ⟨copied, holding', heap', hclone, hholds, hcontents, haccounts⟩ :=
    clone_run_ok hafter.accounts (hother.mono (.advance _ _ _ _ _)) hmem hcopied
  rw [Machine.advance_advance, List.append_nil] at hclone hholds haccounts
  refine ⟨copied, holding', heap', ?_, ⟨howns.coherent.advance _ _ _ _, ?_, ?_⟩, hcontents⟩
  · rw [assign_run_other howns hother htype, Action.run_bind_ok _ hreset,
      Action.run_bind_ok _ (run_onMachine hclone _), run_put]
  · exact hholds
  · exact haccounts

end Other

/-! ## New payloads -/

section Same

variable (howns : Focus.Owns ⟨machine, cell⟩ (some holding) (.loose contents :: rest))
  (htype : contents.payload.type = holding.payload.type)
include howns htype

/-- The value has a table, and its payload is found under the type of the new one. -/
theorem instanceOf?_run_same :
    (onMachine (cell.instanceOf? contents.payload.type)).run ⟨machine, cell⟩ =
      (.ok (some holding.contents), ⟨machine, cell⟩) := by
  rw [htype]
  exact run_onMachine (instanceOf?_run_of_eq howns.accounts howns.holds
    (fun _ hmem => List.mem_append_left _ (Option.mem_toList.mpr hmem)) rfl) cell

/-- A new payload of the same type is written over the old one, which is then destroyed. -/
theorem assignInstance_run_same :
    ∃ cell' heap,
      (assignInstance contents).run ⟨machine, cell⟩ = (holding.payload.dropped,
        ⟨machine.advance heap 0 [holding.serial] holding.payload.dropEvents, cell'⟩) ∧
      Focus.Owns ⟨machine.advance heap 0 [holding.serial] holding.payload.dropEvents, cell'⟩
        (some (holding.withContents contents)) rest := by
  obtain ⟨table, htable⟩ := howns.exists_table
  obtain ⟨cell', heap, hoverwrite, hafter⟩ := overwrite_run howns htable htype
  refine ⟨cell', heap, ?_, hafter⟩
  unfold assignInstance
  rw [Action.run_bind_ok _ (run_current _ _),
    Action.run_bind_ok _ (instanceOf?_run_same howns htype)]
  simp only [htable, hoverwrite]

/-- Writing through a reference is the same. -/
theorem mutate_run_same :
    ∃ cell' heap,
      (mutate contents).run ⟨machine, cell⟩ = (holding.payload.dropped.map fun _ => true,
        ⟨machine.advance heap 0 [holding.serial] holding.payload.dropEvents, cell'⟩) ∧
      Focus.Owns ⟨machine.advance heap 0 [holding.serial] holding.payload.dropEvents, cell'⟩
        (some (holding.withContents contents)) rest := by
  obtain ⟨table, htable⟩ := howns.exists_table
  obtain ⟨cell', heap, hoverwrite, hafter⟩ := overwrite_run howns htable htype
  refine ⟨cell', heap, ?_, hafter⟩
  unfold mutate
  rw [Action.run_bind_ok _ (run_current _ _),
    Action.run_bind_ok _ (instanceOf?_run_same howns htype)]
  simp only [htable]
  have hmap := Action.run_map (fun _ => true) (overwrite table contents) ⟨machine, cell⟩
  rw [hoverwrite] at hmap
  exact hmap

end Same

section Other

variable (howns : Focus.Owns ⟨machine, cell⟩ holding? (.loose contents :: rest))
  (htype : holding?.map (·.payload.type) ≠ some contents.payload.type)
include howns htype

/-- The value does not hold a payload of the type of the new one. -/
theorem instanceOf?_run_other :
    (onMachine (cell.instanceOf? contents.payload.type)).run ⟨machine, cell⟩ =
      (.ok none, ⟨machine, cell⟩) :=
  run_onMachine (instanceOf?_run_of_ne howns.accounts howns.holds
    (fun _ hmem => List.mem_append_left _ (Option.mem_toList.mpr hmem)) htype) cell

/-- Giving a value a payload of another type is to reset it and to store the payload in it. -/
theorem assignInstance_run_other :
    (assignInstance contents).run ⟨machine, cell⟩ =
      (Action.unwinding reset (onMachine (Machine.discard contents)) >>= fun _ =>
        onMachine (ofInstance contents) >>= put).run ⟨machine, cell⟩ := by
  unfold assignInstance
  rw [Action.run_bind_ok _ (run_current _ _),
    Action.run_bind_ok _ (instanceOf?_run_other howns htype)]
  cases cell.table? <;> rfl

/-- A new payload of another type is given up if the old one panics, and the value is empty. -/
theorem assignInstance_run_other_error
    (hdropped : Payload.droppedOf (holding?.map Holding.payload) = .error halt) :
    ∃ heap,
      (assignInstance contents).run ⟨machine, cell⟩ = (.error halt,
        ⟨machine.advance heap 0 (holding?.toList.map Holding.serial ++ [contents.serial])
          (Payload.dropEventsOf (holding?.map Holding.payload) ++ contents.payload.dropEvents),
          .empty⟩) ∧
      Focus.Owns ⟨machine.advance heap 0 (holding?.toList.map Holding.serial ++ [contents.serial])
        (Payload.dropEventsOf (holding?.map Holding.payload) ++ contents.payload.dropEvents),
        .empty⟩ none rest := by
  obtain ⟨heap, hreset, hafter⟩ := reset_run howns
  rw [hdropped] at hreset
  have haccounts := hafter.accounts.discard contents.payload.dropEvents
  rw [Machine.advance_heap, Machine.advance_advance] at haccounts
  refine ⟨heap, ?_, howns.coherent.advance _ _ _ _, .empty, haccounts⟩
  rw [assignInstance_run_other howns htype,
    Action.run_bind_error _ (Action.run_unwinding_error _ hreset),
    run_onMachine (Action.run_lift _ _), Machine.discard_apply, Machine.advance_heap,
    Machine.advance_advance]

/-- A new payload of another type is stored in the value that was reset. -/
theorem assignInstance_run_other_ok
    (hdropped : Payload.droppedOf (holding?.map Holding.payload) = .ok ()) :
    ∃ cell' holding' known heap heap',
      (assignInstance contents).run ⟨machine, cell⟩ =
        (.ok (), ⟨known.advance heap' 0 [] [], cell'⟩) ∧
      (machine.advance heap 0 (holding?.toList.map Holding.serial)
        (Payload.dropEventsOf (holding?.map Holding.payload))).Learns known ∧
      Focus.Owns ⟨known.advance heap' 0 [] [], cell'⟩ (some holding') rest ∧
      holding'.contents = contents := by
  obtain ⟨heap, hreset, hafter⟩ := reset_run howns
  rw [hdropped] at hreset
  obtain ⟨cell', holding', known, heap', hmade, hlearns, hknown, hholds, hcontents, haccounts⟩ :=
    ofInstance_apply hafter.coherent hafter.accounts
  refine ⟨cell', holding', known, heap, heap', ?_, hlearns,
    ⟨hknown.advance _ _ _ _, hholds, haccounts⟩, hcontents⟩
  rw [assignInstance_run_other howns htype,
    Action.run_bind_ok _ (Action.run_unwinding_ok _ hreset),
    Action.run_bind_ok _ (run_onMachine (Action.run_lift _ _) _), hmade, run_put]

/-- A payload of another type cannot be written through a reference, so it is destroyed. -/
theorem mutate_run_other :
    (mutate contents).run ⟨machine, cell⟩ = (contents.payload.dropped.map fun _ => false,
        ⟨machine.advance machine.heap 0 [contents.serial] contents.payload.dropEvents, cell⟩) ∧
      Focus.Owns ⟨machine.advance machine.heap 0 [contents.serial] contents.payload.dropEvents,
        cell⟩ holding? rest := by
  have hperm : (holding?.toList ++ .loose contents :: rest).Perm
      (.loose contents :: (holding?.toList ++ rest)) := List.perm_middle
  refine ⟨?_, howns.coherent.advance _ _ _ _, howns.holds.mono (.advance _ _ _ _ _),
    (howns.accounts.perm hperm).discard _⟩
  unfold mutate
  rw [Action.run_bind_ok _ (run_current _ _),
    Action.run_bind_ok _ (instanceOf?_run_other howns htype)]
  have hmap := Action.run_map (fun _ => false) (onMachine (Machine.destroy contents))
    ⟨machine, cell⟩
  rw [run_onMachine (Machine.destroy_run contents machine)] at hmap
  rw [← hmap]
  cases cell.table? <;> rfl

end Other

/-! ## Growing a text -/

/-- A text that a value holds grows in its place and stays the same payload. -/
theorem append_run_text {serial : Nat} {text : String} {box? : Option Nat}
    (howns : Focus.Owns ⟨machine, cell⟩ (some ⟨box?, ⟨serial, ⟨.text, text⟩⟩⟩) rest)
    (suffix : String) :
    ∃ cell' heap,
      (append suffix).run ⟨machine, cell⟩ = (.ok true, ⟨machine.advance heap 0 [] [], cell'⟩) ∧
      Focus.Owns ⟨machine.advance heap 0 [] [], cell'⟩
        (some ⟨box?, ⟨serial, ⟨.text, text ++ suffix⟩⟩⟩) rest := by
  obtain ⟨table, htable⟩ := howns.exists_table
  obtain ⟨table?, slot⟩ := cell
  obtain rfl : table? = some table := htable
  obtain ⟨hcoherent, hholds, haccounts⟩ := howns
  have hfound := instanceOf?_run haccounts hholds
    (fun _ hmem => List.mem_append_left _ (Option.mem_toList.mpr hmem)) .text
  let written : Instance := ⟨serial, ⟨.text, text ++ suffix⟩⟩
  have htype : table.type = written.payload.type := hholds.type_eq rfl
  obtain ⟨slot', hexchange, hnew⟩ :=
    Slot.exchange_run haccounts hholds (List.mem_append_left _ List.mem_cons_self) htype
  refine ⟨⟨some table, slot'⟩, _, ?_, hcoherent.advance _ _ _ _, hnew.mono (.advance _ _ _ _ _),
    haccounts.amend rfl⟩
  unfold append
  rw [Action.run_bind_ok _ (run_current _ _), Action.run_bind_ok _ (run_onMachine hfound _)]
  exact (Action.run_bind_ok _ (run_onMachine hexchange _)).trans rfl

/-- Any other value stays as it is. -/
theorem append_run_other (howns : Focus.Owns ⟨machine, cell⟩ holding? rest)
    (htype : holding?.map (·.payload.type) ≠ some .text) (suffix : String) :
    (append suffix).run ⟨machine, cell⟩ = (.ok false, ⟨machine, cell⟩) := by
  have hfound := instanceOf?_run_of_ne howns.accounts howns.holds
    (fun _ hmem => List.mem_append_left _ (Option.mem_toList.mpr hmem)) htype
  unfold append
  rw [Action.run_bind_ok _ (run_current _ _), Action.run_bind_ok _ (run_onMachine hfound _)]
  cases cell.table? <;> rfl

end Cell

end DynamicValue
