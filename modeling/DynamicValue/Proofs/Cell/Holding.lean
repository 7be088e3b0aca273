/-
# What a dynamic value holds

A dynamic value holds nothing if it has no table. With a table it holds one payload of the table's
type, in its slot if the type fits there and in a box otherwise. A list that accounts for the
program and has the holding in it makes every reading of the value succeed, whatever the heap looks
like otherwise.

Each operation on a value is stated as what it gives, what it leaves of the heap, and how it changes
the list. The holdings of all other values are in the rest of the list, which stays.
-/

import DynamicValue.Proofs.Machine.Coherence

namespace DynamicValue

namespace Cell

/-- What a value holds in a program: the payload is of the type of its table and stored in the way
that its type asks for. -/
inductive Holds (machine : Machine) : Cell → Option Holding → Prop
  | empty : Holds machine .empty none
  | direct {table : OperationTable} {contents : Instance} (hlisted : table ∈ machine.tables)
      (htype : table.type = contents.payload.type) (hinline : table.type.isInline = true) :
      Holds machine ⟨some table, .direct contents⟩ (some (.loose contents))
  | boxed {table : OperationTable} {address : Nat} {contents : Instance}
      (hlisted : table ∈ machine.tables) (htype : table.type = contents.payload.type)
      (hinline : table.type.isInline = false) :
      Holds machine ⟨some table, .boxed address⟩ (some ⟨some address, contents⟩)

namespace Holds

variable {machine after : Machine} {cell : Cell} {holding? : Option Holding} {holding : Holding}
  {table : OperationTable} {slot : Slot}

/-- A value holds the same in a program that knows more. -/
theorem mono (hholds : cell.Holds machine holding?) (hextends : machine.Extends after) :
    cell.Holds after holding? := by
  cases hholds with
  | empty => exact .empty
  | direct hlisted htype hinline =>
      exact .direct (hextends.tables.subset hlisted) htype hinline
  | boxed hlisted htype hinline => exact .boxed (hextends.tables.subset hlisted) htype hinline

/-- A value that holds a payload has the table of its type. -/
theorem exists_table (hholds : cell.Holds machine (some holding)) :
    ∃ table, cell.table? = some table ∧ table ∈ machine.tables ∧
      table.type = holding.payload.type := by
  cases hholds with
  | direct hlisted htype hinline => exact ⟨_, rfl, hlisted, htype⟩
  | boxed hlisted htype hinline => exact ⟨_, rfl, hlisted, htype⟩

/-- The table of a value that holds a payload is that of its type. -/
theorem type_eq (hholds : cell.Holds machine (some holding)) (htable : cell.table? = some table) :
    table.type = holding.payload.type := by
  obtain ⟨found, hfound, -, htype⟩ := hholds.exists_table
  rw [htable] at hfound
  rw [Option.some.inj hfound, htype]

/-- There is one value that holds nothing. -/
theorem eq_empty (hholds : cell.Holds machine none) : cell = .empty := by
  cases hholds
  rfl

/-- Where the payload of a value is can be read off what it holds. -/
theorem place_eq (hholds : cell.Holds machine holding?) :
    cell.place =
      match holding? with
      | none => .nowhere
      | some ⟨none, _⟩ => .inSlot
      | some ⟨some address, _⟩ => .onHeap address := by
  cases hholds <;> rfl

end Holds

end Cell

namespace Slot

variable {machine : Machine} {holdings : List Holding} {holding : Holding} {contents : Instance}
  {table : OperationTable} {slot : Slot}

/-- A slot that holds a payload is read without a fault. -/
theorem read_run (haccounts : machine.Accounts holdings)
    (hholds : Cell.Holds machine ⟨some table, slot⟩ (some holding)) (hmem : holding ∈ holdings) :
    (slot.read table.type).run machine = (.ok holding.contents, machine) := by
  unfold read
  cases hholds with
  | direct hlisted htype hinline =>
      simp only [hinline]
      rw [Action.run_bind_ok _ (Action.run_pure _ _), if_pos htype.symm]
      rfl
  | boxed hlisted htype hinline =>
      simp only [hinline]
      rw [Action.run_bind_ok _ (Machine.load_run haccounts hmem), if_pos htype.symm]
      rfl

/-- A slot that is filled holds the payload. -/
theorem fill_apply (haccounts : machine.Accounts (.loose contents :: holdings))
    (hlisted : table ∈ machine.tables) (htype : table.type = contents.payload.type) :
    ∃ slot holding heap,
      fill contents machine = (slot, machine.advance heap 0 [] []) ∧
      Cell.Holds (machine.advance heap 0 [] []) ⟨some table, slot⟩ (some holding) ∧
      holding.contents = contents ∧
      (machine.advance heap 0 [] []).Accounts (holding :: holdings) := by
  cases hinline : contents.payload.type.isInline with
  | true =>
      refine ⟨.direct contents, .loose contents, machine.heap, ?_,
        .direct hlisted htype (htype ▸ hinline), rfl, haccounts.report []⟩
      rw [Machine.advance_self]
      simp only [fill, hinline, if_true]
      rfl
  | false =>
      refine ⟨.boxed machine.heap.length, ⟨some machine.heap.length, contents⟩,
        machine.heap ++ [some contents], ?_, .boxed hlisted htype (htype ▸ hinline), rfl,
        haccounts.allocate⟩
      simp only [fill, hinline, Bool.false_eq_true, if_false]
      rw [Action.bind_apply, Machine.allocate_apply]
      rfl

/-- A payload is written over the one that a slot holds, which is given to the caller. -/
theorem exchange_run (haccounts : machine.Accounts holdings)
    (hholds : Cell.Holds machine ⟨some table, slot⟩ (some holding)) (hmem : holding ∈ holdings)
    (htype : table.type = contents.payload.type) :
    ∃ slot',
      (slot.exchange contents).run machine = (.ok (slot', holding.contents),
        machine.advance (holding.writtenHeap machine.heap contents) 0 [] []) ∧
      Cell.Holds machine ⟨some table, slot'⟩ (some (holding.withContents contents)) := by
  have hread := read_run haccounts hholds hmem
  rw [htype] at hread
  unfold exchange
  rw [Action.run_bind_ok _ hread]
  cases hholds with
  | direct hlisted hold hinline =>
      refine ⟨.direct contents, ?_, .direct hlisted htype hinline⟩
      exact congrArg (Prod.mk _) (Machine.advance_self machine).symm
  | boxed hlisted hold hinline =>
      refine ⟨_, ?_, .boxed hlisted htype hinline⟩
      simp only []
      rw [Action.run_bind_ok _ (Action.run_lift _ _), Machine.store_apply]
      rfl

/-- The payload is taken out of a slot that holds one. -/
theorem empty_run (haccounts : machine.Accounts (holding :: holdings))
    (hholds : Cell.Holds machine ⟨some table, slot⟩ (some holding)) :
    ∃ heap,
      (slot.empty table.type).run machine =
        (.ok holding.contents, machine.advance heap 0 [] []) ∧
      (machine.advance heap 0 [] []).Accounts (.loose holding.contents :: holdings) := by
  unfold empty
  rw [Action.run_bind_ok _ (read_run haccounts hholds List.mem_cons_self)]
  cases hholds with
  | direct hlisted htype hinline =>
      refine ⟨machine.heap, ?_, haccounts.report []⟩
      rw [Machine.advance_self]
      rfl
  | boxed hlisted htype hinline =>
      exact ⟨_, Machine.free_run haccounts List.mem_cons_self, haccounts.free⟩

end Slot

namespace Cell

variable {machine : Machine} {holdings : List Holding} {holding : Holding} {cell : Cell}
  {holding? : Option Holding} {contents : Instance}

/-! ## Looking at a value -/

section Looking

variable (haccounts : machine.Accounts holdings) (hholds : cell.Holds machine holding?)
  (hsub : ∀ holding ∈ holding?, holding ∈ holdings)
include haccounts hholds hsub

theorem contents?_run :
    cell.contents?.run machine = (.ok (holding?.map Holding.contents), machine) := by
  unfold contents?
  cases hholds with
  | empty => rfl
  | direct hlisted htype hinline =>
      simp only []
      rw [Action.run_map, Slot.read_run haccounts (.direct hlisted htype hinline) (hsub _ rfl)]
      rfl
  | boxed hlisted htype hinline =>
      simp only []
      rw [Action.run_map, Slot.read_run haccounts (.boxed hlisted htype hinline) (hsub _ rfl)]
      rfl

theorem holds_run (type : ValueType) :
    (cell.holds type).run machine =
      (.ok (holding?.any fun holding => holding.payload.type = type), machine) := by
  unfold Cell.holds
  rw [Action.run_bind_ok _ (contents?_run haccounts hholds hsub)]
  cases holding? <;> rfl

theorem instanceOf?_run (type : ValueType) :
    (cell.instanceOf? type).run machine =
      (.ok ((holding?.map Holding.contents).filter fun contents => contents.payload.type = type),
        machine) := by
  unfold instanceOf?
  rw [Action.run_bind_ok _ (contents?_run haccounts hholds hsub)]
  cases holding? with
  | none => rfl
  | some holding =>
      simp only [Option.map_some, Option.filter_some, decide_eq_true_eq]
      rfl

/-- The payload that a value holds is found under its own type. -/
theorem instanceOf?_run_of_eq (hsome : holding? = some holding) :
    (cell.instanceOf? holding.payload.type).run machine =
      (.ok (some holding.contents), machine) := by
  subst hsome
  rw [instanceOf?_run haccounts hholds hsub, Option.map_some, Option.filter_some,
    if_pos (by simp [Holding.payload])]

/-- Nothing is found under a type that a value does not hold. -/
theorem instanceOf?_run_of_ne {type : ValueType}
    (htype : holding?.map (·.payload.type) ≠ some type) :
    (cell.instanceOf? type).run machine = (.ok none, machine) := by
  rw [instanceOf?_run haccounts hholds hsub]
  cases holding? with
  | none => rfl
  | some holding =>
      have hdiffer : holding.contents.payload.type ≠ type := by
        simpa [Holding.payload] using htype
      rw [Option.map_some, Option.filter_some, if_neg (by simpa using hdiffer)]

theorem valueOf?_run (type : ValueType) :
    (cell.valueOf? type).run machine =
      (.ok (holding?.bind fun holding => holding.payload.as? type), machine) := by
  unfold valueOf?
  rw [Action.run_bind_ok _ (contents?_run haccounts hholds hsub)]
  cases holding? <;> rfl

theorem text_run :
    cell.text.run machine =
      (.ok (holding?.elim "" fun holding => holding.payload.text), machine) := by
  unfold text
  rw [Action.run_bind_ok _ (contents?_run haccounts hholds hsub)]
  cases holding? <;> rfl

theorem pushOnto_run (stack : List HostValue) :
    (cell.pushOnto stack).run machine =
      (.ok (stack ++ [holding?.elim .nothing fun holding => holding.payload.hostValue]),
        machine) := by
  unfold pushOnto
  rw [Action.run_bind_ok _ (contents?_run haccounts hholds hsub)]
  cases holding? <;> rfl

end Looking

end Cell

end DynamicValue
