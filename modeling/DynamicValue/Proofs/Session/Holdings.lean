/-
# What the variables of a session hold

The holdings of a session are one entry for each variable: what its value holds, or nothing if the
value is empty. Together with the payloads that the command under way still has in its hands, they
account for the program. A command takes a variable out, works on it while all others are in the
rest of the list, and puts it back.
-/

import DynamicValue.Proofs.Cell.Assignment
import DynamicValue.Proofs.Directory
import Mathlib.Data.List.ReduceOption

namespace DynamicValue.Session

/-- The variables hold what the directory says, and `pending` is what the command under way holds
itself. -/
structure Owns (session : Session) (holdings : Directory (Option Holding))
    (pending : List Holding) : Prop where
  coherent : session.machine.Coherent
  agree : ∀ name, Option.Rel (Cell.Holds session.machine) (session.cells.get? name)
    (holdings.get? name)
  accounts : session.machine.Accounts (pending ++ holdings.values.reduceOption)

/-- What all variables but one hold. -/
def others (holdings : Directory (Option Holding)) (name : String) : List Holding :=
  (holdings.erase name).values.reduceOption

section Holdings

variable {holdings : Directory (Option Holding)} {name other : String} {holding? : Option Holding}
  {holding : Holding}

theorem reduceOption_cons (holding? : Option Holding) (rest : List (Option Holding)) :
    (holding? :: rest).reduceOption = holding?.toList ++ rest.reduceOption := by
  cases holding? <;> rfl

/-- The holdings of all variables are those of one and those of all others. -/
theorem held_perm (hget : holdings.get? name = some holding?) :
    holdings.values.reduceOption.Perm (holding?.toList ++ others holdings name) := by
  rw [others, ← reduceOption_cons]
  exact (Directory.values_perm hget).filterMap _

theorem held_insert_perm (holdings : Directory (Option Holding)) (name : String)
    (holding? : Option Holding) :
    (holdings.insert name holding?).values.reduceOption.Perm
      (holding?.toList ++ others holdings name) := by
  rw [others, ← reduceOption_cons]
  exact (Directory.values_insert_perm holdings name holding?).filterMap _

/-- The variable that a name has, or no variable, holds what the list says apart from all others. -/
theorem held_perm_join (holdings : Directory (Option Holding)) (name : String) :
    holdings.values.reduceOption.Perm
      ((holdings.get? name).join.toList ++ others holdings name) := by
  cases hget : holdings.get? name with
  | none => simp [others, Directory.erase_eq_self hget]
  | some holding? => exact held_perm hget

/-- What a variable holds is in the list. -/
theorem mem_held (hget : holdings.get? name = some (some holding)) :
    holding ∈ holdings.values.reduceOption :=
  (held_perm hget).mem_iff.mpr (by simp)

/-- What a variable holds is not affected by taking another one out. -/
theorem mem_others (hget : holdings.get? name = some (some holding)) (hne : name ≠ other) :
    holding ∈ others holdings other :=
  mem_held (by rw [Directory.get?_erase_of_ne _ hne, hget])

end Holdings

namespace Owns

variable {session : Session} {holdings : Directory (Option Holding)} {pending after : List Holding}
  {holding? : Option Holding} {holding : Holding} {machine : Machine} {cell : Cell} {name : String}

/-- A session starts without variables and without payloads. -/
theorem start (isFresh : Bool) : (start isFresh).Owns .empty [] where
  coherent := .fresh
  agree _ := .none
  accounts := .fresh

/-- A variable holds what the directory says. -/
theorem exists_holding (howns : session.Owns holdings pending)
    (hget : session.cells.get? name = some cell) :
    ∃ holding?, holdings.get? name = some holding? ∧ cell.Holds session.machine holding? := by
  have hrel := howns.agree name
  rw [hget] at hrel
  generalize hfound : holdings.get? name = found at hrel
  cases hrel with
  | some hholds => exact ⟨_, rfl, hholds⟩

/-- A variable that the directory lists has a value. -/
theorem exists_cell (howns : session.Owns holdings pending)
    (hheld : holdings.get? name = some holding?) :
    ∃ cell, session.cells.get? name = some cell ∧ cell.Holds session.machine holding? := by
  have hrel := howns.agree name
  rw [hheld] at hrel
  generalize session.cells.get? name = cell? at hrel
  cases hrel with
  | some hholds => exact ⟨_, rfl, hholds⟩

theorem get?_eq_none_iff (howns : session.Owns holdings pending) :
    holdings.get? name = none ↔ session.cells.get? name = none := by
  have hrel := howns.agree name
  generalize session.cells.get? name = cell? at hrel
  generalize holdings.get? name = found at hrel
  cases hrel <;> simp

/-- What a variable holds is accounted for. -/
theorem mem_accounts (hget : holdings.get? name = some holding?) :
    ∀ holding ∈ holding?, holding ∈ pending ++ holdings.values.reduceOption := by
  intro holding hmem
  exact List.mem_append_right _ (mem_held (hget.trans (congrArg some hmem)))

/-- An operation of the program leaves the variables alone. -/
theorem onMachine (howns : session.Owns holdings pending) (hcoherent : machine.Coherent)
    (hextends : session.machine.Extends machine)
    (haccounts : machine.Accounts (after ++ holdings.values.reduceOption)) :
    Owns { session with machine := machine } holdings after where
  coherent := hcoherent
  agree name := by
    have hrel := howns.agree name
    change Option.Rel _ (session.cells.get? name) (holdings.get? name)
    generalize session.cells.get? name = cell? at hrel ⊢
    generalize holdings.get? name = found at hrel ⊢
    cases hrel with
    | none => exact .none
    | some hholds => exact .some (hholds.mono hextends)
  accounts := haccounts

/-- A value that is put into a variable holds what it held before. -/
theorem insert (howns : session.Owns holdings pending) (hcoherent : machine.Coherent)
    (hextends : session.machine.Extends machine) (hholds : cell.Holds machine holding?)
    (haccounts : machine.Accounts (holding?.toList ++ (after ++ others holdings name))) :
    Owns { session with machine := machine, cells := session.cells.insert name cell }
      (holdings.insert name holding?) after where
  coherent := hcoherent
  agree other := by
    change Option.Rel _ ((session.cells.insert name cell).get? other) _
    rw [Directory.get?_insert, Directory.get?_insert]
    split
    · exact .some hholds
    · have hrel := howns.agree other
      generalize session.cells.get? other = cell? at hrel ⊢
      generalize holdings.get? other = found at hrel ⊢
      cases hrel with
      | none => exact .none
      | some hholds => exact .some (hholds.mono hextends)
  accounts := by
    refine haccounts.perm ?_
    refine List.perm_append_comm_assoc _ _ _ |>.trans ?_
    exact (held_insert_perm holdings name holding?).symm.append_left _

/-- A variable that is taken out leaves what it held to the command. -/
theorem erase (howns : session.Owns holdings pending) (name : String) :
    Owns { session with cells := session.cells.erase name } (holdings.erase name)
      ((holdings.get? name).join.toList ++ pending) where
  coherent := howns.coherent
  agree other := by
    change Option.Rel _ ((session.cells.erase name).get? other) _
    rw [Directory.get?_erase, Directory.get?_erase]
    split
    · exact .none
    · exact howns.agree other
  accounts := by
    refine howns.accounts.perm ?_
    rw [List.append_assoc]
    exact ((held_perm_join holdings name).append_left _).trans (List.perm_append_comm_assoc _ _ _)

/-- A variable that is worked on owns what it holds, and the rest is what all others hold and what
the command holds. -/
theorem focus (howns : session.Owns holdings pending) (hget : holdings.get? name = some holding?)
    (hholds : cell.Holds session.machine holding?) :
    Focus.Owns ⟨session.machine, cell⟩ holding? (pending ++ others holdings name) where
  coherent := howns.coherent
  holds := hholds
  accounts := by
    refine howns.accounts.perm ?_
    exact ((held_perm hget).append_left _).trans (List.perm_append_comm_assoc _ _ _)

/-- A variable that was worked on is put back. -/
theorem unfocus (howns : session.Owns holdings pending) (hextends : session.machine.Extends machine)
    (hfocus : Focus.Owns ⟨machine, cell⟩ holding? (after ++ others holdings name)) :
    Owns { session with machine := machine, cells := session.cells.insert name cell }
      (holdings.insert name holding?) after :=
  howns.insert hfocus.coherent hextends hfocus.holds hfocus.accounts

end Owns

/-! ## Running the parts of a command -/

section Running

variable {α : Type} {session : Session} {machine : Machine} {cell changed : Cell} {name : String}
  {outcome : Except Halt α}

theorem run_read (reading : Reading α) (session : Session) :
    (read reading).run session = (reading.mapError .complaint, session) := rfl

theorem run_running {action : Action Session α} {after : Session}
    (hrun : action.run session = (outcome, after)) :
    (running action).run session = (outcome.mapError .halted, after) := by
  unfold running
  rw [ExceptT.run_mk, Action.bind_apply, hrun]
  rfl

theorem run_programAction {action : Action Machine α}
    (hrun : action.run session.machine = (outcome, machine)) :
    (programAction action).run session = (outcome, { session with machine := machine }) := by
  unfold programAction
  rw [Action.run_within, hrun]

theorem run_onMachine {action : Action Machine α}
    (hrun : action.run session.machine = (outcome, machine)) :
    (onMachine action).run session =
      (outcome.mapError .halted, { session with machine := machine }) :=
  run_running (run_programAction hrun)

theorem run_onMachine_ok {action : Action Machine α} {value : α}
    (hrun : action.run session.machine = (.ok value, machine)) :
    (onMachine action).run session = (.ok value, { session with machine := machine }) :=
  run_onMachine hrun

theorem run_onMachine_error {action : Action Machine α} {halt : Halt}
    (hrun : action.run session.machine = (.error halt, machine)) :
    (onMachine action).run session =
      (.error (.halted halt), { session with machine := machine }) :=
  run_onMachine hrun

/-- An operation of the program that cannot halt. -/
theorem run_onMachine_lift {part : StateM Machine α} {value : α}
    (hpart : part session.machine = (value, machine)) :
    (onMachine part).run session = (.ok value, { session with machine := machine }) := by
  refine run_onMachine_ok ?_
  rw [Action.run_lift, hpart]

theorem run_valueOf_some (hget : session.cells.get? name = some cell) :
    (valueOf name).run session = (.ok cell, session) := by
  unfold valueOf
  rw [Action.run_bind_ok _ (Action.run_get _), hget]
  rfl

theorem run_valueOf_none (hget : session.cells.get? name = none) :
    (valueOf name).run session = (.error (.complaint (.noVariable name)), session) := by
  unfold valueOf
  rw [Action.run_bind_ok _ (Action.run_get _), hget]
  rfl

theorem run_onVariable {action : Action Focus α} (hget : session.cells.get? name = some cell)
    (hrun : action.run ⟨session.machine, cell⟩ = (outcome, ⟨machine, changed⟩)) :
    (onVariable name action).run session = (outcome.mapError .halted,
      { session with machine := machine, cells := session.cells.insert name changed }) := by
  unfold onVariable
  rw [Action.run_bind_ok _ (run_valueOf_some hget)]
  refine run_running ?_
  rw [Action.run_within, hrun]

section Holding

variable {action : SessionAction α} {after : Session} (destroy giveUp : Action Machine Unit)

/-- What a step holds stays if it succeeds. -/
theorem run_holding_ok {value : α} (hrun : action.run session = (.ok value, after)) :
    (holding destroy giveUp action).run session = (.ok value, after) := by
  unfold holding
  rw [ExceptT.run_mk, Action.bind_apply, hrun]
  rfl

/-- What a step holds is destroyed after a complaint. -/
theorem run_holding_complaint {complaint : Complaint}
    (hrun : action.run session = (.error (.complaint complaint), after)) :
    (holding destroy giveUp action).run session =
      (do onMachine destroy; complain complaint : SessionAction α).run after := by
  unfold holding
  rw [ExceptT.run_mk, Action.bind_apply, hrun]

/-- What a step holds is given up when it halts. -/
theorem run_holding_halted {halt : Halt}
    (hrun : action.run session = (.error (.halted halt), after)) :
    (holding destroy giveUp action).run session =
      (.error (.halted halt), ((programAction giveUp).run after).2) := by
  unfold holding
  rw [ExceptT.run_mk, Action.bind_apply, hrun]
  rfl

end Holding

/-- A value that is stored in a variable is in place when the old value is destroyed, so it stays
also if that one panics. -/
theorem store_run {holdings : Directory (Option Holding)} {holding? : Option Holding}
    {pending : List Holding} (howns : session.Owns holdings (holding?.toList ++ pending))
    (hholds : cell.Holds session.machine holding?) (name : String) :
    ∃ heap,
      let old? := (holdings.get? name).join
      let after := { session with
        machine := session.machine.advance heap 0 (old?.toList.map Holding.serial)
          (Payload.dropEventsOf (old?.map Holding.payload))
        cells := session.cells.insert name cell }
      (store name cell).run session =
        ((Payload.droppedOf (old?.map Holding.payload)).mapError .halted, after) ∧
      after.Owns (holdings.insert name holding?) pending := by
  have hperm : (holding?.toList ++ pending ++ holdings.values.reduceOption).Perm
      ((holdings.get? name).join.toList ++
        (holding?.toList ++ (pending ++ others holdings name))) := by
    refine ((held_perm_join holdings name).append_left _).trans ?_
    refine (List.perm_append_comm_assoc _ _ _).trans ?_
    rw [List.append_assoc]
  have haccounts := howns.accounts.perm hperm
  cases hget : session.cells.get? name with
  | none =>
      rw [howns.get?_eq_none_iff.mpr hget] at haccounts ⊢
      refine ⟨session.machine.heap, ?_, ?_⟩
      · unfold store storing
        refine run_running ?_
        rw [Action.run_bind_ok _ (Action.run_get _), Action.run_bind_ok _ (Action.run_set _ _),
          hget]
        simp [Payload.dropEventsOf, Payload.droppedOf]
      · exact howns.insert (howns.coherent.advance _ _ _ _) (.advance _ _ _ _ _)
          (hholds.mono (.advance _ _ _ _ _)) (haccounts.report [])
  | some old =>
      obtain ⟨old?, hold, hheld⟩ := howns.exists_holding hget
      rw [hold] at haccounts ⊢
      obtain ⟨heap, hdestroy, hafter⟩ := Cell.destroy_run haccounts hheld
      refine ⟨heap, ?_, ?_⟩
      · unfold store storing programAction
        refine run_running ?_
        rw [Action.run_bind_ok _ (Action.run_get _), Action.run_bind_ok _ (Action.run_set _ _),
          hget]
        simp only []
        rw [Action.run_within, hdestroy]
      · exact howns.insert (howns.coherent.advance _ _ _ _) (.advance _ _ _ _ _)
          (hholds.mono (.advance _ _ _ _ _)) hafter

end Running

end DynamicValue.Session
