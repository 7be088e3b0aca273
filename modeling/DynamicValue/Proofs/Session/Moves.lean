/-
# Commands that move values

Exchanging two variables, taking a value over into another variable and unwrapping one hand a
payload on as it is: it is neither copied nor destroyed on the way. What is destroyed is only what
was in the place that the payload goes to, or, after unwrapping, the payload itself when its new
owner is done with it.
-/

import DynamicValue.Proofs.Session.Holdings
import DynamicValue.Session.Step

namespace DynamicValue.Session

variable {session : Session} {holdings : Directory (Option Holding)} {name first second : String}
  {holding? firstHolding? secondHolding? : Option Holding} {holding : Holding}
  {cell firstCell secondCell : Cell} {type : ValueType}

theorem map_mapError {ε δ α β : Type} (outcome : Except ε α) (answer : α → β) (wrap : ε → δ) :
    (outcome.mapError wrap).map answer = (outcome.map answer).mapError wrap := by
  cases outcome <;> rfl

/-! ## Exchanging -/

/-- Exchanging two variables exchanges what they hold, and the program does not take part in it. -/
theorem swap_run (howns : session.Owns holdings []) (hne : first ≠ second)
    (hfirst : session.cells.get? first = some firstCell)
    (hsecond : session.cells.get? second = some secondCell)
    (hfirstHeld : holdings.get? first = some firstHolding?)
    (hsecondHeld : holdings.get? second = some secondHolding?) :
    let after := { session with
      cells := (session.cells.insert first secondCell).insert second firstCell }
    (swap first second).run session = (.ok .nothing, after) ∧
      after.Owns ((holdings.insert first secondHolding?).insert second firstHolding?) [] := by
  refine ⟨?_, howns.coherent, fun name => ?_, ?_⟩
  · unfold swap
    simp only [if_neg hne]
    rw [Action.run_bind_ok _ (run_valueOf_some hfirst),
      Action.run_bind_ok _ (run_valueOf_some hsecond),
      Action.run_bind_ok _ (Action.run_modify _ _)]
    rfl
  · change Option.Rel _
      (((session.cells.insert first secondCell).insert second firstCell).get? name)
      (((holdings.insert first secondHolding?).insert second firstHolding?).get? name)
    simp only [Directory.get?_insert]
    split
    · rw [← hfirst, ← hfirstHeld]
      exact howns.agree first
    · split
      · rw [← hsecond, ← hsecondHeld]
        exact howns.agree second
      · exact howns.agree name
  · refine howns.accounts.perm ?_
    exact ((Directory.values_exchange_perm hne hfirstHeld hsecondHeld).filterMap _).symm

/-! ## Taking over -/

/-- Taking a value over into another variable leaves an empty value behind and ends the value that
the other variable had, if there was one. -/
theorem take_run (howns : session.Owns holdings [])
    (hget : session.cells.get? first = some cell)
    (hheld : holdings.get? first = some holding?) (second : String) :
    ∃ heap,
      let old? := ((holdings.insert first none).get? second).join
      let after := { session with
        machine := session.machine.advance heap 0 (old?.toList.map Holding.serial)
          (Payload.dropEventsOf (old?.map Holding.payload))
        cells := (session.cells.insert first .empty).insert second cell }
      (take first second).run session =
        (((Payload.droppedOf (old?.map Holding.payload)).map fun _ => Answer.nothing).mapError
          .halted, after) ∧
      after.Owns ((holdings.insert first none).insert second holding?) [] := by
  obtain ⟨found, hfound, hholds⟩ := howns.exists_holding hget
  obtain rfl : holding? = found := Option.some.inj (hheld.symm.trans hfound)
  have hmoved : Cell.take.run ⟨session.machine, cell⟩ = (.ok cell, ⟨session.machine, .empty⟩) := rfl
  have htaken : (onVariable first Cell.take).run session = (.ok cell,
      { session with cells := session.cells.insert first .empty }) := run_onVariable hget hmoved
  have hempty : Owns { session with cells := session.cells.insert first .empty }
      (holdings.insert first none) holding?.toList :=
    howns.insert howns.coherent (.refl _) .empty (howns.focus hheld hholds).accounts
  rw [← List.append_nil holding?.toList] at hempty
  obtain ⟨heap, hstore, hafter⟩ := store_run hempty hholds second
  refine ⟨heap, ?_, hafter⟩
  unfold take
  rw [Action.run_bind_ok _ htaken, Action.run_bind_pure _ hstore, map_mapError]

/-! ## Removing and unwrapping -/

/-- Removing a variable ends its value. -/
theorem drop_run (howns : session.Owns holdings []) (hget : session.cells.get? name = some cell)
    (hheld : holdings.get? name = some holding?) :
    ∃ heap,
      let after := { session with
        machine := session.machine.advance heap 0 (holding?.toList.map Holding.serial)
          (Payload.dropEventsOf (holding?.map Holding.payload))
        cells := session.cells.erase name }
      (drop name).run session =
        (((Payload.droppedOf (holding?.map Holding.payload)).map fun _ =>
          Answer.truth true).mapError .halted, after) ∧
      after.Owns (holdings.erase name) [] := by
  obtain ⟨found, hfound, hholds⟩ := howns.exists_holding hget
  obtain rfl : holding? = found := Option.some.inj (hheld.symm.trans hfound)
  have herased := howns.erase name
  rw [hheld, Option.join_some, List.append_nil] at herased
  obtain ⟨heap, hdestroy, haccounts⟩ := Cell.destroy_run herased.accounts hholds
  refine ⟨heap, ?_, herased.onMachine (howns.coherent.advance _ _ _ _) (.advance _ _ _ _ _)
    haccounts⟩
  unfold drop
  rw [Action.run_bind_ok _ (Action.run_get _), hget]
  simp only []
  rw [Action.run_bind_ok _ (Action.run_modify _ _)]
  rw [Action.run_bind_pure _ (run_onMachine hdestroy), map_mapError]

/-- Unwrapping a variable moves its payload out as the instance that it is. The variable is gone,
and the payload ends when its new owner is done with it. -/
theorem intoInner_run (howns : session.Owns holdings [])
    (hget : session.cells.get? name = some cell)
    (hheld : holdings.get? name = some (some holding)) :
    ∃ heap,
      let after := { session with
        machine := session.machine.advance heap 0 [holding.serial] holding.payload.dropEvents
        cells := session.cells.erase name }
      (intoInner name (.ok holding.payload.type)).run session =
        ((holding.payload.dropped.map fun _ => Answer.unwrapped holding.payload).mapError .halted,
          after) ∧
      after.Owns (holdings.erase name) [] := by
  obtain ⟨found, hfound, hholds⟩ := howns.exists_holding hget
  obtain rfl : some holding = found := Option.some.inj (hheld.symm.trans hfound)
  have hfits := Cell.holds_run howns.accounts hholds (Owns.mem_accounts hheld) holding.payload.type
  have herased := howns.erase name
  rw [hheld, Option.join_some, List.append_nil] at herased
  obtain ⟨heap, hinto, hloose⟩ := Cell.intoInstance?_run herased.accounts hholds
  have haccounts := hloose.discard holding.payload.dropEvents
  have hdestroy := Machine.destroy_run holding.contents (session.machine.advance heap 0 [] [])
  rw [Machine.advance_heap, Machine.advance_advance] at haccounts hdestroy
  refine ⟨heap, ?_, herased.onMachine (howns.coherent.advance _ _ _ _) (.advance _ _ _ _ _)
    haccounts⟩
  unfold intoInner
  rw [Action.run_bind_ok _ (run_valueOf_some hget), Action.run_bind_ok _ (run_read _ _),
    Action.run_bind_ok _ (run_onMachine hfits)]
  simp only [Option.any_some, decide_true, if_true]
  rw [Action.run_bind_ok _ (Action.run_modify _ _), Action.run_bind_ok _ (run_onMachine hinto)]
  simp only [Option.map_some]
  rw [Action.run_bind_pure _ (run_onMachine hdestroy), map_mapError]
  rfl

/-- A variable is not unwrapped as another type than its own. -/
theorem intoInner_run_other (howns : session.Owns holdings [])
    (hget : session.cells.get? name = some cell) (hheld : holdings.get? name = some holding?)
    (htype : holding?.map (·.payload.type) ≠ some type) :
    (intoInner name (.ok type)).run session = (.ok .mismatch, session) := by
  obtain ⟨found, hfound, hholds⟩ := howns.exists_holding hget
  obtain rfl : holding? = found := Option.some.inj (hheld.symm.trans hfound)
  have hfits := Cell.holds_run howns.accounts hholds (Owns.mem_accounts hheld) type
  have hnot : (holding?.any fun holding => holding.payload.type = type) = false := by
    cases holding? with
    | none => rfl
    | some holding => simpa using htype
  rw [hnot] at hfits
  unfold intoInner
  rw [Action.run_bind_ok _ (run_valueOf_some hget), Action.run_bind_ok _ (run_read _ _),
    Action.run_bind_ok _ (run_onMachine hfits)]
  rfl

end DynamicValue.Session
