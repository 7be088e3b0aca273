/-
# Sessions of container commands follow the typed store

Every command of the container, carried out in a session that looks like a typed store, ends like
the step of the store and leaves a session that looks like the store again. By induction this holds
of whole sessions, which also show the same variables and the same events after each step. So
nothing that a session shows depends on tables, slots or boxes, and no reading of a slot or of a box
fails.
-/

import DynamicValue.Proofs.Session.Moves
import DynamicValue.Proofs.Session.Refinement

namespace DynamicValue.Session

variable {session : Session} {holdings : Directory (Option Holding)}

/-! ## The commands one by one -/

/-- A new value is in the hands of the command until it is stored. -/
theorem new_refines (howns : session.Owns holdings []) (name : String) (payload? : Option Payload) :
    Refines ((do store name (← onMachine (newCell payload?)) : SessionAction Unit).run session)
      ((TypedStore.store name payload?).run ⟨contentsOf holdings, session.machine.events⟩) := by
  cases payload? with
  | none =>
      have hnew : (onMachine (newCell none)).run session = (.ok .empty, session) := rfl
      rw [Action.run_bind_ok _ hnew]
      exact Refines.storing (show session.Owns holdings (none : Option Holding).toList from howns)
        .empty name
  | some payload =>
      obtain ⟨cell, holding, known, heap, hmade, hlearns, hcoherent, hholds, hcontents,
        haccounts⟩ := Cell.ofPayload_apply howns.coherent howns.accounts payload
      have hafter : Owns { session with machine := known.advance heap 0 [] [] } holdings
          (some holding).toList :=
        howns.onMachine (hcoherent.advance _ _ _ _)
          (((Machine.Extends.advance _ _ _ _ _).trans hlearns.toExtends).trans
            (.advance _ _ _ _ _)) haccounts
      have hevents : (known.advance heap 0 [] []).events = session.machine.events := by
        rw [Machine.advance_events, List.append_nil, hlearns.events, Machine.advance_events,
          List.append_nil]
      have hpayload : holding.payload = payload := congrArg Instance.payload hcontents
      have hnew : newCell (some payload) session.machine =
          (cell, known.advance heap 0 [] []) := hmade
      have hstore := Refines.storing hafter hholds name
      rw [Option.map_some, hpayload, hevents] at hstore
      rw [Action.run_bind_ok _ (run_onMachine_lift hnew)]
      exact hstore

/-- The copy of a value is in the hands of the command until it is stored. -/
theorem clone_refines (howns : session.Owns holdings []) {cell : Cell} {holding? : Option Holding}
    {source : String} (hheld : holdings.get? source = some holding?)
    (hholds : cell.Holds session.machine holding?) (target : String) :
    Refines ((do store target (← onMachine cell.clone) : SessionAction Unit).run session)
      ((do TypedStore.store target (← TypedStore.copyOf (holding?.map Holding.payload)) :
        StoreAction Unit).run ⟨contentsOf holdings, session.machine.events⟩) := by
  cases holding? with
  | none =>
      rw [Action.run_bind_ok _ (run_onMachine_ok (Cell.clone_run_none hholds))]
      exact Refines.storing (show session.Owns holdings (none : Option Holding).toList from howns)
        .empty target
  | some holding =>
      have hmem : holding ∈ holdings.values.reduceOption := mem_held hheld
      simp only [Option.map_some]
      cases hcopied : holding.payload.copied with
      | error halt =>
          have hclone := Cell.clone_run_error howns.accounts hholds hmem hcopied
          rw [Action.run_bind_error _ (run_onMachine hclone),
            Action.run_bind_error _ (TypedStore.run_copyOf_error hcopied)]
          exact .error (howns.onMachine (howns.coherent.advance _ _ _ _) (.advance _ _ _ _ _)
            (howns.accounts.report _)) _
      | ok copied =>
          obtain ⟨clone, copiedHolding, heap, hclone, hcopy, hcontents, haccounts⟩ :=
            Cell.clone_run_ok howns.accounts hholds hmem hcopied
          have hafter : Owns { session with
              machine := session.machine.advance heap 1 [] holding.payload.copyEvents } holdings
              (some copiedHolding).toList :=
            howns.onMachine (howns.coherent.advance _ _ _ _) (.advance _ _ _ _ _) haccounts
          have hpayload : copiedHolding.payload = copied := congrArg Instance.payload hcontents
          have hstore := Refines.storing hafter hcopy target
          rw [Option.map_some, hpayload] at hstore
          rw [Action.run_bind_ok _ (run_onMachine_ok hclone),
            Action.run_bind_ok _ (TypedStore.run_copyOf_ok hcopied)]
          exact hstore

/-- The value of a variable that is taken out and given up. -/
theorem drop_refines (howns : session.Owns holdings []) (name : String) :
    Refines ((drop name).run session) ((TypedStore.step (.drop name)).run
      ⟨contentsOf holdings, session.machine.events⟩) := by
  unfold TypedStore.step
  simp only []
  rw [Action.run_bind_ok _ (Action.run_get _)]
  cases hget : session.cells.get? name with
  | none =>
      have hnone := contentsOf_get?_none (howns.get?_eq_none_iff.mpr hget)
      simp only [hnone]
      unfold drop
      rw [Action.run_bind_ok _ (Action.run_get _), hget]
      exact .ok howns _
  | some cell =>
      obtain ⟨holding?, hheld, hholds⟩ := howns.exists_holding hget
      obtain ⟨heap, hdrop, hafter⟩ := drop_run howns hget hheld
      simp only [contentsOf_get?_some hheld]
      rw [hdrop, Action.run_bind_ok _ (TypedStore.run_erase _),
        Action.run_bind_pure _ (TypedStore.run_destroy _), map_mapError]
      exact ⟨rfl, _, hafter, by rw [contentsOf_erase]; rfl⟩

theorem intoInner_refines (howns : session.Owns holdings []) (name : String)
    (type : Reading ValueType) :
    Refines ((intoInner name type).run session) ((TypedStore.step (.intoInner name type)).run
      ⟨contentsOf holdings, session.machine.events⟩) := by
  cases hget : session.cells.get? name with
  | none =>
      have hnone := contentsOf_get?_none (howns.get?_eq_none_iff.mpr hget)
      unfold intoInner TypedStore.step
      rw [Action.run_bind_error _ (run_valueOf_none hget)]
      simp only []
      rw [Action.run_bind_error _ (TypedStore.run_valueOf_none hnone)]
      exact .error howns _
  | some cell =>
      obtain ⟨holding?, hheld, hholds⟩ := howns.exists_holding hget
      unfold TypedStore.step
      simp only []
      rw [Action.run_bind_ok _ (TypedStore.run_valueOf_some (contentsOf_get?_some hheld))]
      cases type with
      | error complaint =>
          unfold intoInner
          rw [Action.run_bind_ok _ (run_valueOf_some hget)]
          exact .error howns _
      | ok type =>
          rw [Action.run_bind_ok _ (TypedStore.run_read _ _)]
          by_cases htype : holding?.map (·.payload.type) = some type
          · obtain ⟨holding, rfl, rfl⟩ := Option.map_eq_some_iff.mp htype
            obtain ⟨heap, hinto, hafter⟩ := intoInner_run howns hget hheld
            simp only [Option.map_some, if_true]
            rw [hinto, Action.run_bind_ok _ (TypedStore.run_erase _),
              TypedStore.run_destroy_bind]
            exact ⟨rfl, _, hafter, by rw [contentsOf_erase]; rfl⟩
          · rw [intoInner_run_other howns hget hheld htype]
            cases holding? with
            | none => exact .ok howns _
            | some holding =>
                have hdiffer : holding.payload.type ≠ type := fun heq => htype (congrArg some heq)
                simp only [Option.map_some, if_neg hdiffer]
                exact .ok howns _

theorem swap_refines (howns : session.Owns holdings []) (first second : String) :
    Refines ((swap first second).run session) ((TypedStore.step (.swap first second)).run
      ⟨contentsOf holdings, session.machine.events⟩) := by
  by_cases hne : first = second
  · simp only [swap, TypedStore.step, if_pos hne]
    exact .error howns _
  · simp only [swap, TypedStore.step, if_neg hne]
    refine .lookingUp howns first fun firstCell firstHolding? hfirst hfirstHeld _ => ?_
    refine .lookingUp howns second fun secondCell secondHolding? hsecond hsecondHeld _ => ?_
    obtain ⟨-, hafter⟩ := swap_run howns hne hfirst hsecond hfirstHeld hsecondHeld
    rw [Action.run_bind_ok _ (Action.run_modify _ _), Action.run_bind_ok _ (TypedStore.run_put _ _),
      Action.run_bind_ok _ (TypedStore.run_put _ _), ← contentsOf_insert, ← contentsOf_insert]
    exact .ok hafter _

theorem take_refines (howns : session.Owns holdings []) (first second : String) :
    Refines ((take first second).run session) ((TypedStore.step (.take first second)).run
      ⟨contentsOf holdings, session.machine.events⟩) := by
  unfold TypedStore.step
  simp only []
  cases hget : session.cells.get? first with
  | none =>
      have hnone := contentsOf_get?_none (howns.get?_eq_none_iff.mpr hget)
      unfold take onVariable
      rw [Action.run_bind_error _ (Action.run_bind_error _ (run_valueOf_none hget)),
        Action.run_bind_error _ (TypedStore.run_valueOf_none hnone)]
      exact .error howns _
  | some cell =>
      obtain ⟨holding?, hheld, -⟩ := howns.exists_holding hget
      obtain ⟨heap, htake, hafter⟩ := take_run howns hget hheld second
      rw [htake, Action.run_bind_ok _ (TypedStore.run_valueOf_some (contentsOf_get?_some hheld)),
        Action.run_bind_ok _ (TypedStore.run_put _ _),
        Action.run_bind_pure _ (TypedStore.run_store _ _), map_mapError]
      have hold : (((contentsOf holdings).insert first none).get? second).join =
          ((holdings.insert first none).get? second).join.map Holding.payload := by
        have hinsert := contentsOf_insert holdings first none
        rw [Option.map_none] at hinsert
        rw [← hinsert, contentsOf_get?]
        cases (holdings.insert first none).get? second <;> rfl
      rw [hold]
      exact ⟨rfl, _, hafter, by rw [contentsOf_insert, contentsOf_insert]; rfl⟩

/-- A command that looks a variable up and changes it in place. -/
theorem changing_refines {α : Type} (howns : session.Owns holdings []) (name : String)
    {action : Action Focus α} {ideal : Option Payload → StoreAction α}
    (hchanges : ∀ cell holding?, holdings.get? name = some holding? →
      Focus.Owns ⟨session.machine, cell⟩ holding? (others holdings name) →
      Changes holdings name holding? session.machine cell action
        (ideal (holding?.map Holding.payload))) :
    Refines ((onVariable name action).run session) ((TypedStore.valueOf name >>= ideal).run
      ⟨contentsOf holdings, session.machine.events⟩) := by
  cases hget : session.cells.get? name with
  | none =>
      have hnone := contentsOf_get?_none (howns.get?_eq_none_iff.mpr hget)
      unfold onVariable
      rw [Action.run_bind_error _ (run_valueOf_none hget),
        Action.run_bind_error _ (TypedStore.run_valueOf_none hnone)]
      exact .error howns _
  | some cell =>
      obtain ⟨holding?, hheld, hholds⟩ := howns.exists_holding hget
      rw [Action.run_bind_ok _ (TypedStore.run_valueOf_some (contentsOf_get?_some hheld))]
      exact (hchanges cell holding? hheld (howns.focus hheld hholds)).refines howns hget

/-- Assigning one variable to another changes that one. Nothing happens to a variable that is
assigned to itself. -/
theorem assign_variable_changes (howns : session.Owns holdings []) {source target : String}
    {cell other : Cell} {holding? theirs? : Option Holding}
    (hheld : holdings.get? target = some holding?) (hholds : cell.Holds session.machine holding?)
    (htheirs : holdings.get? source = some theirs?) (hother : other.Holds session.machine theirs?) :
    Changes holdings target holding? session.machine cell
      (if source = target then pure () else Cell.assign other)
      (if source = target then pure ()
        else TypedStore.copyOver target (theirs?.map Holding.payload)
          (holding?.map Holding.payload)) := by
  have hfocus := howns.focus hheld hholds
  by_cases hsame : source = target
  · simp only [if_pos hsame]
    exact ⟨.ok (), _, _, _, rfl, by rw [contentsOf_insert_self hheld]; rfl, .refl _, hfocus,
      fun _ => rfl⟩
  · simp only [if_neg hsame]
    refine assign_changes hheld hfocus hother fun theirs hsome => ?_
    exact mem_others (htheirs.trans (congrArg some hsome)) hsame

theorem assign_refines (howns : session.Owns holdings []) (source target : String) :
    Refines ((assign source target).run session) ((TypedStore.step (.assign source target)).run
      ⟨contentsOf holdings, session.machine.events⟩) := by
  unfold assign TypedStore.step
  refine .lookingUp howns source fun other theirs? hsource htheirs hother => ?_
  cases hget : session.cells.get? target with
  | none =>
      have hnone := contentsOf_get?_none (howns.get?_eq_none_iff.mpr hget)
      unfold tracked TypedStore.tracked
      rw [Action.run_bind_error _ (run_valueOf_none hget),
        Action.run_bind_error _ (TypedStore.run_valueOf_none hnone)]
      exact .error howns _
  | some cell =>
      obtain ⟨holding?, hheld, hholds⟩ := howns.exists_holding hget
      exact Changes.tracked (assign_variable_changes howns hheld hholds htheirs hother) howns hget
        hheld

/-- The payload that a command makes is in its hands. -/
theorem create_owns (howns : session.Owns holdings []) (payload : Payload) :
    Owns { session with machine := session.machine.advance session.machine.heap 1 [] [] } holdings
      [.loose ⟨session.machine.created, payload⟩] :=
  howns.onMachine (howns.coherent.advance _ _ _ _) (.advance _ _ _ _ _)
    (howns.accounts.create payload [])

/-- Giving a variable a payload that the command has made. -/
theorem assignValue_variable_changes (howns : session.Owns holdings []) {name : String}
    {cell : Cell}
    {holding? : Option Holding} (hheld : holdings.get? name = some holding?)
    (hholds : cell.Holds session.machine holding?) (payload : Payload) :
    Changes holdings name holding? (session.machine.advance session.machine.heap 1 [] []) cell
      (Cell.assignInstance ⟨session.machine.created, payload⟩)
      (TypedStore.moveOver name payload (holding?.map Holding.payload)) :=
  assignInstance_changes hheld
    ((create_owns howns payload).focus hheld (hholds.mono (.advance _ _ _ _ _)))

theorem assignValue_refines (howns : session.Owns holdings []) (name : String)
    (payload : Reading Payload) :
    Refines ((assignValue name payload).run session)
      ((TypedStore.step (.assignValue name payload)).run
        ⟨contentsOf holdings, session.machine.events⟩) := by
  unfold assignValue TypedStore.step
  refine .lookingUp howns name fun cell holding? hget hheld hholds => ?_
  refine .reading howns payload fun payload => ?_
  rw [Action.run_bind_ok _ (run_onMachine_lift (Machine.create_apply payload session.machine))]
  have htracked := Changes.tracked (assignValue_variable_changes howns hheld hholds payload)
    (create_owns howns payload) hget hheld
  rw [Machine.advance_events, List.append_nil] at htracked
  exact htracked

theorem mutate_refines (howns : session.Owns holdings []) (name : String)
    (payload : Reading Payload) :
    Refines ((mutate name payload).run session) ((TypedStore.step (.mutate name payload)).run
      ⟨contentsOf holdings, session.machine.events⟩) := by
  unfold mutate TypedStore.step
  refine .lookingUp howns name fun cell holding? hget hheld hholds => ?_
  refine .reading howns payload fun payload => ?_
  have hmade := create_owns howns payload
  rw [Action.run_bind_ok _ (run_onMachine_lift (Machine.create_apply payload session.machine))]
  have hfocus := hmade.focus hheld (hholds.mono (.advance _ _ _ _ _))
  have hmutate := (mutate_changes hheld hfocus).refines hmade hget
  rw [Machine.advance_events, List.append_nil] at hmutate
  exact hmutate.answering Answer.truth

/-- The payload under a type is the payload itself, if it has this type. -/
theorem downcast_eq (holding? : Option Holding) (type : ValueType) :
    ((holding?.bind fun holding => holding.payload.as? type).map fun value =>
        (⟨type, value⟩ : Payload)) =
      (holding?.map Holding.payload).filter fun payload => payload.type = type := by
  cases holding? with
  | none => rfl
  | some holding =>
      rw [Option.bind_some, Option.map_some, Option.filter_some]
      by_cases htype : holding.payload.type = type
      · subst htype
        rw [Payload.as?_self, if_pos (decide_eq_true rfl)]
        rfl
      · rw [Payload.as?_eq_none_iff.mpr htype, if_neg (by simpa using htype)]
        rfl

/-- Each command of the container follows the typed store. -/
theorem step_refines (howns : session.Owns holdings []) (command : ContainerCommand) :
    Refines ((step command.command).run session)
      ((TypedStore.step command).run ⟨contentsOf holdings, session.machine.events⟩) := by
  cases command with
  | new name payload? =>
      refine .reading howns payload? fun payload? => ?_
      have hanswer := (new_refines howns name payload?).answering fun _ => Answer.nothing
      rw [bind_assoc] at hanswer
      exact hanswer
  | clone source target =>
      refine .lookingUp howns source fun cell holding? hget hheld hholds => ?_
      have hanswer := (clone_refines howns hheld hholds target).answering fun _ => Answer.nothing
      rw [bind_assoc, bind_assoc] at hanswer
      exact hanswer
  | assign source target => exact assign_refines howns source target
  | assignValue name payload => exact assignValue_refines howns name payload
  | swap first second => exact swap_refines howns first second
  | take source target => exact take_refines howns source target
  | reset name =>
      have hreset := changing_refines howns name fun _ _ _ hfocus => reset_changes hfocus
      have hanswer := hreset.answering fun _ => Answer.nothing
      rw [bind_assoc] at hanswer
      exact hanswer
  | drop name => exact drop_refines howns name
  | intoInner name type => exact intoInner_refines howns name type
  | mutate name payload => exact mutate_refines howns name payload
  | append name suffix =>
      have happend := changing_refines howns name
        fun _ _ hheld hfocus => append_changes hheld hfocus suffix
      have hanswer := happend.answering Answer.truth
      rw [bind_assoc] at hanswer
      exact hanswer
  | holds name type =>
      refine .reading howns type fun type => ?_
      refine .lookingUp howns name fun cell holding? hget hheld hholds => ?_
      have hfits := Cell.holds_run howns.accounts hholds (Owns.mem_accounts hheld) type
      rw [Action.run_bind_ok _ (run_onMachine_ok hfits), typeOf_payload]
      have hsame : (holding?.any fun holding => holding.payload.type = type) =
          decide (holding?.map (·.payload.type) = some type) := by
        cases holding? <;> simp
      rw [hsame]
      exact .ok howns _
  | downcast name type =>
      refine .reading howns type fun type => ?_
      refine .lookingUp howns name fun cell holding? hget hheld hholds => ?_
      have hvalue := Cell.valueOf?_run howns.accounts hholds (Owns.mem_accounts hheld) type
      rw [Action.run_bind_ok _ (run_onMachine_ok hvalue), downcast_eq]
      exact .ok howns _

end DynamicValue.Session
