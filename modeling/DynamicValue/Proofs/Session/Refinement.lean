/-
# The steps of a session follow the typed store

A session whose variables hold what a directory of holdings says looks like a typed store: the
payloads in place of the holdings, and the same events. Each command of the container ends in the
same way on both sides and leaves a session that looks like the store that is left.

The commands that change a variable in place are followed through their panics first. For them it
matters also that a payload of the same type stays in its box, because a session tells whether it
did.
-/

import DynamicValue.Proofs.Cell.Observation
import DynamicValue.Proofs.Session.Holdings
import DynamicValue.Proofs.Session.TypedStore

namespace DynamicValue.Session

/-- The values of the variables, as the typed store has them. -/
def contentsOf (holdings : Directory (Option Holding)) : Directory (Option Payload) :=
  holdings.map (Option.map Holding.payload)

section Contents

variable {holdings : Directory (Option Holding)} {name : String} {holding? : Option Holding}

theorem contentsOf_get? (holdings : Directory (Option Holding)) (name : String) :
    (contentsOf holdings).get? name = (holdings.get? name).map (Option.map Holding.payload) :=
  Directory.get?_map _ _ _

theorem contentsOf_get?_some (hget : holdings.get? name = some holding?) :
    (contentsOf holdings).get? name = some (holding?.map Holding.payload) := by
  rw [contentsOf_get?, hget, Option.map_some]

theorem contentsOf_get?_none (hget : holdings.get? name = none) :
    (contentsOf holdings).get? name = none := by
  rw [contentsOf_get?, hget, Option.map_none]

theorem contentsOf_insert (holdings : Directory (Option Holding)) (name : String)
    (holding? : Option Holding) :
    contentsOf (holdings.insert name holding?) =
      (contentsOf holdings).insert name (holding?.map Holding.payload) :=
  Directory.map_insert _ _ _ _

theorem contentsOf_erase (holdings : Directory (Option Holding)) (name : String) :
    contentsOf (holdings.erase name) = (contentsOf holdings).erase name :=
  Directory.map_erase _ _ _

theorem typeOf_payload (holding? : Option Holding) :
    TypedStore.typeOf (holding?.map Holding.payload) = holding?.map (·.payload.type) := by
  cases holding? <;> rfl

end Contents

/-- A step of a session and a step of the typed store end in the same way, and the session looks
like the store afterwards. -/
def Refines {α : Type} (concrete : Except Failure α × Session)
    (ideal : Except Failure α × TypedStore) : Prop :=
  concrete.1 = ideal.1 ∧ ∃ holdings, concrete.2.Owns holdings [] ∧
    ideal.2 = ⟨contentsOf holdings, concrete.2.machine.events⟩

section Refines

variable {α β : Type} {session : Session} {before : TypedStore}
  {holdings : Directory (Option Holding)} {holding? : Option Holding} {cell : Cell} {name : String}

/-- A step that fails without having done anything. -/
theorem Refines.error (howns : session.Owns holdings []) (failure : Failure) :
    Refines (α := α) (.error failure, session)
      (.error failure, ⟨contentsOf holdings, session.machine.events⟩) :=
  ⟨rfl, holdings, howns, rfl⟩

theorem Refines.ok (howns : session.Owns holdings []) (value : α) :
    Refines (.ok value, session) (.ok value, ⟨contentsOf holdings, session.machine.events⟩) :=
  ⟨rfl, holdings, howns, rfl⟩

/-- Steps that follow one another, and hand on the same values. -/
theorem Refines.bind {action : SessionAction α} {ideal : StoreAction α}
    {next : α → SessionAction β} {idealNext : α → StoreAction β}
    (hfirst : Refines (action.run session) (ideal.run before))
    (hnext : ∀ value after holdings', action.run session = (.ok value, after) →
      after.Owns holdings' [] →
      Refines ((next value).run after)
        ((idealNext value).run ⟨contentsOf holdings', after.machine.events⟩)) :
    Refines ((action >>= next).run session) ((ideal >>= idealNext).run before) := by
  obtain ⟨houtcome, holdings', howns, hstore⟩ := hfirst
  rcases hrun : action.run session with ⟨outcome, after⟩
  rcases hideal : ideal.run before with ⟨outcome', store'⟩
  rw [hrun] at houtcome howns hstore
  rw [hideal] at houtcome hstore
  obtain rfl : outcome = outcome' := houtcome
  obtain rfl : store' = ⟨contentsOf holdings', after.machine.events⟩ := hstore
  cases outcome with
  | error failure =>
      rw [Action.run_bind_error _ hrun, Action.run_bind_error _ hideal]
      exact ⟨rfl, holdings', howns, rfl⟩
  | ok value =>
      rw [Action.run_bind_ok _ hrun, Action.run_bind_ok _ hideal]
      exact hnext value after holdings' hrun howns

/-- A step that ends with an answer which depends on nothing but its last part. -/
theorem Refines.answering {action : SessionAction α} {ideal : StoreAction α} (answer : α → β)
    (hfirst : Refines (action.run session) (ideal.run before)) :
    Refines ((action >>= fun value => pure (answer value)).run session)
      ((ideal >>= fun value => pure (answer value)).run before) :=
  hfirst.bind fun value _ _ _ howns => .ok howns (answer value)

theorem Refines.reading (howns : session.Owns holdings []) (reading : Reading α)
    {next : α → SessionAction β} {idealNext : α → StoreAction β}
    (hnext : ∀ value, Refines ((next value).run session)
      ((idealNext value).run ⟨contentsOf holdings, session.machine.events⟩)) :
    Refines ((read reading >>= next).run session)
      ((TypedStore.read reading >>= idealNext).run
        ⟨contentsOf holdings, session.machine.events⟩) := by
  cases reading with
  | error complaint => exact .error howns (.complaint complaint)
  | ok value => exact hnext value

/-- A variable that a step looks up: it is missing on both sides, or has what the directory says. -/
theorem Refines.lookingUp (howns : session.Owns holdings []) (name : String)
    {next : Cell → SessionAction β} {idealNext : Option Payload → StoreAction β}
    (hnext : ∀ cell holding?, session.cells.get? name = some cell →
      holdings.get? name = some holding? → cell.Holds session.machine holding? →
      Refines ((next cell).run session) ((idealNext (holding?.map Holding.payload)).run
        ⟨contentsOf holdings, session.machine.events⟩)) :
    Refines ((valueOf name >>= next).run session)
      ((TypedStore.valueOf name >>= idealNext).run
        ⟨contentsOf holdings, session.machine.events⟩) := by
  cases hget : session.cells.get? name with
  | none =>
      have hnone := contentsOf_get?_none (howns.get?_eq_none_iff.mpr hget)
      rw [Action.run_bind_error _ (run_valueOf_none hget),
        Action.run_bind_error _ (TypedStore.run_valueOf_none hnone)]
      exact .error howns _
  | some cell =>
      obtain ⟨holding?, hheld, hholds⟩ := howns.exists_holding hget
      rw [Action.run_bind_ok _ (run_valueOf_some hget),
        Action.run_bind_ok _ (TypedStore.run_valueOf_some (contentsOf_get?_some hheld))]
      exact hnext cell holding? hget hheld hholds

/-- A value that is stored in a variable. -/
theorem Refines.storing (howns : session.Owns holdings holding?.toList)
    (hholds : cell.Holds session.machine holding?) (name : String) :
    Refines ((store name cell).run session)
      ((TypedStore.store name (holding?.map Holding.payload)).run
        ⟨contentsOf holdings, session.machine.events⟩) := by
  rw [← List.append_nil holding?.toList] at howns
  obtain ⟨heap, hstore, hafter⟩ := store_run howns hholds name
  rw [hstore, TypedStore.run_store]
  have hold : ((contentsOf holdings).get? name).join =
      (holdings.get? name).join.map Holding.payload := by
    rw [contentsOf_get?]
    cases holdings.get? name <;> rfl
  rw [hold]
  exact ⟨rfl, _, hafter, by rw [contentsOf_insert]; rfl⟩

end Refines

/-! ## Changing a variable in place -/

/-- An action on the value of a variable does what the typed store does with the variable: it ends
in the same way and leaves the same payload and the same events. A value that keeps its type keeps
its box. -/
def Changes {α : Type} (holdings : Directory (Option Holding)) (name : String)
    (holding? : Option Holding) (machine : Machine) (cell : Cell) (action : Action Focus α)
    (ideal : StoreAction α) : Prop :=
  ∃ outcome machine' cell' holding?',
    action.run ⟨machine, cell⟩ = (outcome, ⟨machine', cell'⟩) ∧
    ideal.run ⟨contentsOf holdings, machine.events⟩ =
      (outcome.mapError .halted, ⟨contentsOf (holdings.insert name holding?'), machine'.events⟩) ∧
    machine.Extends machine' ∧
    Focus.Owns ⟨machine', cell'⟩ holding?' (others holdings name) ∧
    (holding?'.map (·.payload.type) = holding?.map (·.payload.type) →
      holding?'.map Holding.box? = holding?.map Holding.box?)

section Changes

variable {α : Type} {session : Session} {holdings : Directory (Option Holding)}
  {pending : List Holding} {name : String} {holding? theirs? : Option Holding}
  {holding : Holding} {machine : Machine} {cell other : Cell}
  {contents : Instance}

/-- A variable that an action works on. -/
theorem Changes.refines {action : Action Focus α} {ideal : StoreAction α}
    (hchanges : Changes holdings name holding? session.machine cell action ideal)
    (howns : session.Owns holdings pending) (hget : session.cells.get? name = some cell) :
    Refines ((onVariable name action).run session)
      (ideal.run ⟨contentsOf holdings, session.machine.events⟩) := by
  obtain ⟨outcome, machine', cell', holding?', hrun, hideal, hextends, hfocus, -⟩ := hchanges
  have hafter : Owns _ _ [] := howns.unfocus hextends hfocus
  rw [run_onVariable hget hrun, hideal]
  exact ⟨rfl, _, hafter, rfl⟩

/-- A change that is reported. -/
theorem tracked_run {action : Action Focus Unit} {outcome : Except Halt Unit} {changed : Cell}
    (hget : session.cells.get? name = some cell)
    (hrun : action.run ⟨session.machine, cell⟩ = (outcome, ⟨machine, changed⟩)) :
    (tracked name action).run session =
      ((outcome.map fun _ => Answer.reuse (changed.reuses cell)).mapError .halted,
        { session with machine := machine, cells := session.cells.insert name changed }) := by
  unfold tracked
  rw [Action.run_bind_ok _ (run_valueOf_some hget)]
  have hvariable := run_onVariable hget hrun
  cases outcome with
  | error halt => exact Action.run_bind_error _ hvariable
  | ok result =>
      rw [Action.run_bind_ok _ hvariable,
        Action.run_bind_ok _ (run_valueOf_some (Directory.get?_insert_self _ _ _))]
      rfl

/-- A change that is reported tells whether the type is the same as before, and if it is, the
payload is where it was. -/
theorem Changes.tracked_place {action : Action Focus Unit} {ideal : StoreAction Unit}
    (hchanges : Changes holdings name holding? session.machine cell action ideal)
    (howns : session.Owns holdings pending) (hget : session.cells.get? name = some cell)
    (hheld : holdings.get? name = some holding?) :
    ∃ changed, ((tracked name action).run session).2.cells.get? name = some changed ∧
      (changed.identity.type? = cell.identity.type? → changed.place = cell.place) ∧
      ∀ reused, ((tracked name action).run session).1 = .ok (.reuse reused) →
        reused = decide (changed.identity.type? = cell.identity.type?) := by
  obtain ⟨outcome, machine', cell', holding?', hrun, hideal, hextends, hfocus, hbox⟩ := hchanges
  obtain ⟨found, hfound, hbefore⟩ := howns.exists_holding hget
  obtain rfl : holding? = found := Option.some.inj (hheld.symm.trans hfound)
  have hreuses : cell'.reuses cell = decide (cell'.identity.type? = cell.identity.type?) := by
    rw [hbefore.identity_type?_eq howns.coherent, hfocus.holds.identity_type?_eq hfocus.coherent]
    exact hbefore.reuses_eq howns.coherent hfocus.holds hfocus.coherent hbox
  rw [tracked_run hget hrun]
  refine ⟨cell', Directory.get?_insert_self _ _ _, fun htype => ?_, fun reused houtcome => ?_⟩
  · rw [decide_eq_true htype, Cell.reuses, Bool.and_eq_true] at hreuses
    exact of_decide_eq_true hreuses.2
  · cases outcome with
    | error halt => cases houtcome
    | ok result =>
        rw [hreuses] at houtcome
        exact (Answer.reuse.inj (Except.ok.inj houtcome)).symm

/-- The typed store reports a change in the same way. -/
theorem Changes.tracked {action : Action Focus Unit} {ideal : Option Payload → StoreAction Unit}
    (hchanges : Changes holdings name holding? session.machine cell action
      (ideal (holding?.map Holding.payload)))
    (howns : session.Owns holdings pending) (hget : session.cells.get? name = some cell)
    (hheld : holdings.get? name = some holding?) :
    Refines ((tracked name action).run session)
      ((TypedStore.tracked name ideal).run ⟨contentsOf holdings, session.machine.events⟩) := by
  obtain ⟨outcome, machine', cell', holding?', hrun, hideal, hextends, hfocus, hbox⟩ := hchanges
  have hafter : Owns _ _ [] := howns.unfocus hextends hfocus
  obtain ⟨found, hfound, hbefore⟩ := howns.exists_holding hget
  obtain rfl : holding? = found := Option.some.inj (hheld.symm.trans hfound)
  rw [tracked_run hget hrun]
  unfold TypedStore.tracked
  rw [Action.run_bind_ok _ (TypedStore.run_valueOf_some (contentsOf_get?_some hheld))]
  cases outcome with
  | error halt =>
      rw [Action.run_bind_error _ hideal]
      exact ⟨rfl, _, hafter, rfl⟩
  | ok result =>
      rw [Action.run_bind_ok _ hideal, Action.run_bind_ok _ (TypedStore.run_valueOf_some
          (contentsOf_get?_some (Directory.get?_insert_self _ _ _))),
        hbefore.reuses_eq howns.coherent hfocus.holds hfocus.coherent hbox, typeOf_payload,
        typeOf_payload]
      exact ⟨rfl, _, hafter, rfl⟩

/-- A value that is empty afterwards, and of the same type as before, was empty. -/
theorem box_eq_of_none (htype : (none : Option Holding).map (·.payload.type) =
    holding?.map (·.payload.type)) :
    (none : Option Holding).map Holding.box? = holding?.map Holding.box? := by
  cases holding? with
  | none => rfl
  | some holding => cases htype

/-- An action that leaves the value of a variable in place. -/
theorem contentsOf_insert_self (hheld : holdings.get? name = some holding?) :
    contentsOf (holdings.insert name holding?) = contentsOf holdings := by
  rw [Directory.insert_eq_self hheld]

variable (hheld : holdings.get? name = some holding?)
  (hfocus : Focus.Owns ⟨machine, cell⟩ holding? (others holdings name))
include hheld hfocus

omit hheld in
/-- Resetting a variable. -/
theorem reset_changes :
    Changes holdings name holding? machine cell Cell.reset
      (TypedStore.reset name (holding?.map Holding.payload)) := by
  obtain ⟨heap, hreset, hafter⟩ := Cell.reset_run hfocus
  refine ⟨_, _, _, _, hreset, ?_, .advance _ _ _ _ _, hafter, box_eq_of_none⟩
  rw [TypedStore.run_reset, contentsOf_insert]
  rfl

/-- A copy of the same type is made before the value of the variable ends. -/
theorem assign_changes_same {theirs : Holding} (hother : other.Holds machine (some theirs))
    (hmem : theirs ∈ others holdings name)
    (htype : holding?.map (·.payload.type) = some theirs.payload.type) :
    Changes holdings name holding? machine cell (Cell.assign other)
      (TypedStore.copyOver name (some theirs.payload) (holding?.map Holding.payload)) := by
  have hcopy : TypedStore.copyOver name (some theirs.payload) (holding?.map Holding.payload) =
      (do
        let copied ← TypedStore.copy theirs.payload
        TypedStore.put name (some copied)
        TypedStore.destroy (holding?.map Holding.payload)) := by
    apply if_pos
    rwa [typeOf_payload]
  obtain ⟨holding, rfl, hsame⟩ := Option.map_eq_some_iff.mp htype
  rw [hcopy]
  cases hcopied : theirs.payload.copied with
  | error halt =>
      refine ⟨_, _, _, some holding, Cell.assign_run_same_error hfocus hother hmem hsame hcopied,
        ?_, .advance _ _ _ _ _, ?_, fun _ => rfl⟩
      · rw [Action.run_bind_error _ (TypedStore.run_copy_error hcopied),
          contentsOf_insert_self hheld]
        rfl
      · exact ⟨hfocus.coherent.advance _ _ _ _, hfocus.holds.mono (.advance _ _ _ _ _),
          hfocus.accounts.report _⟩
  | ok copied =>
      obtain ⟨cell', heap, hrun, hafter⟩ :=
        Cell.assign_run_same_ok hfocus hother hmem hsame hcopied
      refine ⟨_, _, _, _, hrun, ?_, .advance _ _ _ _ _, hafter, fun _ => rfl⟩
      rw [Action.run_bind_ok _ (TypedStore.run_copy_ok hcopied),
        Action.run_bind_ok _ (TypedStore.run_put _ _), TypedStore.run_destroy,
        contentsOf_insert, Machine.advance_events, ← List.append_assoc]
      rfl

omit hheld in
/-- A variable of another type is empty before the copy is made. -/
theorem assign_changes_other {theirs : Holding} (hother : other.Holds machine (some theirs))
    (hmem : theirs ∈ others holdings name)
    (htype : holding?.map (·.payload.type) ≠ some theirs.payload.type) :
    Changes holdings name holding? machine cell (Cell.assign other)
      (TypedStore.copyOver name (some theirs.payload) (holding?.map Holding.payload)) := by
  have hcopy : TypedStore.copyOver name (some theirs.payload) (holding?.map Holding.payload) =
      (do
        TypedStore.reset name (holding?.map Holding.payload)
        TypedStore.put name (some (← TypedStore.copy theirs.payload))) := by
    apply if_neg
    rwa [typeOf_payload]
  have hreset := TypedStore.run_reset (contentsOf holdings) machine.events name
    (holding?.map Holding.payload)
  rw [hcopy]
  cases hdropped : Payload.droppedOf (holding?.map Holding.payload) with
  | error halt =>
      rw [hdropped] at hreset
      obtain ⟨heap, hrun, hafter⟩ := Cell.assign_run_other_drop_error hfocus hother htype hdropped
      refine ⟨_, _, _, _, hrun, ?_, .advance _ _ _ _ _, hafter, box_eq_of_none⟩
      rw [Action.run_bind_error _ hreset, contentsOf_insert]
      rfl
  | ok result =>
      rw [hdropped] at hreset
      cases hcopied : theirs.payload.copied with
      | error halt =>
          obtain ⟨heap, hrun, hafter⟩ :=
            Cell.assign_run_other_copy_error hfocus hother hmem htype hdropped hcopied
          refine ⟨_, _, _, _, hrun, ?_, .advance _ _ _ _ _, hafter, box_eq_of_none⟩
          rw [Action.run_bind_ok _ hreset,
            Action.run_bind_error _ (TypedStore.run_copy_error hcopied), contentsOf_insert,
            Machine.advance_events, ← List.append_assoc]
          rfl
      | ok copied =>
          obtain ⟨cell', holding', heap, hrun, hafter, hcontents⟩ :=
            Cell.assign_run_other_ok hfocus hother hmem htype hdropped hcopied
          have hpayload : holding'.payload = copied := congrArg Instance.payload hcontents
          refine ⟨_, _, _, _, hrun, ?_, .advance _ _ _ _ _, hafter, fun hsame => ?_⟩
          · rw [Action.run_bind_ok _ hreset,
              Action.run_bind_ok _ (TypedStore.run_copy_ok hcopied), TypedStore.run_put,
              Directory.insert_insert_self, contentsOf_insert, Option.map_some, hpayload,
              Machine.advance_events, ← List.append_assoc]
            rfl
          · apply absurd hsame.symm
            rwa [Option.map_some, hpayload, Payload.type_of_copied hcopied]

/-- Making a variable a copy of another one. -/
theorem assign_changes (hother : other.Holds machine theirs?)
    (hsub : ∀ theirs ∈ theirs?, theirs ∈ others holdings name) :
    Changes holdings name holding? machine cell (Cell.assign other)
      (TypedStore.copyOver name (theirs?.map Holding.payload) (holding?.map Holding.payload)) := by
  cases theirs? with
  | none =>
      have hempty : other.table? = none := by rw [hother.eq_empty]; rfl
      obtain ⟨outcome, machine', cell', holding?', hrun, hrest⟩ := reset_changes hfocus
      exact ⟨outcome, machine', cell', holding?',
        (Cell.assign_run_empty hempty machine cell).trans hrun, hrest⟩
  | some theirs =>
      by_cases htype : holding?.map (·.payload.type) = some theirs.payload.type
      · exact assign_changes_same hheld hfocus hother (hsub theirs rfl) htype
      · exact assign_changes_other hfocus hother (hsub theirs rfl) htype

end Changes

section Moves

variable {session : Session} {holdings : Directory (Option Holding)} {name : String}
  {holding? : Option Holding} {machine : Machine} {cell : Cell} {contents : Instance}
  (hheld : holdings.get? name = some holding?)
  (hfocus : Focus.Owns ⟨machine, cell⟩ holding? (.loose contents :: others holdings name))
include hheld hfocus

/-- Giving a variable a new payload. -/
theorem assignInstance_changes :
    Changes holdings name holding? machine cell (Cell.assignInstance contents)
      (TypedStore.moveOver name contents.payload (holding?.map Holding.payload)) := by
  unfold TypedStore.moveOver
  rw [typeOf_payload]
  by_cases htype : holding?.map (·.payload.type) = some contents.payload.type
  · rw [if_pos htype]
    obtain ⟨holding, rfl, hsame⟩ := Option.map_eq_some_iff.mp htype
    obtain ⟨cell', heap, hrun, hafter⟩ := Cell.assignInstance_run_same hfocus hsame.symm
    refine ⟨_, _, _, _, hrun, ?_, .advance _ _ _ _ _, hafter, fun _ => rfl⟩
    rw [Action.run_bind_ok _ (TypedStore.run_put _ _), TypedStore.run_destroy, contentsOf_insert]
    rfl
  · rw [if_neg htype]
    cases hdropped : Payload.droppedOf (holding?.map Holding.payload) with
    | error halt =>
        obtain ⟨heap, hrun, hafter⟩ := Cell.assignInstance_run_other_error hfocus htype hdropped
        refine ⟨_, _, _, _, hrun, ?_, .advance _ _ _ _ _, hafter, box_eq_of_none⟩
        rw [Action.run_bind_ok _ (TypedStore.run_put _ _),
          Action.run_bind_ok _ (TypedStore.run_emit _)]
        simp only []
        rw [Action.run_bind_ok _ (TypedStore.run_emit _), TypedStore.run_ending, contentsOf_insert,
          Machine.advance_events, ← List.append_assoc]
        rfl
    | ok result =>
        obtain ⟨cell', holding', known, heap, heap', hrun, hlearns, hafter, hcontents⟩ :=
          Cell.assignInstance_run_other_ok hfocus htype hdropped
        have hpayload : holding'.payload = contents.payload := congrArg Instance.payload hcontents
        refine ⟨_, _, _, _, hrun, ?_, ?_, hafter, fun hsame => ?_⟩
        · rw [Action.run_bind_ok _ (TypedStore.run_put _ _),
            Action.run_bind_ok _ (TypedStore.run_emit _)]
          simp only []
          rw [TypedStore.run_put, Directory.insert_insert_self, contentsOf_insert, Option.map_some,
            hpayload, Machine.advance_events, List.append_nil, hlearns.events]
          rfl
        · exact ((Machine.Extends.advance _ _ _ _ _).trans hlearns.toExtends).trans
            (.advance _ _ _ _ _)
        · refine absurd hsame.symm ?_
          rwa [Option.map_some, hpayload]

/-- Writing a payload over that of a variable through a reference. -/
theorem mutate_changes :
    Changes holdings name holding? machine cell (Cell.mutate contents)
      (TypedStore.mutate name contents.payload (holding?.map Holding.payload)) := by
  unfold TypedStore.mutate
  rw [typeOf_payload]
  by_cases htype : holding?.map (·.payload.type) = some contents.payload.type
  · rw [if_pos htype]
    obtain ⟨holding, rfl, hsame⟩ := Option.map_eq_some_iff.mp htype
    obtain ⟨cell', heap, hrun, hafter⟩ := Cell.mutate_run_same hfocus hsame.symm
    refine ⟨_, _, _, _, hrun, ?_, .advance _ _ _ _ _, hafter, fun _ => rfl⟩
    rw [Action.run_bind_ok _ (TypedStore.run_put _ _), contentsOf_insert]
    exact TypedStore.run_destroy_bind _ true
  · rw [if_neg htype]
    obtain ⟨hrun, hafter⟩ := Cell.mutate_run_other hfocus htype
    refine ⟨_, _, _, _, hrun, ?_, .advance _ _ _ _ _, hafter, fun _ => rfl⟩
    rw [contentsOf_insert_self hheld]
    exact TypedStore.run_destroy_bind _ false

end Moves

/-- Adding a text to the end of the text that a variable has. -/
theorem append_changes {holdings : Directory (Option Holding)} {name : String}
    {holding? : Option Holding} {machine : Machine} {cell : Cell}
    (hheld : holdings.get? name = some holding?)
    (hfocus : Focus.Owns ⟨machine, cell⟩ holding? (others holdings name)) (suffix : String) :
    Changes holdings name holding? machine cell (Cell.append suffix)
      (TypedStore.append name suffix (holding?.map Holding.payload)) := by
  by_cases htype : holding?.map (·.payload.type) = some .text
  · obtain ⟨⟨box?, serial, type, text⟩, rfl, hsame⟩ := Option.map_eq_some_iff.mp htype
    obtain rfl : type = .text := hsame
    obtain ⟨cell', heap, hrun, hafter⟩ := Cell.append_run_text hfocus suffix
    refine ⟨_, _, _, _, hrun, ?_, .advance _ _ _ _ _, hafter, fun _ => rfl⟩
    change (TypedStore.append name suffix (some ⟨.text, text⟩)).run _ = _
    unfold TypedStore.append
    rw [Action.run_bind_ok _ (TypedStore.run_put _ _), contentsOf_insert, Machine.advance_events,
      List.append_nil]
    rfl
  · refine ⟨_, _, _, _, Cell.append_run_other hfocus htype suffix, ?_, .refl _, hfocus,
      fun _ => rfl⟩
    have hother : TypedStore.append name suffix (holding?.map Holding.payload) = pure false := by
      unfold TypedStore.append
      split
      · rename_i text hsome
        obtain ⟨holding, rfl, hpayload⟩ := Option.map_eq_some_iff.mp hsome
        exact absurd (congrArg (some ∘ Payload.type) hpayload) htype
      · rfl
    rw [hother, contentsOf_insert_self hheld]
    rfl

end DynamicValue.Session
