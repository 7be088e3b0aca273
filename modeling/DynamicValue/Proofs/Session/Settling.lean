/-
# Parts of steps that settle their accounts

A step is made of parts. A part settles if it leaves what the variables hold, and what the step
itself has in its hands, as it is, whether it succeeds or fails; parts that settle one after the
other settle together. A part may also make something, which is in the hands of the step then, and a
later part that fails releases it.
-/

import DynamicValue.Proofs.Environment.Settling
import DynamicValue.Proofs.Session.Run

namespace DynamicValue

open DynamicValue.Action (Ends)

/-- A session that comes from another one in the middle of a step. Its variables hold what the
directory says, the step itself holds what is pending, the program knows at least what it knew, and
the environments are the same. -/
structure Session.Settled (before after : Session) (holdings : Directory (Option Holding))
    (pending : List Holding) : Prop where
  owns : after.Owns holdings pending
  knows : before.machine.Extends after.machine
  environments : after.environments = before.environments

/-- A session that comes from another one, with variables that may hold something else. -/
def Session.InOrder (before after : Session) (pending : List Holding) : Prop :=
  ∃ holdings, before.Settled after holdings pending

namespace Session

variable {α β : Type} {session after final : Session} {holdings others : Directory (Option Holding)}
  {pending held : List Holding}

namespace Settled

theorem refl (howns : session.Owns holdings pending) : session.Settled session holdings pending :=
  ⟨howns, .refl _, rfl⟩

theorem trans (hafter : session.Settled after holdings pending)
    (hfinal : after.Settled final others held) : session.Settled final others held :=
  ⟨hfinal.owns, hafter.knows.trans hfinal.knows, hfinal.environments.trans hafter.environments⟩

theorem inOrder (hafter : session.Settled after holdings pending)
    (hfinal : after.InOrder final held) : session.InOrder final held := by
  obtain ⟨others, hfinal⟩ := hfinal
  exact ⟨others, hafter.trans hfinal⟩

/-- The order in which a step holds things does not matter. -/
theorem perm (hafter : session.Settled after holdings pending) (hperm : pending.Perm held) :
    session.Settled after holdings held :=
  ⟨⟨hafter.owns.coherent, hafter.owns.agree, hafter.owns.accounts.perm (hperm.append_right _)⟩,
    hafter.knows, hafter.environments⟩

end Settled

/-- What the program does leaves the variables alone. -/
theorem Owns.settled {machine : Machine} (howns : session.Owns holdings pending)
    (hsettled : session.machine.Settled machine (held ++ holdings.values.reduceOption)) :
    session.Settled { session with machine := machine } holdings held :=
  ⟨howns.onMachine hsettled.coherent hsettled.knows hsettled.accounts, hsettled.knows, rfl⟩

/-! ## Parts of steps -/

/-- A part of a step that leaves what is held as it is, whether it succeeds or fails. -/
def Settles (session : Session) (holdings : Directory (Option Holding)) (pending : List Holding)
    (action : SessionAction α) : Prop :=
  Ends session action (fun _ after => session.Settled after holdings pending) fun after =>
    session.Settled after holdings pending

/-- What an action of the program ends with is what the part of the step ends with. -/
theorem onMachine_ends {action : Action Machine α} {succeeds : α → Machine → Prop}
    {fails : Machine → Prop} {final : α → Session → Prop} {failed : Session → Prop}
    (haction : Ends session.machine action succeeds fails)
    (hfinal : ∀ value machine, succeeds value machine →
      final value { session with machine := machine })
    (hfailed : ∀ machine, fails machine → failed { session with machine := machine }) :
    Ends session (onMachine action) final failed := by
  rcases hrun : action.run session.machine with ⟨outcome, machine⟩
  have hpart := run_onMachine hrun
  cases outcome with
  | error halt => exact .of_error hpart (hfailed machine (haction.error halt machine hrun))
  | ok value => exact .of_ok hpart (hfinal value machine (haction.ok value machine hrun))

/-- An action of the program that releases something leaves the variables as they are. -/
theorem Settled.released {action : Action Machine α}
    (hafter : session.Settled after holdings pending)
    (haction : action.Settles after.machine (held ++ holdings.values.reduceOption)) :
    Ends after (onMachine action) (fun _ final => session.Settled final holdings held) fun final =>
      session.Settled final holdings held :=
  onMachine_ends haction.ends
    (fun _ _ hsettled => hafter.trans (hafter.owns.settled hsettled))
    fun _ hsettled => hafter.trans (hafter.owns.settled hsettled)

/-- An action of the program that releases something leaves the session in order. -/
theorem Settled.releasing {action : Action Machine α}
    (hafter : session.Settled after holdings pending)
    (haction : action.Settles after.machine (held ++ holdings.values.reduceOption)) :
    Ends after (onMachine action) (fun _ final => session.InOrder final held) fun final =>
      session.InOrder final held :=
  (hafter.released haction).imp (fun _ _ hfinal => ⟨holdings, hfinal⟩)
    fun _ hfinal => ⟨holdings, hfinal⟩

section Holding

variable {destroy giveUp : Action Machine Unit} {action : SessionAction α}
  {succeeds : α → Session → Prop}

section Releasing

variable
  (hdestroy : ∀ machine rest, session.machine.Extends machine → machine.Coherent →
    machine.Accounts (held ++ rest) → destroy.Settles machine rest)
  (hgiveUp : ∀ machine rest, session.machine.Extends machine → machine.Coherent →
    machine.Accounts (held ++ rest) → giveUp.Settles machine rest)
include hdestroy hgiveUp

/-- A part that fails while the step holds something, which is released then. -/
theorem holding_fails {failure : Failure} (hrun : action.run session = (.error failure, after))
    (hafter : session.Settled after holdings (held ++ pending)) :
    Ends session (holding destroy giveUp action) succeeds fun final =>
      session.Settled final holdings pending := by
  have howns := hafter.owns
  have hknows := hafter.knows
  have haccounts := howns.accounts
  rw [List.append_assoc] at haccounts
  cases failure with
  | complaint complaint =>
      have hend : Ends after (do onMachine destroy; complain complaint : SessionAction α)
          succeeds fun final => session.Settled final holdings pending := by
        exact (hafter.released (hdestroy _ _ hknows howns.coherent haccounts)).bind
          fun _ final hfinal => .throw _ hfinal
      exact hend.congr (run_holding_complaint destroy giveUp hrun)
  | halted halt =>
      have hend := howns.settled (hgiveUp _ _ hknows howns.coherent haccounts)
      exact .of_error (run_holding_halted destroy giveUp hrun) (hafter.trans hend)

/-- A part that is carried out while the step holds something, which is released if the part fails.
-/
theorem holding_ends
    (haction : Ends session action succeeds fun after => session.InOrder after (held ++ pending)) :
    Ends session (holding destroy giveUp action) succeeds fun after =>
      session.InOrder after pending := by
  rcases hrun : action.run session with ⟨outcome, after⟩
  cases outcome with
  | ok value => exact .of_ok (run_holding_ok destroy giveUp hrun) (haction.ok value after hrun)
  | error failure =>
      obtain ⟨holdings, hafter⟩ := haction.error failure after hrun
      exact (holding_fails hdestroy hgiveUp hrun hafter).imp (fun _ _ hfinal => hfinal)
        fun _ hfinal => ⟨holdings, hfinal⟩

end Releasing

theorem destroying_settles {machine : Machine} {contents : Instance} {rest : List Holding}
    (hcoherent : machine.Coherent) (haccounts : machine.Accounts (.loose contents :: rest)) :
    (Machine.destroy contents).Settles machine rest :=
  .of_run (Machine.destroy_run contents machine) (.advance hcoherent (haccounts.discard _))

theorem discarding_settles {machine : Machine} {contents : Instance} {rest : List Holding}
    (hcoherent : machine.Coherent) (haccounts : machine.Accounts (.loose contents :: rest)) :
    Action.Settles machine rest (liftM (Machine.discard contents) : Action Machine Unit) := by
  refine .of_run (Action.run_lift _ machine) ?_
  rw [Machine.discard_apply]
  exact .advance hcoherent (haccounts.discard _)

/-- A part that is carried out while the step holds a payload. -/
theorem holdingInstance_ends {contents : Instance}
    (haction : Ends session action succeeds fun after =>
      session.InOrder after (.loose contents :: pending)) :
    Ends session (holdingInstance contents action) succeeds fun after =>
      session.InOrder after pending := by
  have hheld : [Holding.loose contents] ++ pending = .loose contents :: pending := rfl
  rw [← hheld] at haction
  exact holding_ends (fun _ _ _ hcoherent haccounts => destroying_settles hcoherent haccounts)
    (fun _ _ _ hcoherent haccounts => discarding_settles hcoherent haccounts) haction

/-- A part that settles while the step holds a payload, which the step keeps if the part succeeds.
-/
theorem Settles.holdingInstance {contents : Instance}
    (haction : Settles session holdings (.loose contents :: pending) action) :
    Ends session (holdingInstance contents action)
      (fun _ after => session.Settled after holdings (.loose contents :: pending)) fun after =>
        session.Settled after holdings pending := by
  rcases hrun : action.run session with ⟨outcome, after⟩
  cases outcome with
  | ok value => exact .of_ok (run_holding_ok _ _ hrun) (haction.ok value after hrun)
  | error failure =>
      have hafter : session.Settled after holdings ([.loose contents] ++ pending) :=
        haction.error failure after hrun
      exact holding_fails (fun _ _ _ hcoherent haccounts => destroying_settles hcoherent haccounts)
        (fun _ _ _ hcoherent haccounts => discarding_settles hcoherent haccounts) hrun hafter

end Holding

/-- A part that is carried out while the step holds dynamic values. -/
theorem holdingCells_ends {cells : List Cell} {held : List (Option Holding)}
    {action : SessionAction α} {succeeds : α → Session → Prop}
    (hcells : List.Forall₂ (Cell.Holds session.machine) cells held)
    (haction : Ends session action succeeds fun after =>
      session.InOrder after (held.reduceOption ++ pending)) :
    Ends session (holdingCells cells action) succeeds fun after =>
      session.InOrder after pending :=
  holding_ends
    (fun _ _ hextends hcoherent haccounts =>
      Cell.destroyAll_settles hcoherent (Cell.Holds.monoAll hcells hextends) haccounts)
    (fun _ _ hextends hcoherent haccounts =>
      Cell.discardAll_settles hcoherent (Cell.Holds.monoAll hcells hextends) haccounts)
    haction

section Parts

variable (howns : session.Owns holdings pending)
include howns

namespace Settles

theorem pure (value : α) : Settles session holdings pending (Pure.pure value) :=
  Ends.pure (.refl howns)

theorem throw (failure : Failure) :
    Settles session holdings pending (throw failure : SessionAction α) :=
  Ends.throw failure (.refl howns)

omit howns in
theorem bind {action : SessionAction α} {next : α → SessionAction β}
    (haction : Settles session holdings pending action)
    (hnext : ∀ value after, session.Settled after holdings pending →
      Settles after holdings pending (next value)) :
    Settles session holdings pending (action >>= next) :=
  Ends.bind haction fun value after hafter => (hnext value after hafter).imp
    (fun _ _ hfinal => hafter.trans hfinal) fun _ hfinal => hafter.trans hfinal

omit howns in
/-- The answer that a step gives does not matter to what it leaves. -/
theorem answer {action : SessionAction α} (haction : Settles session holdings pending action)
    (answer : α → β) :
    Settles session holdings pending (action >>= fun value => Pure.pure (answer value)) :=
  haction.bind fun _ _ hafter => .pure hafter.owns _

theorem reading (reading : Reading α) {next : α → SessionAction β}
    (hnext : ∀ value, Settles session holdings pending (next value)) :
    Settles session holdings pending (read reading >>= next) := by
  cases reading with
  | error complaint => exact throw howns _
  | ok value => exact hnext value

theorem orComplain (complaint : Complaint) (found? : Option α) :
    Settles session holdings pending (orComplain complaint found?) := by
  cases found? with
  | none => exact throw howns _
  | some value => exact pure howns value

omit howns in
theorem looking {next : Session → SessionAction β}
    (hnext : Settles session holdings pending (next session)) :
    Settles session holdings pending (get >>= next) :=
  Ends.bind_of_ok (Action.run_get session) hnext

theorem onMachine {action : Action Machine α}
    (hsettles : action.Settles session.machine (pending ++ holdings.values.reduceOption)) :
    Settles session holdings pending (onMachine action) :=
  onMachine_ends hsettles.ends (fun _ _ hsettled => howns.settled hsettled)
    fun _ hsettled => howns.settled hsettled

theorem learning {part : StateM Machine α} (hpart : Machine.OnlyLearns part) :
    Settles session holdings pending (Session.onMachine part) :=
  onMachine howns (hpart.settles howns.coherent howns.accounts)

/-- A variable that is looked up. -/
theorem lookingUp (name : String) {next : Cell → SessionAction β}
    (hnext : ∀ cell holding?, cell.Holds session.machine holding? →
      (∀ holding ∈ holding?, holding ∈ pending ++ holdings.values.reduceOption) →
      Settles session holdings pending (next cell)) :
    Settles session holdings pending (valueOf name >>= next) := by
  cases hget : session.cells.get? name with
  | none =>
      exact .of_error (Action.run_bind_error next (run_valueOf_none hget)) (.refl howns)
  | some cell =>
      obtain ⟨holding?, hheld, hholds⟩ := howns.exists_holding hget
      exact .bind_of_ok (run_valueOf_some hget)
        (hnext cell holding? hholds (Owns.mem_accounts hheld))

theorem identityOf (type? : Reading (Option ValueType)) :
    Settles session holdings pending (identityOf type?) := by
  refine reading howns type? fun type? => learning howns ?_
  cases type? with
  | none => exact .pure _
  | some type => exact .identify type

/-! ### Registries -/

theorem requireRegistry (name : RegistryName) :
    Settles session holdings pending (requireRegistry name) := by
  cases name with
  | global => exact pure howns ()
  | named name => exact looking ((orComplain howns _ _).bind fun _ _ hafter => pure hafter.owns ())

theorem registry (name : RegistryName) : Settles session holdings pending (registry name) := by
  cases name with
  | global => exact onMachine howns (Machine.globalRegistry_settles howns.coherent howns.accounts)
  | named name => exact looking (orComplain howns _ _)

theorem setRegistry (name : RegistryName) (registry : Registry) :
    Settles session holdings pending (setRegistry name registry) := by
  cases name with
  | named name =>
      exact .of_ok (Action.run_modify _ _) ⟨⟨howns.coherent, howns.agree, howns.accounts⟩,
        .refl _, rfl⟩
  | global =>
      have hset : session.machine.Settled { session.machine with global? := some registry }
          (pending ++ holdings.values.reduceOption) :=
        (Machine.Settled.refl howns.coherent howns.accounts).withGlobal _
      exact onMachine howns (.of_run (Action.run_lift _ _) hset)

theorem requireChangeable (name : RegistryName) :
    Settles session holdings pending (requireChangeable name) := by
  refine looking ?_
  split
  · exact throw howns _
  · exact pure howns _

theorem environment (name : String) :
    Settles session holdings pending (environment name) :=
  looking (orComplain howns _ _)

end Settles

end Parts

/-! ## Parts that make something -/

section Making

variable {origin : Session} {action : SessionAction α} {next : α → SessionAction β}
  {succeeds : β → Session → Prop}

/-- A part that settles comes before a part that may make something. -/
theorem Settles.followed (haction : Settles session holdings pending action)
    (horigin : origin.Settled session holdings pending)
    (hnext : ∀ value after, origin.Settled after holdings pending →
      Ends after (next value) succeeds fun final => origin.InOrder final pending) :
    Ends session (action >>= next) succeeds fun final => origin.InOrder final pending :=
  (haction.imp (fun _ _ hafter => horigin.trans hafter)
    fun _ hafter => ⟨holdings, horigin.trans hafter⟩).bind hnext

theorem reading_ends (reading : Reading α) (horigin : origin.Settled session holdings pending)
    (hnext : ∀ value, Ends session (next value) succeeds fun final =>
      origin.InOrder final pending) :
    Ends session (read reading >>= next) succeeds fun final => origin.InOrder final pending := by
  cases reading with
  | error complaint => exact .of_error rfl ⟨holdings, horigin⟩
  | ok value => exact hnext value

/-- A payload that the step makes is in its hands. -/
theorem creating_ends {next : Instance → SessionAction β} {fails : Session → Prop}
    (payload : Payload) (horigin : origin.Settled session holdings pending)
    (hnext : ∀ contents after, origin.Settled after holdings (.loose contents :: pending) →
      Ends after (next contents) succeeds fails) :
    Ends session (onMachine (Machine.create payload) >>= next) succeeds fails := by
  have hmade : session.machine.Settled (session.machine.advance session.machine.heap 1 [] [])
      (.loose ⟨session.machine.created, payload⟩ :: pending ++ holdings.values.reduceOption) :=
    .advance horigin.owns.coherent (horigin.owns.accounts.create payload [])
  exact .bind_of_ok (run_onMachine_lift (Machine.create_apply payload session.machine))
    (hnext _ _ (horigin.trans (horigin.owns.settled hmade)))

end Making

/-! ## Looking at a value -/

section Inspection

variable {machine : Machine} {accounted : List Holding} {cell : Cell} {holding? : Option Holding}

/-- An action that succeeds and leaves the program as it is. -/
def Looks (machine : Machine) (action : Action Machine α) : Prop :=
  Ends machine action (fun _ after => after = machine) fun _ => False

theorem Looks.bind {action : Action Machine α} {next : α → Action Machine β}
    (haction : Looks machine action) (hnext : ∀ value, Looks machine (next value)) :
    Looks machine (action >>= next) :=
  Ends.bind haction fun value _ hafter => hafter ▸ hnext value

/-- Testing items one after the other. -/
theorem Looks.filterAuxM {test : α → Action Machine Bool}
    (htest : ∀ item, Looks machine (test item)) (items passed : List α) :
    Looks machine (items.filterAuxM test passed) := by
  induction items generalizing passed with
  | nil => exact Ends.pure rfl
  | cons item rest ih => exact (htest item).bind fun _ => ih _

/-- Looking at everything of a value that is accounted for leaves the program as it is. -/
theorem inspect_looks (haccounts : machine.Accounts accounted)
    (hholds : cell.Holds machine holding?) (hsub : ∀ holding ∈ holding?, holding ∈ accounted) :
    Looks machine (inspect cell) := by
  have hcontents : Looks machine cell.contents? :=
    .of_ok (Cell.contents?_run haccounts hholds hsub) rfl
  have hfits (type : ValueType) : Looks machine (cell.holds type) :=
    .of_ok (Cell.holds_run haccounts hholds hsub type) rfl
  have htext : Looks machine cell.text := .of_ok (Cell.text_run haccounts hholds hsub) rfl
  have hisText : Looks machine cell.holdsText := by
    refine (hfits .text).bind fun isText => ?_
    cases isText with
    | true => exact Ends.pure rfl
    | false => exact hfits .literal
  have hdebug : Looks machine cell.debugText := by
    unfold Cell.debugText
    split
    · exact htext.bind fun _ => Ends.pure rfl
    · exact Ends.pure rfl
  have hpushes : Looks machine (cell.pushOnto []) :=
    .of_ok (Cell.pushOnto_run haccounts hholds hsub []) rfl
  have htypes : Looks machine (ValueType.all.filterM cell.holds) :=
    (Looks.filterAuxM hfits ValueType.all []).bind fun _ => Ends.pure rfl
  exact hisText.bind fun _ => htypes.bind fun _ => htext.bind fun _ => hdebug.bind fun _ =>
    hpushes.bind fun _ => hcontents.bind fun _ => Ends.pure rfl

theorem Looks.settles {action : Action Machine α} (hlooks : Looks machine action)
    (hcoherent : machine.Coherent) (haccounts : machine.Accounts accounted) :
    action.Settles machine accounted := by
  refine .of_ends (hlooks.imp ?_ fun _ hfalse => hfalse.elim)
  rintro _ _ rfl
  exact .refl hcoherent haccounts

end Inspection

end Session

end DynamicValue
