/-
# What commands do to a session

A command lets the program of its session go on, and some commands give the variables other values
as well. So a relation between sessions that goes with one between programs is kept by a command,
however it ends, if the one between programs is kept by the operations that the command is made of.
The commands that change a registry or an environment are apart, since they do more than that.
-/

import DynamicValue.Proofs.Environment.Relations
import DynamicValue.Proofs.Session.Holdings
import DynamicValue.Proofs.Session.TypedStore

namespace DynamicValue

open DynamicValue.Action (Respects RespectsAt)

/-- A relation between sessions that is kept when the program goes on as a relation between
programs says. -/
structure Session.Allows (relation : Machine → Machine → Prop)
    (sessions : Session → Session → Prop) : Prop extends Composes sessions where
  program : ∀ (session : Session) (machine : Machine), relation session.machine machine →
    sessions session { session with machine := machine }

/-- A relation between sessions that is kept when the variables change, too. -/
structure Session.AllowsChanges (relation : Machine → Machine → Prop)
    (sessions : Session → Session → Prop) : Prop extends Session.Allows relation sessions where
  changes : ∀ (session : Session) (cells : Directory Cell),
    sessions session { session with cells := cells }

/-- The commands that change no registry and no environment of a session, and call no function of an
environment. They may make the global registry. -/
def Command.isUse : Command → Bool
  | newRegistry .. | register .. | unregister .. | newEnvironment .. | load .. | bind ..
  | call .. => false
  | _ => true

namespace Session

variable {α : Type} {types : ValueType → Prop} {relation : Machine → Machine → Prop}
  {sessions : Session → Session → Prop} {session : Session}

/-! ## Looking at a session -/

section Looking

variable (hcomposes : Composes sessions)
include hcomposes

theorem respects_complain (complaint : Complaint) :
    Respects sessions (complain complaint : SessionAction α) := .throw hcomposes _

theorem respects_read (reading : Reading α) : Respects sessions (read reading) := by
  cases reading with
  | error complaint => exact .throw hcomposes _
  | ok value => exact .pure hcomposes value

theorem respects_orComplain (complaint : Complaint) (found? : Option α) :
    Respects sessions (orComplain complaint found?) := by
  cases found? with
  | none => exact .throw hcomposes _
  | some value => exact .pure hcomposes value

theorem respects_valueOf (name : String) : Respects sessions (valueOf name) :=
  .bind hcomposes (.get hcomposes) fun _ => respects_orComplain hcomposes _ _

theorem respects_environment (name : String) : Respects sessions (environment name) :=
  .bind hcomposes (.get hcomposes) fun _ => respects_orComplain hcomposes _ _

/-- An entry that is looked up. -/
theorem lookup_respectsAt {β : Type} {complaint : Complaint} {part? : Session → Option β}
    {next : β → SessionAction α}
    (hnext : ∀ found, part? session = some found → RespectsAt sessions session (next found)) :
    RespectsAt sessions session ((do orComplain complaint (part? (← get))) >>= next) := by
  rw [bind_assoc]
  refine .bind_of_ok hcomposes (Action.run_get session) (hcomposes.refl session) ?_
  cases hfound : part? session with
  | none => exact hcomposes.refl session
  | some found => exact hnext found hfound

/-- A variable that is looked up, with the value that it has then. -/
theorem valueOf_respectsAt {name : String} {next : Cell → SessionAction α}
    (hnext : ∀ cell, session.cells.get? name = some cell →
      RespectsAt sessions session (next cell)) :
    RespectsAt sessions session (valueOf name >>= next) := lookup_respectsAt hcomposes hnext

/-- A part of the command that is read, with what it stands for. -/
theorem read_respectsAt {reading : Reading α} {β : Type} {next : α → SessionAction β}
    (hnext : ∀ value, reading = .ok value → RespectsAt sessions session (next value)) :
    RespectsAt sessions session (read reading >>= next) := by
  cases reading with
  | error complaint => exact hcomposes.refl session
  | ok value => exact hnext value rfl

/-- Nothing has happened yet when a registry has been found to exist. -/
theorem requireRegistry_respectsAt {name : RegistryName} {next : Unit → SessionAction α}
    (hnext : RespectsAt sessions session (next ())) :
    RespectsAt sessions session (requireRegistry name >>= next) := by
  cases name with
  | global => exact hnext
  | named name =>
      unfold requireRegistry
      simp only [bind_assoc, pure_bind]
      rw [← bind_assoc]
      exact lookup_respectsAt hcomposes fun _ _ => hnext

omit hcomposes in
theorem respects_running {action : Action Session α} (haction : Respects sessions action) :
    Respects sessions (running action) := fun session => by
  rcases hrun : action.run session with ⟨outcome, after⟩
  exact .of_run (run_running hrun) (RespectsAt.related (haction session) hrun :)

end Looking

/-! ## Going on with the program -/

section Programs

variable (hsessions : Allows relation sessions)
include hsessions

theorem respects_programAction {action : Action Machine α} (haction : Respects relation action) :
    Respects sessions (programAction action) := haction.within hsessions.program

theorem onMachine_respectsAt {action : Action Machine α}
    (haction : RespectsAt relation session.machine action) :
    RespectsAt sessions session (onMachine action) := by
  rcases hrun : action.run session.machine with ⟨outcome, machine⟩
  exact .of_run (run_onMachine hrun)
    (hsessions.program session machine (RespectsAt.related haction hrun :))

theorem respects_onMachine {action : Action Machine α} (haction : Respects relation action) :
    Respects sessions (onMachine action) :=
  fun session => onMachine_respectsAt hsessions (haction session.machine)

/-- A part that is carried out while the command holds something of its own. -/
theorem holding_respectsAt {destroy giveUp : Action Machine Unit} {action : SessionAction α}
    (hdestroy : Respects relation destroy) (hgiveUp : Respects relation giveUp)
    (haction : RespectsAt sessions session action) :
    RespectsAt sessions session (holding destroy giveUp action) := by
  have hcomposes := hsessions.toComposes
  rcases hrun : action.run session with ⟨outcome, after⟩
  have hafter : sessions session after := (RespectsAt.related haction hrun :)
  rcases outcome with (complaint | halt) | value
  · have hend : RespectsAt sessions after
        (do onMachine destroy; complain complaint : SessionAction α) :=
      Respects.bind hcomposes (respects_onMachine hsessions hdestroy)
        (fun _ => respects_complain hcomposes complaint) after
    exact .of_run (run_holding_complaint _ _ hrun) (hcomposes.trans hafter hend)
  · exact .of_run (run_holding_halted _ _ hrun)
      (hcomposes.trans hafter (respects_programAction hsessions hgiveUp after))
  · exact .of_run (run_holding_ok _ _ hrun) hafter

end Programs

section Held

variable (hallows : Machine.Allows types relation) (hsessions : Allows relation sessions)
include hallows hsessions

theorem holdingInstance_respectsAt (held : Instance) {action : SessionAction α}
    (haction : RespectsAt sessions session action) :
    RespectsAt sessions session (holdingInstance held action) :=
  holding_respectsAt hsessions (Machine.respects_destroy hallows held)
    (Machine.respects_discard hallows held) haction

theorem holdingCells_respectsAt (held : List Cell) {action : SessionAction α}
    (haction : RespectsAt sessions session action) :
    RespectsAt sessions session (holdingCells held action) :=
  holding_respectsAt hsessions (Cell.respects_destroyAll hallows held)
    (Cell.respects_discardAll hallows held) haction

/-- The identity that is asked for is that of a type that the relation allows, or that of the empty
value. -/
theorem respects_identityOf (type? : Reading (Option ValueType))
    (htypes : ∀ type, type? = .ok (some type) → types type) :
    Respects sessions (identityOf type?) := fun session =>
  read_respectsAt hsessions.toComposes fun type? hread => onMachine_respectsAt hsessions <| by
    cases type? with
    | none => exact hallows.refl _
    | some type => exact hallows.identify type _ (htypes type hread)

end Held

/-! ## Changing the variables -/

section Variables

variable (hallows : Machine.Allows (fun _ => True) relation)
  (hsessions : AllowsChanges relation sessions)
include hallows hsessions

omit hallows in
theorem respects_onVariable (name : String) {action : Action Focus α}
    (haction : Respects (Focus.Related relation) action) :
    Respects sessions (onVariable name action) := by
  have hcomposes := hsessions.toComposes
  refine .bind hcomposes (respects_valueOf hcomposes name) fun cell =>
    respects_running (haction.within fun session focus hfocus => ?_)
  exact hsessions.trans (hsessions.program session focus.machine hfocus) (hsessions.changes _ _)

theorem respects_store (name : String) (cell : Cell) : Respects sessions (store name cell) := by
  have hcomposes := hsessions.toComposes
  refine respects_running fun session => ?_
  refine .bind_of_ok hcomposes (Action.run_get session) (hsessions.refl session) ?_
  refine .bind_of_ok hcomposes (Action.run_set session _) (hsessions.changes session _) ?_
  split
  · exact respects_programAction hsessions.toAllows (Cell.respects_destroy hallows _) _
  · exact .pure hcomposes _

omit hallows in
theorem respects_tracked (name : String) {action : Action Focus Unit}
    (haction : Respects (Focus.Related relation) action) :
    Respects sessions (tracked name action) := by
  have hcomposes := hsessions.toComposes
  exact .bind hcomposes (respects_valueOf hcomposes name) fun before =>
    .bind hcomposes (respects_onVariable hsessions name haction) fun _ =>
      .bind hcomposes (respects_valueOf hcomposes name) fun after => .pure hcomposes _

omit hsessions in
theorem respects_newCell (payload? : Option Payload) :
    Respects relation (newCell payload? : Action Machine Cell) := by
  cases payload? with
  | none => exact .pure hallows.toComposes _
  | some payload => exact Cell.respects_ofPayload hallows payload trivial

theorem respects_container_step (command : ContainerCommand) :
    Respects sessions (step command.command) := by
  have hcomposes := hsessions.toComposes
  have hprogram := hsessions.toAllows
  cases command with
  | new name payload? =>
      exact .bind hcomposes (respects_read hcomposes payload?) fun payload? =>
        .bind hcomposes (respects_onMachine hprogram (respects_newCell hallows payload?))
          fun cell => .bind hcomposes (respects_store hallows hsessions name cell) fun _ =>
            .pure hcomposes _
  | clone source target =>
      exact .bind hcomposes (respects_valueOf hcomposes source) fun cell =>
        .bind hcomposes (respects_onMachine hprogram (cell.respects_clone hallows)) fun copied =>
          .bind hcomposes (respects_store hallows hsessions target copied) fun _ =>
            .pure hcomposes _
  | assign source target =>
      refine .bind hcomposes (respects_valueOf hcomposes source) fun other =>
        respects_tracked hsessions target ?_
      split
      · exact .pure (Focus.composes_related hallows) _
      · exact Cell.respects_assign hallows other
  | assignValue name payload =>
      exact .bind hcomposes (respects_valueOf hcomposes name) fun _ =>
        .bind hcomposes (respects_read hcomposes payload) fun payload =>
          .bind hcomposes (respects_onMachine hprogram (Machine.respects_create hallows payload))
            fun contents => respects_tracked hsessions name
              (Cell.respects_assignInstance hallows contents trivial)
  | swap first second =>
      have hswap : Respects sessions (do
          let firstCell ← valueOf first
          let secondCell ← valueOf second
          modify fun session => { session with
            cells := (session.cells.insert first secondCell).insert second firstCell }
          return Answer.nothing) :=
        .bind hcomposes (respects_valueOf hcomposes first) fun _ =>
          .bind hcomposes (respects_valueOf hcomposes second) fun _ =>
            .bind hcomposes (.changing fun session => hsessions.changes session _) fun _ =>
              .pure hcomposes _
      simp only [ContainerCommand.command, step, swap]
      split
      · exact .bind hcomposes (respects_complain hcomposes _) fun _ => hswap
      · exact hswap
  | take source target =>
      exact .bind hcomposes (respects_onVariable hsessions source (Cell.respects_take hallows))
        fun cell => .bind hcomposes (respects_store hallows hsessions target cell) fun _ =>
          .pure hcomposes _
  | reset name =>
      exact .bind hcomposes (respects_onVariable hsessions name (Cell.respects_reset hallows))
        fun _ => .pure hcomposes _
  | drop name =>
      refine .bind hcomposes (.get hcomposes) fun session => ?_
      split
      · exact .pure hcomposes _
      · exact .bind hcomposes (.changing fun session => hsessions.changes session _) fun _ =>
          .bind hcomposes (respects_onMachine hprogram (Cell.respects_destroy hallows _)) fun _ =>
            .pure hcomposes _
  | intoInner name type =>
      refine .bind hcomposes (respects_valueOf hcomposes name) fun cell =>
        .bind hcomposes (respects_read hcomposes type) fun type => .bind hcomposes
          (respects_onMachine hprogram (cell.respects_holds hallows.toComposes type)) fun fits => ?_
      split
      · refine .bind hcomposes (.changing fun session => hsessions.changes session _) fun _ =>
          .bind hcomposes (respects_onMachine hprogram (cell.respects_intoInstance? hallows))
            fun contents? => ?_
        split
        · exact .bind hcomposes (respects_onMachine hprogram (Machine.respects_destroy hallows _))
            fun _ => .pure hcomposes _
        · exact .pure hcomposes _
      · exact .pure hcomposes _
  | mutate name payload =>
      exact .bind hcomposes (respects_valueOf hcomposes name) fun _ =>
        .bind hcomposes (respects_read hcomposes payload) fun payload =>
          .bind hcomposes (respects_onMachine hprogram (Machine.respects_create hallows payload))
            fun contents => .bind hcomposes (respects_onVariable hsessions name
              (Cell.respects_mutate hallows contents)) fun _ => .pure hcomposes _
  | append name suffix =>
      exact .bind hcomposes (respects_onVariable hsessions name
        (Cell.respects_append hallows suffix)) fun _ => .pure hcomposes _
  | holds name type =>
      exact .bind hcomposes (respects_read hcomposes type) fun type =>
        .bind hcomposes (respects_valueOf hcomposes name) fun cell => .bind hcomposes
          (respects_onMachine hprogram (cell.respects_holds hallows.toComposes type)) fun _ =>
            .pure hcomposes _
  | downcast name type =>
      exact .bind hcomposes (respects_read hcomposes type) fun type =>
        .bind hcomposes (respects_valueOf hcomposes name) fun cell => .bind hcomposes
          (respects_onMachine hprogram (cell.respects_valueOf? hallows.toComposes type)) fun _ =>
            .pure hcomposes _

end Variables

/-! ## Access and conversions -/

section Access

variable (hallows : Machine.Allows types relation) (hsessions : Allows relation sessions)

section Getting

include hsessions

theorem get_respectsAt (name : String) (type : Reading ValueType)
    (hget : ∀ cell dest, session.cells.get? name = some cell → type = .ok dest →
      RespectsAt relation session.machine (cell.get dest)) :
    RespectsAt sessions session (step (.get name type)) := by
  have hcomposes := hsessions.toComposes
  exact read_respectsAt hcomposes fun dest hread => valueOf_respectsAt hcomposes fun cell hcell =>
    .bind hcomposes (onMachine_respectsAt hsessions (hget cell dest hcell hread)) fun _ _ _ =>
      .pure hcomposes _

theorem tryGet_respectsAt (name : String) (type : Reading ValueType)
    (hget : ∀ cell dest, session.cells.get? name = some cell → type = .ok dest →
      RespectsAt relation session.machine (cell.tryGet dest)) :
    RespectsAt sessions session (step (.tryGet name type)) := by
  have hcomposes := hsessions.toComposes
  exact read_respectsAt hcomposes fun dest hread => valueOf_respectsAt hcomposes fun cell hcell =>
    .bind hcomposes (onMachine_respectsAt hsessions (hget cell dest hcell hread)) fun _ _ _ =>
      .pure hcomposes _

end Getting

include hallows hsessions

/-- The payload is made before the access, so the program has gone on by then. -/
theorem getToMut_respectsAt (name : String) (payload : Reading Payload)
    (hget : ∀ cell given machine, session.cells.get? name = some cell → payload = .ok given →
      relation session.machine machine → RespectsAt relation machine (cell.get given.type)) :
    RespectsAt sessions session (getToMut name payload) := by
  have hcomposes := hsessions.toComposes
  have hprograms := hallows.toComposes
  refine read_respectsAt hcomposes fun given hread => ?_
  have hmade := Machine.respects_create hallows given session.machine
  refine .bind_of_ok hcomposes (run_onMachine_lift rfl) (hsessions.program _ _ hmade) ?_
  refine .bind hcomposes (holdingInstance_respectsAt hallows hsessions _ ?_) fun result _ _ =>
    Respects.bind hcomposes (respects_onMachine hsessions (Machine.respects_destroy hallows _))
      (fun _ => .pure hcomposes _) _
  refine valueOf_respectsAt hcomposes fun cell hcell => onMachine_respectsAt hsessions ?_
  refine .bind hprograms (hget cell given _ hcell hread hmade) fun result machine _ => ?_
  cases result with
  | error error => exact .pure hprograms _
  | ok access =>
      have hend (_ : Unit) : Respects relation (pure (.ok ⟨given, false, given.text⟩) :
        Action Machine (Except AccessError Accessed)) := .pure hprograms _
      simp only []
      split
      · refine Respects.bind hprograms (cell.respects_instanceOf? hprograms given.type)
          (fun lent? => ?_) machine
        split
        · exact .bind hprograms (Machine.respects_clone hallows _) fun copy =>
            .bind hprograms (Machine.respects_destroy hallows copy) hend
        · exact hend ()
      · exact hend () machine

omit hallows in
/-- Nothing has happened yet when the registry is looked up, or made. -/
theorem coerce_respectsAt (name : RegistryName) (variableName : String) (type : Reading ValueType)
    (hregistry : ∀ dest, type = .ok dest → RespectsAt sessions session (registry name))
    (hcoerce : ∀ cell dest found after, session.cells.get? variableName = some cell →
      type = .ok dest → (registry name).run session = (.ok found, after) →
      Respects relation (found.coerce cell dest)) :
    RespectsAt sessions session (coerce name variableName type) := by
  have hcomposes := hsessions.toComposes
  refine requireRegistry_respectsAt hcomposes (valueOf_respectsAt hcomposes fun cell hcell =>
    read_respectsAt hcomposes fun dest hread =>
      .bind hcomposes (hregistry dest hread) fun found after hfound => ?_)
  exact Respects.bind hcomposes (respects_onMachine hsessions
    (hcoerce cell dest found after hcell hread hfound)) (fun _ => .pure hcomposes _) after

/-- The source of a cast is made, and the types are identified, before the registry is looked up. -/
theorem cast_respectsAt (name : RegistryName) (source : Reading Payload)
    (sourceType destType : Reading (Option ValueType)) (receiver : Reading ReceiverDescription)
    (hsourceType : ∀ type, sourceType = .ok (some type) → types type)
    (hdestType : ∀ type, destType = .ok (some type) → types type)
    (hregistry : ∀ middle, sessions session middle → RespectsAt sessions middle (registry name))
    (hcast : ∀ (input : Instance) sourceIdentity destIdentity description content? middle found
      after machine, source = .ok input.payload → receiver = .ok description →
      sessions session middle → (registry name).run middle = (.ok found, after) →
      RespectsAt (fun state after : Casting => relation state.1 after.1)
        (machine, ⟨description.type, content?⟩) (found.cast input sourceIdentity destIdentity)) :
    RespectsAt sessions session (cast name source sourceType destType receiver) := by
  have hcomposes := hsessions.toComposes
  have hprograms := hallows.toComposes
  refine requireRegistry_respectsAt hcomposes (read_respectsAt hcomposes fun payload hread => ?_)
  have hmade := hsessions.program session _
    (Machine.respects_create hallows payload session.machine)
  refine .bind_of_ok hcomposes (run_onMachine_lift rfl) hmade ?_
  refine .bind hcomposes (holdingInstance_respectsAt hallows hsessions _ ?_) fun ended after _ => ?_
  · have hidentify := respects_identityOf hallows hsessions sourceType hsourceType
    refine .bind hcomposes (hidentify _) fun sourceIdentity middle hmiddle => ?_
    have hknown := hcomposes.trans hmade (RespectsAt.related (hidentify _) hmiddle :)
    have hidentify' := respects_identityOf hallows hsessions destType hdestType
    refine .bind hcomposes (hidentify' _) fun destIdentity known hmiddle' => ?_
    have hknown' := hcomposes.trans hknown (RespectsAt.related (hidentify' _) hmiddle' :)
    refine read_respectsAt hcomposes fun description hdescription => ?_
    refine .bind hcomposes (hregistry known hknown') fun found after hfound =>
      onMachine_respectsAt hsessions ?_
    have hreceived (content? : Option Instance) (machine : Machine) :
        RespectsAt relation machine (Action.withLocal ⟨description.type, content?⟩ Receiver.discard
          (found.cast ⟨session.machine.created, payload⟩ sourceIdentity destIdentity)) :=
      .withLocal hprograms (hcast _ _ _ _ _ known found after machine hread hdescription hknown'
        hfound) (Receiver.respects_discard hallows)
    cases description.content? with
    | none => exact .bind hprograms (.pure hprograms _) fun content? machine _ => hreceived _ _
    | some value =>
        exact .bind hprograms ((Machine.respects_create hallows _).map some _)
          fun content? machine _ => hreceived _ _
  · obtain ⟨result, receiver⟩ := ended
    exact Respects.bind hcomposes (respects_onMachine hsessions (.bind hprograms
      (.unwinding hprograms (Receiver.respects_destroy hallows receiver)
        (Machine.respects_discard hallows _)) fun _ => Machine.respects_destroy hallows _))
      (fun _ => .pure hcomposes _) after

end Access

/-! ## Uses of a program -/

section Uses

variable (hallows : Machine.AllowsUse relation) (hsessions : Allows relation sessions)
include hallows hsessions

theorem respects_registry (name : RegistryName) : Respects sessions (registry name) := by
  have hcomposes := hsessions.toComposes
  cases name with
  | global => exact respects_onMachine hsessions (.lift hallows.globalRegistry)
  | named name =>
      exact .bind hcomposes (.get hcomposes) fun _ => respects_orComplain hcomposes _ _

end Uses

section Inspection

variable (hcomposes : Composes relation)
include hcomposes

/-- Testing items one after the other. -/
theorem respects_filterAuxM {test : α → Action Machine Bool}
    (htest : ∀ item, Respects relation (test item)) (items passed : List α) :
    Respects relation (items.filterAuxM test passed) := by
  induction items generalizing passed with
  | nil => exact .pure hcomposes _
  | cons item rest ih => exact .bind hcomposes (htest item) fun _ => ih _

theorem respects_inspect (cell : Cell) : Respects relation (inspect cell) := by
  have hfits := cell.respects_holds hcomposes
  have hisText : Respects relation cell.holdsText := by
    refine .bind hcomposes (hfits .text) fun isText => ?_
    cases isText with
    | true => exact .pure hcomposes _
    | false => exact hfits .literal
  have htypes : Respects relation (ValueType.all.filterM cell.holds) :=
    .bind hcomposes (respects_filterAuxM hcomposes hfits _ []) fun _ => .pure hcomposes _
  exact .bind hcomposes hisText fun _ => .bind hcomposes htypes fun _ =>
    .bind hcomposes (cell.respects_text hcomposes) fun _ =>
      .bind hcomposes (cell.respects_debugText hcomposes) fun _ =>
        .bind hcomposes (cell.respects_pushOnto hcomposes []) fun _ =>
          .bind hcomposes (cell.respects_contents? hcomposes) fun _ => .pure hcomposes _

end Inspection

section Calls

variable (hallows : Machine.AllowsUse relation) (hsessions : AllowsChanges relation sessions)
include hallows

theorem respects_buildArgument (hsessions : Allows relation sessions)
    (argument : Reading Argument) : Respects sessions (buildArgument argument) := by
  have hcomposes := hsessions.toComposes
  refine .bind hcomposes (respects_read hcomposes argument) fun argument => ?_
  cases argument with
  | value payload? =>
      exact respects_onMachine hsessions (respects_newCell hallows.toAllows payload?)
  | copyOf name =>
      exact .bind hcomposes (respects_valueOf hcomposes name) fun cell =>
        respects_onMachine hsessions (cell.respects_clone hallows.toAllows)

theorem respects_buildArguments (hsessions : Allows relation sessions) (built : List Cell)
    (arguments : List (Reading Argument)) : Respects sessions (buildArguments built arguments) := by
  have hcomposes := hsessions.toComposes
  induction arguments generalizing built with
  | nil => exact .pure hcomposes _
  | cons argument rest ih =>
      exact .bind hcomposes (fun session => holdingCells_respectsAt hallows.toAllows hsessions built
        (respects_buildArgument hallows hsessions argument session)) fun cell => ih _

include hsessions

/-- The environment is looked up when the arguments have been made. -/
theorem call_respectsAt {environmentName name : String}
    (hcall : ∀ environment, session.environments.get? environmentName = some environment →
      ∀ cells, Respects relation (environment.call name cells))
    (arguments : List (Reading Argument)) (target? : Option String) :
    RespectsAt sessions session (call environmentName name arguments target?) := by
  have hcomposes := hsessions.toComposes
  have hprogram := hsessions.toAllows
  refine .bind hcomposes (respects_buildArguments hallows hprogram [] arguments session)
    fun cells middle hbuilt => ?_
  -- making arguments leaves the environments as they are
  have henvironments : middle.environments = session.environments := by
    have hkeeps : Allows (fun _ _ => True) fun state after : Session =>
        after.environments = state.environments := ⟨.same environments, fun _ _ _ => rfl⟩
    exact (RespectsAt.related (respects_buildArguments .total hkeeps [] arguments session) hbuilt :)
  refine .bind hcomposes (holdingCells_respectsAt hallows.toAllows hprogram cells ?_)
    fun result after _ => Respects.bind hcomposes (respects_onMachine hprogram
      (Cell.respects_destroyAll hallows.toAllows cells)) (fun _ => .pure hcomposes _) after
  refine lookup_respectsAt hcomposes fun environment hget => ?_
  have hcalled := hcall environment (henvironments ▸ hget) cells
  refine Respects.bind hcomposes (respects_onMachine hprogram hcalled) (fun called => ?_) middle
  cases called with
  | error error => exact .pure hcomposes _
  | ok given =>
      refine .bind hcomposes (respects_onMachine hprogram
        (given.respects_contents? hallows.toComposes)) fun contents? => ?_
      cases target? with
      | some target =>
          exact .bind hcomposes (respects_store hallows.toAllows hsessions target given) fun _ =>
            .pure hcomposes _
      | none =>
          exact .bind hcomposes (respects_onMachine hprogram
            (given.respects_destroy hallows.toAllows)) fun _ => .pure hcomposes _

/-- Commands that change neither a registry nor an environment of the session, and call no function
of an environment, are followed with no knowledge of the session. -/
theorem respects_use {command : Command} (huse : command.isUse) :
    Respects sessions (step command) := by
  have hcomposes := hsessions.toComposes
  have hprogram := hsessions.toAllows
  have hidentify (type? : Reading (Option ValueType)) : Respects sessions (identityOf type?) :=
    respects_identityOf hallows.toAllows hprogram type? fun _ _ => trivial
  have hcontainer := respects_container_step hallows.toAllows hsessions
  cases command with
  | new name payload? => exact hcontainer (.new name payload?)
  | clone source target => exact hcontainer (.clone source target)
  | assign source target => exact hcontainer (.assign source target)
  | assignValue name payload => exact hcontainer (.assignValue name payload)
  | swap first second => exact hcontainer (.swap first second)
  | take source target => exact hcontainer (.take source target)
  | reset name => exact hcontainer (.reset name)
  | drop name => exact hcontainer (.drop name)
  | intoInner name type => exact hcontainer (.intoInner name type)
  | mutate name payload => exact hcontainer (.mutate name payload)
  | append name suffix => exact hcontainer (.append name suffix)
  | holds name type => exact hcontainer (.holds name type)
  | downcast name type => exact hcontainer (.downcast name type)
  | inspect name =>
      exact .bind hcomposes (respects_valueOf hcomposes name) fun cell =>
        .bind hcomposes (respects_onMachine hprogram (respects_inspect hallows.toComposes cell))
          fun _ => .pure hcomposes _
  | push name =>
      exact .bind hcomposes (respects_valueOf hcomposes name) fun cell => .bind hcomposes
        (respects_onMachine hprogram (cell.respects_pushOnto hallows.toComposes [])) fun _ =>
          .pure hcomposes _
  | get name type =>
      exact fun session => get_respectsAt hprogram name type fun cell dest _ _ =>
        cell.respects_get hallows dest _
  | tryGet name type =>
      exact fun session => tryGet_respectsAt hprogram name type fun cell dest _ _ =>
        cell.respects_tryGet hallows dest _
  | getToMut name payload =>
      exact fun session => getToMut_respectsAt hallows.toAllows hprogram name payload
        fun cell given machine _ _ _ => cell.respects_get hallows given.type machine
  | identity type? => exact .bind hcomposes (hidentify type?) fun _ => .pure hcomposes _
  | sameIdentity first second =>
      exact .bind hcomposes (hidentify first) fun _ =>
        .bind hcomposes (hidentify second) fun _ => .pure hcomposes _
  | counts =>
      refine .bind hcomposes (.get hcomposes) fun session => ?_
      split
      · exact .bind hcomposes (respects_complain hcomposes _) fun _ => .pure hcomposes _
      · exact .pure hcomposes _
  | table type =>
      refine .bind hcomposes (respects_read hcomposes type) fun type => ?_
      have htable : Respects sessions (onMachine (Machine.tableFor type)) :=
        respects_onMachine hprogram (.lift fun machine => hallows.tableFor type machine trivial)
      exact .bind hcomposes htable fun _ => .bind hcomposes htable fun _ => .pure hcomposes _
  | contains name source dest =>
      exact fun session => requireRegistry_respectsAt hcomposes <|
        Respects.bind hcomposes (hidentify source) (fun _ => .bind hcomposes (hidentify dest)
          fun _ => .bind hcomposes (respects_registry hallows hprogram name) fun _ =>
            .pure hcomposes _) session
  | registrySize name =>
      exact .bind hcomposes (respects_registry hallows hprogram name) fun _ => .pure hcomposes _
  | coerce name variableName type =>
      exact fun session => coerce_respectsAt hprogram name variableName type
        (fun _ _ => respects_registry hallows hprogram name session)
        fun cell dest found _ _ _ _ => found.respects_coerce hallows cell dest
  | cast name source sourceType destType receiver =>
      exact fun session => cast_respectsAt hallows.toAllows hprogram name source sourceType destType
        receiver (fun _ _ => trivial) (fun _ _ => trivial)
        (fun middle _ => respects_registry hallows hprogram name middle)
        fun input sourceIdentity destIdentity _ _ _ found _ _ _ _ _ _ =>
          found.respects_cast hallows input sourceIdentity destIdentity _
  | isBound environmentName name =>
      exact .bind hcomposes (respects_environment hcomposes environmentName) fun _ =>
        .pure hcomposes _
  | environment name =>
      exact .bind hcomposes (respects_environment hcomposes name) fun _ => .pure hcomposes _
  | _ => cases huse

end Calls

end Session

end DynamicValue
