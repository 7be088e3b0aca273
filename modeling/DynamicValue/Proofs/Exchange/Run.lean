/-
# How a value is stored cannot be observed

A probe in the slot of a dynamic value and one in a box on the heap go different ways through every
operation, but nobody can tell. Take any session of steps on variables and on registries and
exchange the two types of probes in it: the new session gives the same results, reports the same
events in the same order, panics in the same places, reuses the same places and has the same
variables, if only the types are exchanged there as well.

The proof follows both sessions at once, one step after the other. What their variables hold always
corresponds, while their heaps have nothing to do with each other.
-/

import DynamicValue.Proofs.Exchange.Step
import DynamicValue.Proofs.Session.Container

namespace DynamicValue

open DynamicValue.Action (EndTogether)

/-- Two sessions between two steps, the second one with the types exchanged. -/
structure Session.Exchanged (first second : Session) : Prop where
  rest : first.AtRest
  otherRest : second.AtRest
  mirrors : ∃ holdings holdings', first.Mirrors second holdings holdings' [] []

namespace Session

variable {session first second : Session} {holdings holdings' : Directory (Option Holding)}
  {command : Command}

/-! ## Steps -/

theorem AtRest.step (hrest : session.AtRest) (hstep : command.isVariableOrRegistryStep) :
    ((Session.step command).run session).2.AtRest ∧
      session.machine.Extends ((Session.step command).run session).2.machine := by
  have hbinds : command.BindsSessionFunctions := by
    cases command <;> trivial
  exact @AtRest.attempt session hrest (.ok command) fun _ hgiven => Except.ok.inj hgiven ▸ hbinds

/-- A step on the values of variables does what the typed store does, in which the exchange changes
nothing. It does not come near the registries. -/
theorem container_step_mirror (hrest : first.AtRest) (hotherRest : second.AtRest)
    (hmirrors : first.Mirrors second holdings holdings' [] []) (command : ContainerCommand) :
    EndTogether first second (step command.command) (step command.exchanged.command)
      (fun answer answer' after after' => AnswersExchanged answer answer' ∧
        ∃ holdings holdings', after.Mirrors after' holdings holdings' [] [])
      fun after after' => ∃ holdings holdings', after.Mirrors after' holdings holdings' [] [] := by
  obtain ⟨houtcome, held, howns, hstore⟩ := step_refines hmirrors.owns command
  obtain ⟨houtcome', held', howns', hstore'⟩ := step_refines hmirrors.otherOwns command.exchanged
  have hideal :=
    TypedStore.Equivariant.step command ⟨contentsOf holdings, first.machine.events⟩
  rw [TypedStore.exchanged, ← hmirrors.contents, ← hmirrors.machines.events] at hideal
  rw [hideal, ← houtcome] at houtcome'
  rw [hideal, hstore] at hstore'
  have hkept := keeps_step command first
  have hkept' := keeps_step command.exchanged second
  have hextends := (hrest.step (by cases command <;> rfl) :
    ((step command.command).run first).2.AtRest ∧ _).2
  have hextends' := (hotherRest.step (by cases command <;> rfl) :
    ((step command.exchanged.command).run second).2.AtRest ∧ _).2
  rcases hrun : (step command.command).run first with ⟨outcome, after⟩
  rcases hrun' : (step command.exchanged.command).run second with ⟨outcome', after'⟩
  rw [hrun] at houtcome' howns hstore' hkept hextends
  rw [hrun'] at houtcome' howns' hstore' hkept' hextends'
  have hregistries {registry registry' : Registry}
      (hbefore : registry.Exchanged first.machine second.machine registry') :
      registry.Exchanged after.machine after'.machine registry' :=
    hbefore.mono hextends howns.coherent hextends' howns'.coherent
  have hafter : after.Mirrors after' held held' [] [] := {
    owns := howns
    otherOwns := howns'
    contents := (congrArg TypedStore.contents hstore').symm
    machines := {
      events := (congrArg TypedStore.events hstore').symm
      global := by
        rw [show after.machine.global? = first.machine.global? from
            congrArg Surroundings.global? hkept,
          show after'.machine.global? = second.machine.global? from
            congrArg Surroundings.global? hkept']
        exact Alike.rel_mono (fun _ _ => hregistries) hmirrors.machines.global }
    registries := fun name => by
      rw [show after.registries = first.registries from congrArg Surroundings.registries hkept,
        show after'.registries = second.registries from congrArg Surroundings.registries hkept']
      exact Alike.rel_mono (fun _ _ => hregistries) (hmirrors.registries name)
    isFresh := (congrArg Surroundings.isFresh hkept').trans
      (hmirrors.isFresh.trans (congrArg Surroundings.isFresh hkept).symm) }
  cases outcome with
  | error failure =>
      obtain rfl : outcome' = .error failure := houtcome'
      exact .error hrun hrun' ⟨held, held', hafter⟩
  | ok answer =>
      obtain rfl : outcome' = .ok answer.exchanged := houtcome'
      exact .ok hrun hrun' ⟨.of_eq rfl, held, held', hafter⟩

/-- Every step on variables or on registries ends together with the one whose types are exchanged.
-/
theorem step_mirror (hsessions : first.Exchanged second)
    (hstep : command.isVariableOrRegistryStep) :
    EndTogether first second (step command) (step command.exchanged)
      (fun answer answer' after after' => AnswersExchanged answer answer' ∧
        ∃ holdings holdings', after.Mirrors after' holdings holdings' [] [])
      fun after after' => ∃ holdings holdings', after.Mirrors after' holdings holdings' [] [] := by
  obtain ⟨hrest, hotherRest, holdings, holdings', hmirrors⟩ := hsessions
  have hcontainer (container : ContainerCommand) :=
    container_step_mirror hrest hotherRest hmirrors container
  simp only [ContainerCommand.command_exchanged] at hcontainer
  have hkeeping {action action' : SessionAction Answer}
      (hparts : Mirror first second holdings holdings' [] [] action action' fun _ _ =>
        AnswersExchanged) :
      EndTogether first second action action'
        (fun answer answer' after after' => AnswersExchanged answer answer' ∧
          ∃ holdings holdings', after.Mirrors after' holdings holdings' [] [])
        fun after after' => ∃ holdings holdings', after.Mirrors after' holdings holdings' [] [] :=
    hparts.imp (fun _ _ _ _ hends => ⟨hends.1, _, _, hends.2.mirrors⟩)
      fun _ _ hafter => ⟨_, _, hafter.mirrors⟩
  cases command with
  | new name payload? => exact hcontainer (.new name payload?)
  | clone source target => exact hcontainer (.clone source target)
  | assign source target => exact hcontainer (.assign source target)
  | assignValue name payload => exact hcontainer (.assignValue name payload)
  | swap first second => exact hcontainer (.swap first second)
  | take source target => exact hcontainer (.take source target)
  | reset name => exact hcontainer (.reset name)
  | drop name => exact hcontainer (.drop name)
  | intoInner name type => exact hcontainer (.intoInner name type)
  | mutate name payload => exact hcontainer (.mutate name payload)
  | append name suffix => exact hcontainer (.append name suffix)
  | holds name type => exact hcontainer (.holds name type)
  | downcast name type => exact hcontainer (.downcast name type)
  | inspect name =>
      refine hkeeping (.lookingUp hmirrors name fun cell cell' holding? holding'? hcells => ?_)
      exact (Mirror.onMachine hmirrors (Cell.inspect_mirror hmirrors.programs hcells)).answer
        fun _ _ _ _ hseen => hseen
  | push name =>
      refine hkeeping (.lookingUp hmirrors name fun cell cell' holding? holding'? hcells => ?_)
      exact (Mirror.onMachine hmirrors (Cell.pushOnto_mirror hmirrors.programs hcells)).answer
        fun _ _ _ _ hpushes => .of_eq (congrArg Answer.pushes hpushes.symm)
  | get name type =>
      refine hkeeping (.reading hmirrors type fun type => ?_)
      refine .lookingUp hmirrors name fun cell cell' holding? holding'? hcells => ?_
      refine (Mirror.onMachine hmirrors (Cell.get_mirror hmirrors.programs hcells type)).answer
        fun _ _ _ _ hresults => .access ?_
      cases hresults with
      | error herrors => exact .error herrors
      | ok hvalues => exact .ok (hvalues ▸ AnswersExchanged.accessed_exchanged _)
  | tryGet name type =>
      refine hkeeping (.reading hmirrors type fun type => ?_)
      refine .lookingUp hmirrors name fun cell cell' holding? holding'? hcells => ?_
      refine (Mirror.onMachine hmirrors (Cell.tryGet_mirror hmirrors.programs hcells type)).answer
        fun access? _ _ _ hvalues => .of_eq ?_
      subst hvalues
      cases access? with
      | none => rfl
      | some access =>
          exact congrArg (fun accessed => Answer.tryAccess (some accessed))
            (AnswersExchanged.accessed_exchanged access)
  | getToMut name payload => exact hkeeping (getToMut_mirror hmirrors name payload)
  | newRegistry name contents => exact hkeeping (newRegistry_mirror hmirrors name contents)
  | register name registration => exact hkeeping (register_mirror hmirrors name registration)
  | unregister name types => exact hkeeping (unregister_mirror hmirrors name types)
  | contains name source dest => exact hkeeping (contains_mirror hmirrors name source dest)
  | registrySize name =>
      refine hkeeping ((Mirror.registry hmirrors name).answer fun _ _ _ _ hregistries => ?_)
      exact .of_eq (congrArg₂ Answer.registrySize hregistries.size_eq hregistries.isEmpty_eq)
  | coerce name variableName type => exact hkeeping (coerce_mirror hmirrors name variableName type)
  | cast name source sourceType destType receiver =>
      exact hkeeping (cast_mirror hmirrors name source sourceType destType receiver)
  | _ => cases hstep

/-! ## Reports -/

theorem Mirrors.cleared (hmirrors : first.Mirrors second holdings holdings' [] []) :
    first.cleared.Mirrors second.cleared holdings holdings' [] [] := by
  have hextends : first.machine.Extends first.cleared.machine :=
    ⟨List.prefix_rfl, List.prefix_rfl⟩
  have hextends' : second.machine.Extends second.cleared.machine :=
    ⟨List.prefix_rfl, List.prefix_rfl⟩
  have howns := hmirrors.owns.cleared
  have howns' := hmirrors.otherOwns.cleared
  have hglobal : Option.Rel (Registry.Exchanged first.cleared.machine second.cleared.machine)
      first.machine.global? second.machine.global? :=
    Alike.rel_mono (fun _ _ hregistries =>
      hregistries.mono hextends howns.coherent hextends' howns'.coherent) hmirrors.machines.global
  have hafter : first.machine.Onward second.machine ([] ++ holdings.values.reduceOption)
      ([] ++ holdings'.values.reduceOption) first.cleared.machine second.cleared.machine :=
    ⟨⟨⟨rfl, hglobal⟩, howns.coherent, howns'.coherent, howns.accounts, howns'.accounts⟩, hextends,
      hextends'⟩
  exact (hmirrors.withMachine hafter).mirrors

theorem Exchanged.cleared (hsessions : first.Exchanged second) :
    first.cleared.Exchanged second.cleared := by
  obtain ⟨hrest, hotherRest, _, _, hmirrors⟩ := hsessions
  exact ⟨hrest.cleared, hotherRest.cleared, _, _, hmirrors.cleared⟩

/-- The variables are shown alike, but for the names of their types. -/
theorem Exchanged.views_eq (hsessions : first.Exchanged second) :
    second.views = first.views.map VariableView.exchanged := by
  obtain ⟨-, -, holdings, _, hmirrors⟩ := hsessions
  rw [hmirrors.owns.views_eq [], hmirrors.otherOwns.views_eq [], hmirrors.contents]
  exact TypedStore.views_exchanged ⟨contentsOf holdings, []⟩

/-- An unreadable step fails on both sides in the same way. -/
theorem attempt_mirror (hsessions : first.Exchanged second)
    {command : Except Complaint Command}
    (hsteps : ∀ given, command = .ok given → given.isVariableOrRegistryStep) :
    EndTogether first second (attempt command) (attempt (command.map Command.exchanged))
      (fun answer answer' after after' => AnswersExchanged answer answer' ∧
        after.Exchanged after')
      fun after after' => after.Exchanged after' := by
  cases command with
  | error complaint => exact .error rfl rfl hsessions
  | ok command =>
      have hstep := hsteps command rfl
      have hrest := (hsessions.rest.step hstep).1
      have hotherRest := (hsessions.otherRest.step
        (command.isVariableOrRegistryStep_exchanged.trans hstep)).1
      cases step_mirror hsessions hstep with
      | error haction hother hmirrors =>
          rw [haction] at hrest
          rw [hother] at hotherRest
          exact .error haction hother ⟨hrest, hotherRest, hmirrors⟩
      | ok haction hother hends =>
          rw [haction] at hrest
          rw [hother] at hotherRest
          exact .ok haction hother ⟨hends.1, hrest, hotherRest, hends.2⟩

/-- A step with its types exchanged is reported in the same way, and the sessions stay each other's
counterparts. -/
theorem report_mirror (hsessions : first.Exchanged second) {command : Except Complaint Command}
    (hsteps : ∀ given, command = .ok given → given.isVariableOrRegistryStep) :
    (report (command.map Command.exchanged) second).1.withoutStorage =
        (report command first).1.exchanged.withoutStorage ∧
      (report command first).2.Exchanged (report (command.map Command.exchanged) second).2 := by
  have hreported {outcome outcome' : Except Failure Answer} {after after' : Session}
      (hrun : (attempt command).run first = (outcome, after))
      (hrun' : (attempt (command.map Command.exchanged)).run second = (outcome', after'))
      (houtcomes : outcome'.map Answer.withoutStorage =
        (outcome.map Answer.exchanged).map Answer.withoutStorage)
      (hafter : after.Exchanged after') :
      (report (command.map Command.exchanged) second).1.withoutStorage =
          (report command first).1.exchanged.withoutStorage ∧
        (report command first).2.Exchanged
          (report (command.map Command.exchanged) second).2 := by
    obtain ⟨_, _, hmirrors⟩ := hafter.mirrors
    rw [report_apply hrun, report_apply hrun']
    refine ⟨?_, hafter.cleared⟩
    simp only [StepReport.withoutStorage, StepReport.exchanged, houtcomes,
      hafter.cleared.views_eq, hmirrors.machines.events]
  cases attempt_mirror hsessions hsteps with
  | error hrun hrun' hafter => exact hreported hrun hrun' rfl hafter
  | ok hrun hrun' hends => exact hreported hrun hrun' (congrArg Except.ok hends.1) hends.2

theorem reports_mirror (hsessions : first.Exchanged second)
    {commands : List (Except Complaint Command)}
    (hsteps : ∀ command, .ok command ∈ commands → command.isVariableOrRegistryStep) :
    ((commands.map (Except.map Command.exchanged)).mapM report second).1.map
          StepReport.withoutStorage =
        (commands.mapM report first).1.map (fun shown => shown.exchanged.withoutStorage) ∧
      (commands.mapM report first).2.Exchanged
        ((commands.map (Except.map Command.exchanged)).mapM report second).2 := by
  induction commands generalizing first second with
  | nil => exact ⟨rfl, hsessions⟩
  | cons command rest ih =>
      obtain ⟨hreports, hafter⟩ := report_mirror hsessions fun given hgiven =>
        hsteps given (hgiven ▸ List.mem_cons_self)
      obtain ⟨hrest, hend⟩ := ih hafter fun given hmem => hsteps given (List.mem_cons_of_mem _ hmem)
      rw [List.map_cons, List.mapM_cons, List.mapM_cons]
      exact ⟨congrArg₂ List.cons hreports hrest, hend⟩

/-! ## The ends of sessions -/

/-- Values that are counterparts are discarded one after the other with corresponding events. -/
theorem discardAll_mirror {machine other : Machine} {cells cells' : List Cell}
    {held held' : List (Option Holding)}
    (hmirrors : machine.Mirrors other held.reduceOption held'.reduceOption)
    (hcells : List.Forall₂ (Cell.Holds machine) cells held)
    (hcells' : List.Forall₂ (Cell.Holds other) cells' held')
    (hpayloads : List.Forall₂ (fun holding? holding'? => holding'?.map Holding.payload =
      (holding?.map Holding.payload).map Payload.exchanged) held held') :
    Action.Mirror machine other [] [] (Cell.discardAll cells) (Cell.discardAll cells')
      fun _ _ => True := by
  induction hpayloads generalizing machine other cells cells' with
  | nil =>
      cases hcells
      cases hcells'
      exact .pure hmirrors trivial
  | cons hpayload _ ih =>
      cases hcells with
      | cons hholds hrest =>
          cases hcells' with
          | cons hholds' hrest' =>
              rw [reduceOption_cons, reduceOption_cons] at hmirrors
              obtain ⟨_, _, hdiscard, hdiscard', hafter⟩ :=
                Cell.discard_mirror hmirrors hholds hholds' hpayload
              exact .bind_of_ok hdiscard hdiscard' hafter (ih hafter.mirrors
                (Cell.Holds.monoAll hrest hafter.first) (Cell.Holds.monoAll hrest' hafter.second))

/-- The values of the variables, in the order of their names, hold what the directory says. -/
theorem Owns.values_hold (howns : session.Owns holdings []) :
    List.Forall₂ (Cell.Holds session.machine) session.cells.values holdings.values := by
  unfold Directory.values
  rw [List.forall₂_map_left_iff, List.forall₂_map_right_iff]
  exact (Directory.forall₂_entries howns.agree).imp fun _ _ hentries => hentries.2

/-- The ends of sessions are reported alike. -/
theorem finish_mirror (hsessions : first.Exchanged second) :
    (finish second).1 = (finish first).1.map Event.exchanged := by
  obtain ⟨-, -, holdings, holdings', hmirrors⟩ := hsessions
  have hpayloads : List.Forall₂ (fun holding? holding'? => holding'?.map Holding.payload =
      (holding?.map Holding.payload).map Payload.exchanged) holdings.values holdings'.values := by
    have hvalues := congrArg Directory.values hmirrors.contents
    unfold contentsOf at hvalues
    simp only [Directory.values_map] at hvalues
    rw [← List.forall₂_eq_eq_eq, List.forall₂_map_left_iff, List.forall₂_map_right_iff,
      List.forall₂_map_right_iff] at hvalues
    exact hvalues.flip
  have hends := discardAll_mirror hmirrors.programs hmirrors.owns.values_hold
    hmirrors.otherOwns.values_hold hpayloads
  have hfinish (session : Session) : (finish session).1 =
      ((Cell.discardAll session.cells.values).run session.machine).2.events := rfl
  rw [hfinish, hfinish]
  cases hends with
  | error haction hother hafter =>
      rw [haction, hother]
      exact hafter.mirrors.events
  | ok haction hother hends =>
      rw [haction, hother]
      exact hends.2.mirrors.events

/-! ## Whole sessions -/

theorem Exchanged.start (isFresh : Bool) : (start isFresh).Exchanged (start isFresh) where
  rest := .start isFresh
  otherRest := .start isFresh
  mirrors := ⟨.empty, .empty, {
    owns := .start isFresh
    otherOwns := .start isFresh
    contents := rfl
    machines := ⟨rfl, .none⟩
    registries := fun _ => .none
    isFresh := rfl }⟩

/-- The way in which a value is stored cannot be observed. Exchange the type of the probes that are
stored in the slot and that of the probes in boxes in any session of steps on variables and on
registries, with labels and bombs as they are: each step has the same result, panics in the same
place, reuses a place or not as before, reports the same events in the same order and shows the same
variables, and the events at the end are the same, all of them with the types exchanged. Left out
are what a session tells about the place of a payload, the numbers of identities, diagnostic forms
and the log. -/
theorem storage_cannot_be_observed (isFresh : Bool) (commands : List (Except Complaint Command))
    (hsteps : ∀ command, .ok command ∈ commands → command.isVariableOrRegistryStep) :
    let plain := run isFresh commands
    let exchanged := run isFresh (commands.map (Except.map Command.exchanged))
    exchanged.steps.map StepReport.withoutStorage =
        plain.steps.map (fun shown => shown.exchanged.withoutStorage) ∧
      exchanged.endEvents = plain.endEvents.map Event.exchanged := by
  obtain ⟨hreports, hend⟩ := reports_mirror (.start isFresh) hsteps
  exact ⟨hreports, finish_mirror hend⟩

/-- A session in which a probe panics at its end and another one is converted. -/
def fragileProbes : List (Except Complaint Command) :=
  [.ok (.new "small" (.ok (some ⟨.probe, ⟨"small", 0, .onDrop⟩⟩))),
    .ok (.new "large" (.ok (some ⟨.bigProbe, ⟨"large", 0, .onClone⟩⟩))),
    .ok (.assign "large" "small"),
    .ok (.new "small" (.ok (some ⟨.probe, ⟨"other", 0, .onDrop⟩⟩))),
    .ok (.newRegistry "conversions" .nothing),
    .ok (.register (.named "conversions") (.ok ⟨.probe, .text, .constant "converted"⟩)),
    .ok (.coerce (.named "conversions") "small" (.ok .text)),
    .ok (.get "large" (.ok .probe))]

theorem storage_of_fragile_probes_cannot_be_observed :
    (∀ command, .ok command ∈ fragileProbes → command.isVariableOrRegistryStep) ∧
      (run true (fragileProbes.map (Except.map Command.exchanged))).steps.map
          StepReport.withoutStorage =
        (run true fragileProbes).steps.map (fun shown => shown.exchanged.withoutStorage) ∧
      (run true (fragileProbes.map (Except.map Command.exchanged))).endEvents =
        (run true fragileProbes).endEvents.map Event.exchanged := by
  have hsteps : ∀ command, .ok command ∈ fragileProbes → command.isVariableOrRegistryStep := by
    simp [fragileProbes, Command.isVariableOrRegistryStep]
  exact ⟨hsteps, storage_cannot_be_observed true fragileProbes hsteps⟩

end Session

end DynamicValue
