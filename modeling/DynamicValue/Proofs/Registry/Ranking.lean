/-
# Ranked conversions come to an end

Conversions that ask each other for further conversions need not come to an end. They do if the
pairs of types can be ranked so that a conversion asks for pairs of lower rank only: with each
request that leads to a conversion the number of live pairs below goes down, so the nesting is never
deeper than there are conversions in the registry, and the limit to it is never reached. What comes
of a value is then what the rules for nested conversions say, whatever the limit is.
-/

import DynamicValue.Proofs.Registry.Nesting

namespace DynamicValue

/-! ## Panics -/

/-- An outcome that is a panic if it is a halt. -/
def OnlyPanics {α : Type} (outcome : Except Halt α) : Prop :=
  ∀ halt, outcome = .error halt → ∃ message, halt = .panic message

section Panics

variable {α β : Type}

theorem onlyPanics_ok (value : α) : OnlyPanics (.ok value) := fun _ herror => by cases herror

theorem OnlyPanics.map {outcome : Except Halt α} (houtcome : OnlyPanics outcome) (change : α → β) :
    OnlyPanics (outcome.map change) := by
  cases outcome with
  | ok value => exact onlyPanics_ok _
  | error halt =>
      rintro _ ⟨⟩
      exact houtcome halt rfl

/-- A panic goes on whatever the result would have been. -/
theorem OnlyPanics.error {halt : Halt} (hpanics : OnlyPanics (.error halt : Except Halt α)) :
    OnlyPanics (.error halt : Except Halt β) := by
  rintro _ ⟨⟩
  exact hpanics halt rfl

theorem OnlyPanics.ne_exhausted {outcome : Except Halt α} (hpanics : OnlyPanics outcome) :
    outcome ≠ .error .exhausted := by
  intro hexhausted
  obtain ⟨message, hpanic⟩ := hpanics .exhausted hexhausted
  cases hpanic

/-- A payload that halts when it is copied panics. -/
theorem Payload.copied_onlyPanics (payload : Payload) : OnlyPanics payload.copied := by
  unfold copied
  split
  · split
    · rintro _ ⟨⟩
      exact ⟨_, rfl⟩
    · exact onlyPanics_ok _
  · exact onlyPanics_ok _

/-- A payload that halts when it is destroyed panics. -/
theorem Payload.dropped_onlyPanics (payload : Payload) : OnlyPanics payload.dropped := by
  unfold dropped
  split
  · split
    · rintro _ ⟨⟩
      exact ⟨_, rfl⟩
    · exact onlyPanics_ok _
  · exact onlyPanics_ok _

/-- The end of the scope of a value adds no halt but the panic of its payload. -/
theorem Cell.closing_onlyPanics {cell : Cell} {holding : Holding} {holdings : List Holding}
    {ending : Except Halt α × Machine} (haccounts : ending.2.Accounts (holding :: holdings))
    (hholds : cell.Holds ending.2 (some holding)) (hpanics : OnlyPanics ending.1) :
    OnlyPanics (cell.closing ending).1 := by
  obtain ⟨outcome, machine⟩ := ending
  cases outcome with
  | error halt => exact hpanics
  | ok result =>
      obtain ⟨heap, hdestroy, -⟩ := Cell.destroy_run haccounts hholds
      simp only [closing]
      rw [hdestroy]
      exact holding.payload.dropped_onlyPanics.map _

end Panics

/-! ## The values that are made for requests -/

theorem Cell.ofCopy_makes {machine : Machine} {holdings : List Holding}
    (hcoherent : machine.Coherent) (haccounts : machine.Accounts holdings) {input : Instance}
    {copy : Payload} (hcopied : input.payload.copied = .ok copy) :
    ∃ cell made holding, (ofCopy input).run machine = (.ok cell, made) ∧
      machine.Makes holdings input.payload.copy cell made holding := by
  obtain rfl := Payload.eq_copy_of_copied hcopied
  obtain ⟨cell, holding, known, heap, hmade, hlearns, hknown, hholds, hcontents, hafter⟩ :=
    ofInstance_apply (hcoherent.advance machine.heap 1 [] input.payload.copyEvents)
      (haccounts.create input.payload.copy input.payload.copyEvents)
  refine ⟨cell, _, holding, ?_, hknown.advance _ _ _ _, ?_, hholds,
    congrArg Instance.payload hcontents, hafter⟩
  · unfold ofCopy
    rw [Action.run_bind_ok _ (Machine.clone_run_ok hcopied machine), Action.run_lift, hmade]
  · exact ((Machine.Extends.advance _ _ _ _ _).trans hlearns.toExtends).trans (.advance _ _ _ _ _)

/-! ## Requests that are met by the rules -/

variable {history : List RegistryOperation} {registry : Registry}
  {pairs : ValueType → ValueType → Prop}

/-- The answers that the rules give to a request for the conversion of a payload, in any program in
order. -/
def Answerable (history : List RegistryOperation) : Answers := fun payload dest answer =>
  ∃ (cell : Cell) (machine after : Machine) (holdings : List Holding) (holding : Holding)
    (trace : List Turn), machine.Coherent ∧ machine.Accounts holdings ∧ holding ∈ holdings ∧
    cell.Holds machine (some holding) ∧ holding.payload = payload ∧
    Coerced history cell dest machine (.ok answer, after) trace

/-- An end of a request that the rules lead to, with a panic if with a halt. -/
def Coerced.IsMet (history : List RegistryOperation) (cell : Cell) (dest : ValueType)
    (machine : Machine) (ending : Ending dest.Value) : Prop :=
  OnlyPanics ending.1 ∧ ∃ trace, Coerced history cell dest machine ending trace

/-- A converter meets the requests for some pairs of types by the rules, wherever the registry with
the history is used. -/
structure Converter.Meets (converter : Converter) (registry : Registry)
    (history : List RegistryOperation) (pairs : ValueType → ValueType → Prop) : Prop where
  settles : Converter.Settles converter
  met : ∀ (machine : Machine) (holdings : List Holding) (cell : Cell) (holding : Holding)
    (dest : ValueType), registry.Follows machine history → machine.Accounts holdings →
    cell.Holds machine (some holding) → holding ∈ holdings → pairs holding.payload.type dest →
    Coerced.IsMet history cell dest machine ((converter cell dest).run machine)

section Plans

variable {α : Type} {converter : Converter} {machine made : Machine} {holdings : List Holding}
  {input : Instance} {cell : Cell} {holding : Holding} {source : Payload}

/-- An end of a plan that the rules lead to, with a panic if with a halt. -/
def Plan.IsMet (history : List RegistryOperation) (input : Instance) (plan : Plan α)
    (machine : Machine) (ending : Ending α) : Prop :=
  OnlyPanics ending.1 ∧ ∃ trace, plan.Carried (Coerced history) input machine ending trace

/-- A value that was made for a request: the rules say how the request ends and how the plan goes on
if there is an answer. -/
theorem Cell.inScope_request {dest : ValueType} (next : Except ConversionError dest.Value → Plan α)
    (hmeets : Converter.Meets converter registry history pairs)
    (hfollows : registry.Follows machine history)
    (hmade : machine.Makes holdings source cell made holding) (hpair : pairs source.type dest)
    (hnext : ∀ answer, Answerable history source dest answer → ∀ middle,
      registry.Follows middle history → middle.Accounts (holding :: holdings) →
      (next answer).IsMet history input middle (((next answer).run converter input).run middle)) :
    let ending := (cell.inScope do (next (← converter cell dest)).run converter input).run made
    OnlyPanics ending.1 ∧
      ((∃ halt middle trace, Coerced history cell dest made (.error halt, middle) trace ∧
          ending = cell.closing (.error halt, middle)) ∨
        ∃ answer middle trace inner rest,
          Coerced history cell dest made (.ok answer, middle) trace ∧
          (next answer).Carried (Coerced history) input middle inner rest ∧
          ending = cell.closing inner) := by
  obtain ⟨hcoherent, hextends, hholds, rfl, haccounts⟩ := hmade
  have hthere := hfollows.mono hextends hcoherent
  have hmem : holding ∈ holding :: holdings := List.mem_cons_self
  have hsettled := hmeets.settles made _ cell (some holding) dest hcoherent haccounts hholds
    fun held hheld => by cases hheld; exact hmem
  obtain ⟨hpanics, trace, hcoerced⟩ :=
    hmeets.met made _ cell holding dest hthere haccounts hholds hmem hpair
  rcases hrun : (converter cell dest).run made with ⟨outcome, middle⟩
  unfold Action.Settles at hsettled
  rw [hrun] at hsettled hpanics hcoerced
  have hmiddle := hthere.mono hsettled.knows hsettled.coherent
  intro ending
  have hending : ending = cell.closing
      ((do (next (← converter cell dest)).run converter input : Action Machine _).run made) :=
    Cell.inScope_run cell _ made
  cases outcome with
  | error halt =>
      rw [Action.run_bind_error _ hrun] at hending
      rw [hending]
      exact ⟨hpanics.error, .inl ⟨halt, middle, trace, hcoerced, rfl⟩⟩
  | ok answer =>
      rw [Action.run_bind_ok _ hrun] at hending
      have hanswer : Answerable history holding.payload dest answer :=
        ⟨cell, made, middle, _, holding, trace, hcoherent, haccounts, hmem, hholds, rfl, hcoerced⟩
      obtain ⟨hinner, rest, hcarried⟩ := hnext answer hanswer middle hmiddle hsettled.accounts
      have hend := Plan.run_settles hmeets.settles input (next answer) hsettled.coherent
        hsettled.accounts
      rw [hending]
      refine ⟨Cell.closing_onlyPanics hend.accounts ?_ hinner,
        .inr ⟨answer, middle, trace, _, rest, hcoerced, hcarried, rfl⟩⟩
      exact hholds.mono (hsettled.knows.trans hend.knows)

/-- A request for a copy begins with making it. -/
theorem Plan.run_convertCopy {dest : ValueType} (next : Except ConversionError dest.Value → Plan α)
    (converter : Converter) (input : Instance) :
    (convertCopy dest next).run converter input = (do
      let cell ← Cell.ofCopy input
      cell.inScope do (next (← converter cell dest)).run converter input) := by
  unfold Cell.ofCopy
  rw [bind_assoc]
  rfl

/-- Carrying out a plan ends as the rules say if its requests do. -/
theorem Plan.run_isMet (hmeets : Converter.Meets converter registry history pairs)
    (plan : Plan α)
    (hasks : plan.AsksOnly (fun _ => True) pairs (Answerable history) input.payload)
    (hfollows : registry.Follows machine history) (haccounts : machine.Accounts holdings) :
    plan.IsMet history input machine ((plan.run converter input).run machine) := by
  induction plan generalizing machine holdings with
  | give value => exact ⟨onlyPanics_ok _, [], .give value machine⟩
  | fail error => exact ⟨onlyPanics_ok _, [], .fail error machine⟩
  | identify type next ih =>
      have hlearns := Machine.identify_learns type machine
      have hknown := hfollows.mono hlearns.toExtends (Machine.identify_coherent hfollows.coherent _)
      obtain ⟨hpanics, trace, hcarried⟩ := ih _ (hasks.2 _ (Machine.identify_type? type machine))
        hknown (hlearns.accounts haccounts)
      exact ⟨hpanics, trace, .identify hcarried⟩
  | report event next ih =>
      have hafter := hfollows.mono (.advance machine machine.heap 0 [] [event])
        (hfollows.coherent.advance _ _ _ _)
      obtain ⟨hpanics, trace, hcarried⟩ := ih hasks hafter (haccounts.report [event])
      have hreport : (liftM (Machine.report event) : Action Machine Unit).run machine =
          (.ok (), machine.advance machine.heap 0 [] [event]) := by
        rw [Action.run_lift, Machine.report_apply]
      unfold run
      rw [Action.run_bind_ok _ hreport]
      exact ⟨hpanics, trace, .report hcarried⟩
  | convert source dest next ih =>
      obtain ⟨cell, made, holding, hrun, hmade⟩ :=
        Cell.ofPayload_makes hfollows.coherent haccounts source
      have hmaking : (liftM (Cell.ofPayload source) : Action Machine Cell).run machine =
          (.ok cell, made) := by
        rw [Action.run_lift, hrun]
      obtain ⟨hpanics, hends⟩ := Cell.inScope_request next hmeets hfollows hmade hasks.1
        fun answer hanswer middle hmiddle haccounts =>
          ih answer (hasks.2 answer hanswer) hmiddle haccounts
      unfold run
      rw [Action.run_bind_ok _ hmaking]
      refine ⟨hpanics, ?_⟩
      rcases hends with ⟨halt, middle, trace, hcoerced, hending⟩ |
        ⟨answer, middle, trace, inner, rest, hcoerced, hcarried, hending⟩
      · rw [hending]
        exact ⟨_, .convertHalted hrun hcoerced⟩
      · rw [hending]
        exact ⟨_, .convert hrun hcoerced hcarried⟩
  | convertCopy dest next ih =>
      rw [Plan.run_convertCopy]
      cases hcopied : input.payload.copied with
      | error halt =>
          have hrun : (Cell.ofCopy input).run machine = (.error halt, _) :=
            Action.run_bind_error _ (Machine.clone_run_error hcopied machine)
          rw [Action.run_bind_error _ hrun]
          exact ⟨(hcopied ▸ input.payload.copied_onlyPanics).error, [], .copyPanics hrun⟩
      | ok copy =>
          obtain ⟨cell, made, holding, hrun, hmade⟩ :=
            Cell.ofCopy_makes hfollows.coherent haccounts hcopied
          have hpair : pairs input.payload.copy.type dest := by
            rw [Payload.copy_type]
            exact hasks.1
          obtain ⟨hpanics, hends⟩ := Cell.inScope_request next hmeets hfollows hmade hpair
            fun answer hanswer middle hmiddle haccounts =>
              ih answer (hasks.2 answer hanswer) hmiddle haccounts
          rw [Action.run_bind_ok _ hrun]
          refine ⟨hpanics, ?_⟩
          rcases hends with ⟨halt, middle, trace, hcoerced, hending⟩ |
            ⟨answer, middle, trace, inner, rest, hcoerced, hcarried, hending⟩
          · rw [hending]
            exact ⟨_, .convertCopyHalted hrun hcoerced⟩
          · rw [hending]
            exact ⟨_, .convertCopy hrun hcoerced hcarried⟩

end Plans

/-! ## Ranks -/

/-- The conversions that are live ask only for pairs of lower rank than their own. -/
def IsRankedBy (history : List RegistryOperation) (rank : ValueType → ValueType → Nat) : Prop :=
  ∀ source dest conversion, liveConversion? history source dest = some conversion → ∀ value,
    (conversion value).AsksOnly (fun _ => True)
      (fun source' dest' => rank source' dest' < rank source dest) (Answerable history)
      ⟨source, value⟩

/-- The number of live pairs of a lower rank than the given one. -/
def livePairsBelow (history : List RegistryOperation) (rank : ValueType → ValueType → Nat)
    (bound : Nat) : Nat :=
  (ValueType.all ×ˢ ValueType.all).countP fun pair =>
    isLive history pair && decide (rank pair.1 pair.2 < bound)

/-- How deep a conversion between two types can be nested. -/
def depthFor (history : List RegistryOperation) (rank : ValueType → ValueType → Nat)
    (source dest : ValueType) : Nat :=
  if isLive history (source, dest) then livePairsBelow history rank (rank source dest) + 2 else 1

section Ranks

variable {rank : ValueType → ValueType → Nat} {source dest source' dest' : ValueType}

/-- A live pair of lower rank has fewer live pairs below it. -/
theorem livePairsBelow_lt (hlive : isLive history (source', dest'))
    (hlower : rank source' dest' < rank source dest) :
    livePairsBelow history rank (rank source' dest') <
      livePairsBelow history rank (rank source dest) := by
  unfold livePairsBelow
  rw [List.countP_eq_length_filter, List.countP_eq_length_filter]
  have hsublist := List.monotone_filter_right (ValueType.all ×ˢ ValueType.all)
    fun (pair : ValueType × ValueType)
      (hbelow : isLive history pair && decide (rank pair.1 pair.2 < rank source' dest')) =>
    show isLive history pair && decide (rank pair.1 pair.2 < rank source dest) by
      simp only [Bool.and_eq_true, decide_eq_true_eq] at hbelow ⊢
      exact ⟨hbelow.1, Nat.lt_trans hbelow.2 hlower⟩
  refine Nat.lt_of_le_of_ne hsublist.length_le fun hlength => ?_
  -- the pair itself is below the one rank and not below the other
  have hmem : (source', dest') ∈ (ValueType.all ×ˢ ValueType.all).filter fun pair =>
      isLive history pair && decide (rank pair.1 pair.2 < rank source dest) :=
    List.mem_filter.mpr ⟨List.pair_mem_product.mpr ⟨ValueType.mem_all _, ValueType.mem_all _⟩,
      by simp [hlive, hlower]⟩
  rw [← hsublist.eq_of_length hlength] at hmem
  simp at hmem

theorem depthFor_lt (hlive : isLive history (source, dest))
    (hlower : rank source' dest' < rank source dest) :
    depthFor history rank source' dest' < depthFor history rank source dest := by
  unfold depthFor
  rw [if_pos hlive]
  split
  · rename_i hlive'
    have hless := livePairsBelow_lt hlive' hlower
    omega
  · omega

/-- The limit to the nesting of conversions leaves room for all that is live. -/
theorem depthFor_le_nestingLimit (hfollows : registry.Follows machine history) :
    depthFor history rank source dest ≤ registry.nestingLimit := by
  have hbelow : livePairsBelow history rank (rank source dest) ≤ registry.size := by
    rw [hfollows.size_eq]
    exact List.countP_mono_left fun pair _ hboth => (Bool.and_eq_true _ _ ▸ hboth).1
  unfold depthFor Registry.nestingLimit
  split <;> omega

end Ranks

/-! ## Coercions -/

section Coercions

variable {machine : Machine} {holdings : List Holding} {holding : Holding} {cell : Cell}
  {dest : ValueType} {depth : Nat}

/-- A coercion that passes the gates ends as the plan of the live conversion does, with its result
handed over. -/
theorem Registry.coerceWithin_live (hfollows : registry.Follows machine history)
    (haccounts : machine.Accounts holdings) (hholds : cell.Holds machine (some holding))
    (hmem : holding ∈ holdings) (hnative : dest.isForeign = false)
    {conversion : Conversion holding.contents.payload.type dest}
    (hlive : liveConversion? history holding.contents.payload.type dest = some conversion) :
    (registry.coerceWithin (depth + 1) cell dest).run machine =
      Ending.handedOver (((conversion holding.contents.payload.value).run
        (registry.coerceWithin depth) holding.contents).run (Machine.identify dest machine).2) := by
  rcases hplan : ((conversion holding.contents.payload.value).run (registry.coerceWithin depth)
    holding.contents).run (Machine.identify dest machine).2 with ⟨outcome, after⟩
  have hfails := coerceWithin_live_of_not_ok hfollows haccounts hholds hmem hnative hlive hplan
  rcases outcome with halt | error | value
  · exact hfails fun value heq => by cases heq
  · exact hfails fun value heq => by cases heq
  · exact coerceWithin_live_of_ok hfollows haccounts hholds hmem hnative hlive hplan

/-- A gate that does not depend on the registry stops a coercion at any depth. -/
theorem Registry.coerceWithin_isMet_of_gate (hcoherent : machine.Coherent) (registry : Registry)
    (hgate : dest.isForeign = true ∨ cell.isEmpty) :
    Coerced.IsMet history cell dest machine
      ((registry.coerceWithin (depth + 1) cell dest).run machine) := by
  cases hforeign : dest.isForeign with
  | true =>
      rw [coerceWithin_foreign hcoherent registry depth cell hforeign]
      exact ⟨onlyPanics_ok _, _, .foreign hforeign⟩
  | false =>
      have hempty : cell.isEmpty := hgate.resolve_left (Bool.eq_false_iff.mp hforeign)
      rw [coerceWithin_empty hcoherent hforeign hempty]
      exact ⟨onlyPanics_ok _, _, .empty hforeign hempty⟩

/-- A registry whose conversions are ranked meets all requests for which there is room. -/
theorem Registry.coerceWithin_meets {rank : ValueType → ValueType → Nat}
    (hranked : IsRankedBy history rank) (depth : Nat) :
    Converter.Meets (registry.coerceWithin depth) registry history fun source dest =>
      depthFor history rank source dest ≤ depth := by
  induction depth with
  | zero =>
      refine ⟨registry.coerceWithin_settles 0, fun _ _ _ _ _ _ _ _ _ hroom => ?_⟩
      unfold depthFor at hroom
      split at hroom <;> omega
  | succ depth ih =>
      refine ⟨registry.coerceWithin_settles (depth + 1), ?_⟩
      intro machine holdings cell holding dest hfollows haccounts hholds hmem hroom
      cases hforeign : dest.isForeign with
      | true => exact coerceWithin_isMet_of_gate hfollows.coherent registry (.inl hforeign)
      | false =>
          have hlearns := Machine.identify_learns dest machine
          have hknown := Machine.identify_coherent hfollows.coherent dest
          have hthere := hfollows.mono hlearns.toExtends hknown
          have hafter := hlearns.accounts haccounts
          have hstill := hholds.mono hlearns.toExtends
          have hcontents := Cell.contents?_run hafter hstill fun held hheld => by
            cases hheld
            exact hmem
          cases hlive : liveConversion? history holding.contents.payload.type dest with
          | none =>
              rw [coerceWithin_missing hfollows haccounts hholds hmem hforeign hlive]
              exact ⟨onlyPanics_ok _, _, .missing hforeign hcontents (hstill.identity?_eq hknown)
                hlive⟩
          | some conversion =>
              rw [coerceWithin_live hfollows haccounts hholds hmem hforeign hlive]
              have hisLive : isLive history (holding.contents.payload.type, dest) := by
                unfold isLive
                rw [hlive]
                rfl
              have hasks := (hranked _ _ _ hlive holding.contents.payload.value).imp
                fun source' dest' hlower => Nat.le_of_lt_succ
                  (Nat.lt_of_lt_of_le (depthFor_lt hisLive hlower) hroom)
              obtain ⟨hpanics, trace, hcarried⟩ :=
                Plan.run_isMet ih (conversion holding.contents.payload.value) hasks hthere hafter
              exact ⟨hpanics, _, .live hforeign hcontents hlive (fun _ _ _ _ _ hmet => hmet)
                hcarried⟩

end Coercions

/-! ## The conversions of sessions -/

/-- The changes that a session makes to a registry: it registers the conversions that rules and
scripts describe, and removes any. -/
def RegistryOperation.IsOfSessions : RegistryOperation → Prop
  | register source dest conversion =>
    (∃ rule : Rule source dest, conversion = rule.conversion) ∨
      ∃ script : ConversionScript dest, conversion = script.conversion source
  | unregister _ _ => True

section Sessions

variable (hsessions : ∀ operation ∈ history, operation.IsOfSessions)
include hsessions

/-- Rules and scripts hand the failures of their requests on. -/
theorem handsFailuresOn_of_sessions : HandsFailuresOn history := by
  intro source dest conversion hlive value
  obtain ⟨rule, rfl⟩ | ⟨script, rfl⟩ := hsessions _ (register_mem_of_live hlive)
  · exact rule.conversion_handsFailuresOn value
  · exact script.conversion_handsFailuresOn value

/-- Scripts report their calls, and rules report nothing. -/
theorem exists_announces_of_sessions : ∃ announced, Announces history announced := by
  classical
  refine ⟨fun pair => decide (∃ script : ConversionScript pair.2,
    liveConversion? history pair.1 pair.2 = some (script.conversion pair.1)), ?_⟩
  intro source dest conversion hlive value
  split
  · rename_i hscript
    obtain ⟨script, hscript⟩ := of_decide_eq_true hscript
    obtain rfl := Option.some.inj (hlive.symm.trans hscript)
    exact ⟨_, rfl, script.body_isSilent value⟩
  · rename_i hnot
    obtain ⟨rule, rfl⟩ | ⟨script, rfl⟩ := hsessions _ (register_mem_of_live hlive)
    · exact rule.conversion_isSilent value
    · exact absurd (decide_eq_true ⟨script, hlive⟩) hnot

end Sessions

/-! ## The composition of nested conversions -/

/-- What comes of a value that a registry converts, with what is asked for, runs and fails in turn.
The rules for nested conversions describe it, and nothing else; the limit to the nesting does not
matter, and nothing but the panic of a payload stops it. The conversions that run are those of the
requests that pass the gates, each as often and in the order as it is asked for, which can be seen
of those that report their calls. If conversions hand failures on, the first request that fails
decides: nothing runs any more, and its error comes out. What the registry contains is the same
afterwards, and so is the global registry. -/
structure Registry.ComposesConversions (registry : Registry) (machine : Machine)
    (history : List RegistryOperation) (cell : Cell) (dest : ValueType) (trace : List Turn) :
    Prop where
  coerced : Coerced history cell dest machine ((registry.coerce cell dest).run machine) trace
  unique : ∀ ending other, Coerced history cell dest machine ending other →
    ending = (registry.coerce cell dest).run machine ∧ other = trace
  unlimited : ∀ depth, registry.nestingLimit ≤ depth →
    (registry.coerceWithin depth cell dest).run machine = (registry.coerce cell dest).run machine
  terminates : OnlyPanics ((registry.coerce cell dest).run machine).1
  runs : conversionRuns trace = (requests trace).filterMap (admitted? history)
  reports : ∀ announced, Announces history announced →
    ((registry.coerce cell dest).run machine).2.announced =
      machine.announced ++ (conversionRuns trace).filter announced
  stops : HandsFailuresOn history → FailsOnce trace ((registry.coerce cell dest).run machine).1
  contents : registry.Follows ((registry.coerce cell dest).run machine).2 history
  global? : ((registry.coerce cell dest).run machine).2.global? = machine.global?

namespace Registry

variable {machine : Machine} {holdings : List Holding} {holding? : Option Holding} {cell : Cell}
  {rank : ValueType → ValueType → Nat}

/-- Coercions do not change the global registry. -/
theorem coerce_global? (registry : Registry) (cell : Cell) (dest : ValueType) (machine : Machine) :
    ((registry.coerce cell dest).run machine).2.global? = machine.global? :=
  registry.coerce_respects Machine.allows_global? (fun _ _ => rfl) registry.confines_all trivial
    (fun _ _ => trivial) machine

/-- Below the limit there is room for ranked conversions, and a coercion is met by the rules. -/
theorem coerce_isMet (hfollows : registry.Follows machine history)
    (hranked : IsRankedBy history rank) (haccounts : machine.Accounts holdings)
    (hholds : cell.Holds machine holding?) (hsub : ∀ holding ∈ holding?, holding ∈ holdings)
    (dest : ValueType) :
    Coerced.IsMet history cell dest machine ((registry.coerce cell dest).run machine) := by
  cases holding? with
  | none =>
      exact coerceWithin_isMet_of_gate hfollows.coherent registry (.inr (hholds.eq_empty ▸ rfl))
  | some holding =>
      exact (coerceWithin_meets hranked registry.nestingLimit).met machine holdings cell holding
        dest hfollows haccounts hholds (hsub holding rfl) (depthFor_le_nestingLimit hfollows)

/-- However a registry was reached, if its conversions can be ranked so that each asks for pairs of
lower rank only, every value can be converted to every type: the nested conversions come to an end
and compose. The conversions of sessions hand failures on, and some report their calls. -/
theorem ranked_conversions_compose (hreached : Reached history machine registry)
    (hranked : IsRankedBy history rank) (haccounts : machine.Accounts holdings)
    (hholds : cell.Holds machine holding?) (hsub : ∀ holding ∈ holding?, holding ∈ holdings)
    (dest : ValueType) :
    (∃ trace, registry.ComposesConversions machine history cell dest trace) ∧
      ((∀ operation ∈ history, operation.IsOfSessions) →
        HandsFailuresOn history ∧ ∃ announced, Announces history announced) := by
  have hfollows := hreached.follows
  refine ⟨?_, fun hsessions =>
    ⟨handsFailuresOn_of_sessions hsessions, exists_announces_of_sessions hsessions⟩⟩
  obtain ⟨hpanics, trace, hcoerced⟩ :=
    coerce_isMet hfollows hranked haccounts hholds hsub dest
  have hsettled := registry.coerceWithin_settles registry.nestingLimit machine holdings cell
    holding? dest hfollows.coherent haccounts hholds hsub
  exact ⟨trace, {
    coerced := hcoerced
    unique := fun _ _ hother => hcoerced.unique hother
    unlimited := fun _ hdepth =>
      registry.coerceWithin_approximates hdepth cell dest machine hpanics.ne_exhausted
    terminates := hpanics
    runs := hcoerced.conversionRuns_eq
    reports := fun _ hannounces => hcoerced.announced_eq hannounces
    stops := fun hhands => hcoerced.failsOnce hhands
    contents := hfollows.mono hsettled.knows hsettled.coherent
    global? := registry.coerce_global? cell dest machine }⟩

/-- A conversion to text, and one by way of text that finds no conversion from there. -/
def nestedRegistrations : List RegistryOperation :=
  [.register .boolean .text ((ConversionScript.constant "known").conversion .boolean),
    .register .boolean .character ((ConversionScript.chain .text).conversion .boolean)]

/-- A rank for the pairs of these conversions. -/
def nestedRank (source dest : ValueType) : Nat :=
  if source = .boolean ∧ dest = .character then 1 else 0

/-- The two conversions are described by scripts. -/
theorem exists_script_of_nested {source dest : ValueType} {conversion : Conversion source dest}
    (hlive : liveConversion? nestedRegistrations source dest = some conversion) :
    ∃ script : ConversionScript dest, conversion = script.conversion source ∧
      ∀ value, (conversion value).AsksOnly (fun _ => True)
        (fun source' dest' => nestedRank source' dest' < nestedRank source dest)
        (Answerable nestedRegistrations) ⟨source, value⟩ := by
  have hmem := register_mem_of_live hlive
  simp only [nestedRegistrations, List.mem_cons, List.not_mem_nil, or_false,
    RegistryOperation.register.injEq] at hmem
  rcases hmem with ⟨rfl, rfl, hsame⟩ | ⟨rfl, rfl, hsame⟩
  · cases hsame
    exact ⟨.constant "known", rfl, fun _ => trivial⟩
  · cases hsame
    have hfirst : nestedRank .boolean .text < nestedRank .boolean .character := by decide
    have hsecond : nestedRank .text .character < nestedRank .boolean .character := by decide
    refine ⟨.chain .text, rfl, fun value => ⟨hfirst, fun answer _ => ?_⟩⟩
    cases answer with
    | error error => exact trivial
    | ok step =>
        refine ⟨hsecond, fun answer _ => ?_⟩
        cases answer <;> exact trivial

theorem nestedRegistrations_isRanked : IsRankedBy nestedRegistrations nestedRank :=
  fun _ _ _ hlive => (exists_script_of_nested hlive).choose_spec.2

theorem nestedRegistrations_announces : Announces nestedRegistrations fun _ => true := by
  intro source dest conversion hlive value
  obtain ⟨script, rfl, -⟩ := exists_script_of_nested hlive
  exact ⟨_, rfl, script.body_isSilent value⟩

/-- The registry with these conversions in a new program. -/
def nestedRegistry : Registry × Machine :=
  (nestedRegistrations.foldlM RegistryOperation.apply empty : StateM Machine Registry) .fresh

/-- A value in the program of this registry. -/
def nestedSource : Cell × Machine := Cell.ofPayload ⟨.boolean, true⟩ nestedRegistry.2

theorem nested_failure_composes :
    let ending := (nestedRegistry.1.coerce nestedSource.1 .character).run nestedSource.2
    Reached nestedRegistrations nestedSource.2 nestedRegistry.1 ∧
      ending.1 = .ok (.error (.noConversion ⟨2, some .text⟩ ⟨3, some .character⟩)) ∧
      ∃ trace, Coerced nestedRegistrations nestedSource.1 .character nestedSource.2 ending trace ∧
        conversionRuns trace = [(.boolean, .character), (.boolean, .text)] ∧
        FailsOnce trace ending.1 := by
  have hregistered : Reached nestedRegistrations nestedRegistry.2 nestedRegistry.1 :=
    ((Reached.empty .fresh).operate _).operate _
  have haccounts : nestedRegistry.2.Accounts [] :=
    ⟨.refl _, fun address contents => by simp [show nestedRegistry.2.heap = [] from rfl]⟩
  obtain ⟨cell, after, holding, hmade, hmakes⟩ :=
    Cell.ofPayload_makes hregistered.follows.coherent haccounts ⟨.boolean, true⟩
  obtain ⟨rfl, rfl⟩ : nestedSource.1 = cell ∧ nestedSource.2 = after :=
    ⟨congrArg Prod.fst hmade, congrArg Prod.snd hmade⟩
  have hreached := hregistered.elsewhere hmakes.knows hmakes.coherent
  obtain ⟨⟨trace, hcomposes⟩, hsessions⟩ := ranked_conversions_compose hreached
    nestedRegistrations_isRanked hmakes.accounts hmakes.holds
    (fun held hheld => by cases hheld; exact List.mem_cons_self) .character
  have hscripts : ∀ operation ∈ nestedRegistrations, operation.IsOfSessions :=
    List.forall_mem_cons.mpr ⟨.inr ⟨_, rfl⟩, List.forall_mem_singleton.mpr (.inr ⟨_, rfl⟩)⟩
  refine ⟨hreached, by decide +kernel, trace, hcomposes.coerced, ?_,
    hcomposes.stops (hsessions hscripts).1⟩
  have hquiet : nestedSource.2.announced = [] := by decide +kernel
  have hruns := hcomposes.reports _ nestedRegistrations_announces
  rw [List.filter_true, hquiet, List.nil_append] at hruns
  rw [← hruns]
  decide +kernel

end Registry

end DynamicValue
