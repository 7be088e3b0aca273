/-
# Programs that used their types in another order

Two programs are alike if they have the same payloads and the same trace of events, and the same
conversions in their global registries. What they know about types may differ: they may have used
them in another order, and the second one may know more than the first and may have made its global
registry before the first needs it.

Two actions agree on two programs if they end alike and leave the programs alike. As programs only
learn, what corresponds once corresponds from then on. So whole actions agree if their parts do, one
after the other.
-/

import DynamicValue.Proofs.Likeness.Plan

namespace DynamicValue

/-- Two registries, each in a program of its own, with the same history of blind conversions. -/
def Registry.Alike (machine other : Machine) (first second : Registry) : Prop :=
  ∃ history, (∀ operation ∈ history, RegistryOperation.IsBlind operation) ∧
    first.Follows machine history ∧ second.Follows other history

/-- Two programs that differ in nothing but what they know about types. The second one may have made
its global registry when the first one has not made it yet. -/
structure Machine.Alike (machine other : Machine) : Prop where
  coherent : machine.Coherent
  otherCoherent : other.Coherent
  heap : other.heap = machine.heap
  created : other.created = machine.created
  destroyed : other.destroyed = machine.destroyed
  events : other.events = machine.events
  global : ∀ registry, machine.global? = some registry →
    ∃ counterpart, other.global? = some counterpart ∧ registry.Alike machine other counterpart
  ahead : machine.global? = none → ∀ registry, other.global? = some registry →
    registry.Follows other BuiltIn.registrations

/-- A kind of state that a program is part of, and when two states of this kind are alike. -/
class Likeness (σ : Type) where
  program : σ → Machine
  Alike : σ → σ → Prop

open Likeness (program)

instance : Likeness Machine := ⟨id, Machine.Alike⟩

/-- Two states come from two others: they are alike, and the programs in them know at least what
they knew. -/
structure Later {σ : Type} [Likeness σ] (first second first' second' : σ) : Prop where
  alike : Likeness.Alike first' second'
  first : (program first).Extends (program first')
  second : (program second).Extends (program second')

/-- Two actions, each in a state of its own, that end alike in states that are alike. A failure is
the same on both sides; values correspond as it is said for the states that are left. -/
def Agree {σ ε α β : Type} [Likeness σ] (first second : σ) (action : ExceptT ε (StateM σ) α)
    (other : ExceptT ε (StateM σ) β) (values : σ → σ → α → β → Prop) : Prop :=
  Later first second (action.run first).2 (other.run second).2 ∧
    EndsAlike Eq (values (action.run first).2 (other.run second).2) (action.run first).1
      (other.run second).1

section Agree

variable {σ ε α β γ δ : Type} [Likeness σ] {first second first' second' : σ}
  {action : ExceptT ε (StateM σ) α} {other : ExceptT ε (StateM σ) β}
  {values : σ → σ → α → β → Prop}

theorem Later.refl (halike : Likeness.Alike first second) : Later first second first second :=
  ⟨halike, .refl _, .refl _⟩

theorem Later.trans {first'' second'' : σ} (hfirst : Later first second first' second')
    (hsecond : Later first' second' first'' second'') : Later first second first'' second'' :=
  ⟨hsecond.alike, hfirst.first.trans hsecond.first, hfirst.second.trans hsecond.second⟩

namespace Agree

theorem of_run {outcome : Except ε α} {outcome' : Except ε β}
    (haction : action.run first = (outcome, first'))
    (hother : other.run second = (outcome', second')) (hlater : Later first second first' second')
    (hends : EndsAlike Eq (values first' second') outcome outcome') :
    Agree first second action other values := by
  unfold Agree
  rw [haction, hother]
  exact ⟨hlater, hends⟩

theorem pure (halike : Likeness.Alike first second) {value : α} {value' : β}
    (hvalues : values first second value value') :
    Agree first second (Pure.pure value : ExceptT ε (StateM σ) α) (Pure.pure value') values :=
  ⟨.refl halike, .ok hvalues⟩

theorem throw (halike : Likeness.Alike first second) (failure : ε) :
    Agree first second (throw failure : ExceptT ε (StateM σ) α)
      (MonadExcept.throw failure : ExceptT ε (StateM σ) β) values :=
  ⟨.refl halike, .error rfl⟩

/-- A change of the state that cannot fail, as a part of an action. -/
theorem lift {part : StateM σ α} {part' : StateM σ β}
    (hlater : Later first second (part first).2 (part' second).2)
    (hvalues : values (part first).2 (part' second).2 (part first).1 (part' second).1) :
    Agree first second (liftM part : ExceptT ε (StateM σ) α) (liftM part') values :=
  ⟨hlater, .ok hvalues⟩

/-- Parts that agree are followed by parts that agree from where they end. -/
theorem bind {next : α → ExceptT ε (StateM σ) γ} {next' : β → ExceptT ε (StateM σ) δ}
    {final : σ → σ → γ → δ → Prop} (hparts : Agree first second action other values)
    (hnext : ∀ first' second' value value', Later first second first' second' →
      values first' second' value value' →
      Agree first' second' (next value) (next' value') final) :
    Agree first second (action >>= next) (other >>= next') final := by
  obtain ⟨hlater, hends⟩ := hparts
  rcases haction : action.run first with ⟨outcome, first'⟩
  rcases hother : other.run second with ⟨outcome', second'⟩
  rw [haction, hother] at hlater hends
  cases hends with
  | ok hvalues =>
      obtain ⟨hlater', hends'⟩ := hnext first' second' _ _ hlater hvalues
      refine .of_run ?_ ?_ (hlater.trans hlater') hends'
      · exact Action.run_bind_ok _ haction
      · exact Action.run_bind_ok _ hother
  | error hfailures =>
      refine .of_run ?_ ?_ hlater (.error hfailures)
      · exact Action.run_bind_error _ haction
      · exact Action.run_bind_error _ hother

/-- The answers that follow from what two parts give. -/
theorem answer {final : σ → σ → γ → δ → Prop} {value : α → γ} {value' : β → δ}
    (hparts : Agree first second action other values)
    (himp : ∀ first' second' given given', Later first second first' second' →
      values first' second' given given' → final first' second' (value given) (value' given')) :
    Agree first second (action >>= fun given => Pure.pure (value given))
      (other >>= fun given => Pure.pure (value' given)) final :=
  hparts.bind fun first' second' given given' hlater hvalues =>
    .pure hlater.alike (himp first' second' given given' hlater hvalues)

/-- A part that looks at the state and does not change it. -/
theorem get (halike : Likeness.Alike first second) :
    Agree first second (MonadState.get : ExceptT ε (StateM σ) σ) MonadState.get
      fun first' second' seen seen' =>
        first = first' ∧ second = second' ∧ first = seen ∧ second = seen' :=
  ⟨.refl halike, .ok ⟨rfl, rfl, rfl, rfl⟩⟩

end Agree

end Agree

section Scope

variable {σ τ α β : Type} [Likeness σ] [Likeness τ] {first second : σ}

/-- An action on a part of a larger state. -/
theorem Agree.within {part : σ → τ} {replace : σ → τ → σ} {part' : σ → τ} {replace' : σ → τ → σ}
    {action : Action τ α} {other : Action τ β} {values : τ → τ → α → β → Prop}
    {final : σ → σ → α → β → Prop} (hparts : Agree (part first) (part' second) action other values)
    (hreplace : ∀ changed changed', Later (part first) (part' second) changed changed' →
      Later first second (replace first changed) (replace' second changed'))
    (hvalues : ∀ changed changed' value value',
      Later (part first) (part' second) changed changed' → values changed changed' value value' →
      final (replace first changed) (replace' second changed') value value') :
    Agree first second (action.within part replace) (other.within part' replace') final := by
  obtain ⟨hlater, hends⟩ := hparts
  rcases haction : action.run (part first) with ⟨outcome, changed⟩
  rcases hother : other.run (part' second) with ⟨outcome', changed'⟩
  rw [haction, hother] at hlater hends
  refine .of_run (Action.run_within _ _ _ _) (Action.run_within _ _ _ _) ?_ ?_
  · rw [haction, hother]
    exact hreplace changed changed' hlater
  · rw [haction, hother]
    cases hends with
    | ok hends => exact .ok (hvalues changed changed' _ _ hlater hends)
    | error hfailures => exact .error hfailures

/-- Actions whose clean-ups agree after a halt. -/
theorem Agree.unwinding {action : Action σ α} {other : Action σ β}
    {cleanUp cleanUp' : Action σ Unit}
    {values : σ → σ → α → β → Prop} {given : σ → σ → Unit → Unit → Prop}
    (hparts : Agree first second action other values)
    (hcleanUp : ∀ first' second', Later first second first' second' →
      Agree first' second' cleanUp cleanUp' given) :
    Agree first second (Action.unwinding action cleanUp) (Action.unwinding other cleanUp')
      values := by
  obtain ⟨hlater, hends⟩ := hparts
  rcases haction : action.run first with ⟨outcome, first'⟩
  rcases hother : other.run second with ⟨outcome', second'⟩
  rw [haction, hother] at hlater hends
  cases hends with
  | ok hvalues =>
      refine .of_run ?_ ?_ hlater (.ok hvalues)
      · exact Action.run_unwinding_ok _ haction
      · exact Action.run_unwinding_ok _ hother
  | error hfailures =>
      subst hfailures
      have hcleaned := Action.run_unwinding_error cleanUp haction
      have hcleaned' := Action.run_unwinding_error cleanUp' hother
      exact .of_run hcleaned hcleaned' (hlater.trans (hcleanUp first' second' hlater).1)
        (.error rfl)

end Scope

/-- What two parts give is the same. -/
abbrev Same {σ α : Type} : σ → σ → α → α → Prop := fun _ _ => Eq

/-! ## What two programs know -/

/-- Two identities, each known in a program of its own, that are of the same type or both that of
the empty value. -/
structure TypeIdentity.Alike (machine other : Machine) (first second : TypeIdentity) : Prop where
  known : machine.Knows first
  otherKnown : other.Knows second
  type : first.type? = second.type?

/-- Two operation tables, each built in a program of its own, that are for the same type. -/
structure OperationTable.Alike (machine other : Machine) (first second : OperationTable) :
    Prop where
  listed : first ∈ machine.tables
  otherListed : second ∈ other.tables
  type : first.type = second.type

namespace Machine

variable {machine other after after' : Machine} {first second third fourth : TypeIdentity}

theorem Knows.mono (hknows : machine.Knows first) (hextends : machine.Extends after) :
    after.Knows first :=
  hknows.imp_right fun hmem => hextends.identities.subset hmem

/-- A known identity has number zero only if it is that of the empty value. -/
theorem Knows.anonymous_eq (hknows : machine.Knows first) (hcoherent : machine.Coherent) :
    first.anonymous = ⟨if first.type?.isSome then 1 else 0, first.type?⟩ := by
  rcases hknows with rfl | hmem
  · rfl
  · obtain ⟨index, hget⟩ := List.mem_iff_getElem?.mp hmem
    obtain ⟨hnumber, htype⟩ := hcoherent.numbered index first hget
    rw [if_pos htype, TypeIdentity.anonymous, hnumber, Nat.min_eq_right (Nat.le_add_left _ _)]

/-- Known identities are the same if and only if they are of the same type, or both that of the
empty value. -/
theorem Coherent.same_eq_of_knows (hcoherent : machine.Coherent) (hfirst : machine.Knows first)
    (hsecond : machine.Knows second) : first.same second = decide (first.type? = second.type?) := by
  rw [Bool.eq_iff_iff, decide_eq_true_iff]
  rcases hfirst with rfl | hmem
  · rcases hsecond with rfl | hmem'
    · exact iff_of_true rfl rfl
    · obtain ⟨index, hget⟩ := List.mem_iff_getElem?.mp hmem'
      obtain ⟨hnumber, htype⟩ := hcoherent.numbered index second hget
      refine iff_of_false ?_ ?_
      · simp [TypeIdentity.same, TypeIdentity.null, hnumber]
      · exact fun heq => by rw [← heq] at htype; cases htype
  · obtain ⟨index, hget⟩ := List.mem_iff_getElem?.mp hmem
    obtain ⟨type, htype⟩ := Option.isSome_iff_exists.mp (hcoherent.numbered index first hget).2
    have hidentity := hcoherent.identity?_eq_some_iff.mpr ⟨hmem, htype⟩
    rw [htype, hcoherent.same_iff_of_knows hidentity hsecond, eq_comm]

end Machine

namespace TypeIdentity.Alike

variable {machine other after after' : Machine} {first second third fourth : TypeIdentity}

theorem null (machine other : Machine) : Alike machine other .null .null :=
  ⟨.inl rfl, .inl rfl, rfl⟩

theorem mono (halike : Alike machine other first second) (hextends : machine.Extends after)
    (hextends' : other.Extends after') : Alike after after' first second :=
  ⟨halike.known.mono hextends, halike.otherKnown.mono hextends', halike.type⟩

theorem anonymous_eq (halike : Alike machine other first second) (hprograms : machine.Alike other) :
    first.anonymous = second.anonymous := by
  rw [halike.known.anonymous_eq hprograms.coherent,
    halike.otherKnown.anonymous_eq hprograms.otherCoherent, halike.type]

theorem same_eq (halike : Alike machine other first second)
    (halike' : Alike machine other third fourth) (hprograms : machine.Alike other) :
    first.same third = second.same fourth := by
  rw [hprograms.coherent.same_eq_of_knows halike.known halike'.known,
    hprograms.otherCoherent.same_eq_of_knows halike.otherKnown halike'.otherKnown, halike.type,
    halike'.type]

end TypeIdentity.Alike

namespace OperationTable.Alike

variable {machine other after after' : Machine} {first second third fourth : OperationTable}

theorem mono (halike : Alike machine other first second) (hextends : machine.Extends after)
    (hextends' : other.Extends after') : Alike after after' first second :=
  ⟨hextends.tables.subset halike.listed, hextends'.tables.subset halike.otherListed, halike.type⟩

/-- The identities in tables for the same type are alike. -/
theorem identity (halike : Alike machine other first second) (hprograms : machine.Alike other) :
    first.identity.Alike machine other second.identity := by
  have hfirst := hprograms.coherent.identity?_of_table halike.listed
  have hsecond := hprograms.otherCoherent.identity?_of_table halike.otherListed
  refine ⟨.of_identity? hfirst, .of_identity? hsecond, ?_⟩
  rw [(hprograms.coherent.identity?_eq_some_iff.mp hfirst).2,
    (hprograms.otherCoherent.identity?_eq_some_iff.mp hsecond).2, halike.type]

/-- Whether two tables are the same is the same in both programs. -/
theorem same_eq (halike : Alike machine other first second)
    (halike' : Alike machine other third fourth) (hprograms : machine.Alike other) :
    first.same third = second.same fourth := by
  rw [Bool.eq_iff_iff, hprograms.coherent.table_same_iff halike.listed halike'.listed,
    hprograms.otherCoherent.table_same_iff halike.otherListed halike'.otherListed, halike.type,
    halike'.type]

end OperationTable.Alike

theorem Registry.Alike.mono {machine other after after' : Machine} {first second : Registry}
    (halike : first.Alike machine other second) (hextends : machine.Extends after)
    (hafter : after.Coherent) (hextends' : other.Extends after') (hafter' : after'.Coherent) :
    first.Alike after after' second := by
  obtain ⟨history, hblind, hfirst, hsecond⟩ := halike
  exact ⟨history, hblind, hfirst.mono hextends hafter, hsecond.mono hextends' hafter'⟩

/-! ## Parts of actions on the memory -/

namespace Machine.Alike

variable {machine other after after' : Machine}

/-- The payloads and the events of two programs change in the same way. -/
theorem advance (halike : machine.Alike other) (heap : List (Option Instance)) (created : Nat)
    (destroyed : List Nat) (events : List Event) :
    Later machine other (machine.advance heap created destroyed events)
      (other.advance heap created destroyed events) where
  alike := {
    coherent := halike.coherent.advance _ _ _ _
    otherCoherent := halike.otherCoherent.advance _ _ _ _
    heap := rfl
    created := congrArg (· + created) halike.created
    destroyed := congrArg (· ++ destroyed) halike.destroyed
    events := congrArg (· ++ events) halike.events
    global := fun registry hglobal => by
      obtain ⟨counterpart, hcounterpart, hregistries⟩ := halike.global registry hglobal
      exact ⟨counterpart, hcounterpart, hregistries.mono (.advance _ _ _ _ _)
        (halike.coherent.advance _ _ _ _) (.advance _ _ _ _ _)
        (halike.otherCoherent.advance _ _ _ _)⟩
    ahead := fun hglobal registry hregistry =>
      (halike.ahead hglobal registry hregistry).mono (.advance _ _ _ _ _)
        (halike.otherCoherent.advance _ _ _ _) }
  first := .advance _ _ _ _ _
  second := .advance _ _ _ _ _

/-- Programs that learn stay alike, whatever each of them learns. -/
theorem learn (halike : machine.Alike other) (hlearns : machine.Learns after)
    (hafter : after.Coherent) (hlearns' : other.Learns after') (hafter' : after'.Coherent) :
    Later machine other after after' where
  alike := {
    coherent := hafter
    otherCoherent := hafter'
    heap := hlearns'.heap.trans (halike.heap.trans hlearns.heap.symm)
    created := hlearns'.created.trans (halike.created.trans hlearns.created.symm)
    destroyed := hlearns'.destroyed.trans (halike.destroyed.trans hlearns.destroyed.symm)
    events := hlearns'.events.trans (halike.events.trans hlearns.events.symm)
    global := fun registry hglobal => by
      rw [hlearns.global?] at hglobal
      obtain ⟨counterpart, hcounterpart, hregistries⟩ := halike.global registry hglobal
      refine ⟨counterpart, hlearns'.global?.trans hcounterpart, ?_⟩
      exact hregistries.mono hlearns.toExtends hafter hlearns'.toExtends hafter'
    ahead := fun hglobal registry hregistry => by
      rw [hlearns.global?] at hglobal
      rw [hlearns'.global?] at hregistry
      exact (halike.ahead hglobal registry hregistry).mono hlearns'.toExtends hafter' }
  first := hlearns.toExtends
  second := hlearns'.toExtends

/-- An action on the memory that does the same in two programs. -/
theorem advancing {α : Type} {action : Action Machine α} (halike : machine.Alike other)
    {outcome : Except Halt α} {heap : List (Option Instance)} {created : Nat}
    {destroyed : List Nat} {events : List Event}
    (haction : action.run machine = (outcome, machine.advance heap created destroyed events))
    (hother : action.run other = (outcome, other.advance heap created destroyed events)) :
    Agree machine other action action Same := by
  refine .of_run haction hother (halike.advance heap created destroyed events) ?_
  cases outcome with
  | ok value => exact .ok rfl
  | error halt => exact .error rfl

/-- A change of the memory that cannot fail. -/
theorem changing {α : Type} {part : StateM Machine α} (halike : machine.Alike other) {value : α}
    {heap : List (Option Instance)} {created : Nat} {destroyed : List Nat} {events : List Event}
    (hpart : part machine = (value, machine.advance heap created destroyed events))
    (hother : part other = (value, other.advance heap created destroyed events)) :
    Agree machine other (liftM part : Action Machine α) (liftM part) Same := by
  have hlater := halike.advance heap created destroyed events
  refine .lift ?_ ?_
  · rw [hpart, hother]
    exact hlater
  · rw [hpart, hother]

section Memory

variable (halike : machine.Alike other)
include halike

theorem report (event : Event) :
    Agree machine other (liftM (Machine.report event) : Action Machine Unit)
      (liftM (Machine.report event)) Same := by
  refine halike.changing (report_apply event machine) ?_
  rw [report_apply, halike.heap]

theorem create (payload : Payload) :
    Agree machine other (liftM (Machine.create payload) : Action Machine Instance)
      (liftM (Machine.create payload)) Same := by
  refine halike.changing (create_apply payload machine) ?_
  rw [create_apply, halike.heap, halike.created]

theorem discard (doomed : Instance) :
    Agree machine other (liftM (Machine.discard doomed) : Action Machine Unit)
      (liftM (Machine.discard doomed)) Same := by
  refine halike.changing (discard_apply doomed machine) ?_
  rw [discard_apply, halike.heap]

theorem destroy (doomed : Instance) :
    Agree machine other (Machine.destroy doomed) (Machine.destroy doomed) Same := by
  refine halike.advancing (destroy_run doomed machine) ?_
  rw [destroy_run, halike.heap]

theorem clone (source : Instance) :
    Agree machine other (Machine.clone source) (Machine.clone source) Same := by
  cases hcopied : source.payload.copied with
  | error halt =>
      refine halike.advancing (clone_run_error hcopied machine) ?_
      rw [clone_run_error hcopied, halike.heap]
  | ok copied =>
      refine halike.advancing (clone_run_ok hcopied machine) ?_
      rw [clone_run_ok hcopied, halike.heap, halike.created]

theorem allocate (contents : Instance) :
    Agree machine other (liftM (Machine.allocate contents) : Action Machine Nat)
      (liftM (Machine.allocate contents)) Same := by
  refine halike.changing (allocate_apply contents machine) ?_
  rw [allocate_apply, halike.heap]

theorem store (address : Nat) (contents : Instance) :
    Agree machine other (liftM (Machine.store address contents) : Action Machine Unit)
      (liftM (Machine.store address contents)) Same := by
  refine halike.changing (store_apply address contents machine) ?_
  rw [store_apply, halike.heap]

theorem load (address : Nat) :
    Agree machine other (Machine.load address) (Machine.load address) Same := by
  refine (Agree.get halike).bind ?_
  rintro _ _ _ _ - ⟨rfl, rfl, rfl, rfl⟩
  rw [halike.heap]
  split
  · exact .pure halike rfl
  · exact .throw halike _

theorem free (address : Nat) :
    Agree machine other (Machine.free address) (Machine.free address) Same := by
  refine (halike.load address).bind fun machine other contents contents' hlater hcontents => ?_
  have halike : machine.Alike other := hlater.alike
  have hfreed := halike.advance (machine.heap.set address none) 0 [] []
  have hmodify : Agree machine other
      (modify fun machine => { machine with heap := machine.heap.set address none } :
        Action Machine PUnit)
      (modify fun machine => { machine with heap := machine.heap.set address none }) Same := by
    refine .of_run (Action.run_modify _ _) (Action.run_modify _ _) ?_ (.ok rfl)
    simpa only [Machine.advance, halike.heap, Nat.add_zero, List.append_nil] using hfreed
  exact hmodify.answer fun _ _ _ _ _ _ => hcontents

end Memory

end Machine.Alike

/-! ## Parts of actions that learn types -/

/-- Parts that only learn may learn different things. -/
theorem Agree.learning {α β : Type} {machine other : Machine} (halike : machine.Alike other)
    {part : StateM Machine α} {part' : StateM Machine β} (hpart : Machine.OnlyLearns part)
    (hpart' : Machine.OnlyLearns part') {values : Machine → Machine → α → β → Prop}
    (hvalues : values (part machine).2 (part' other).2 (part machine).1 (part' other).1) :
    Agree machine other (liftM part : Action Machine α) (liftM part' : Action Machine β)
      values := by
  obtain ⟨hlearns, hafter⟩ := hpart machine halike.coherent
  obtain ⟨hlearns', hafter'⟩ := hpart' other halike.otherCoherent
  exact .lift (halike.learn hlearns hafter hlearns' hafter') hvalues

namespace Machine.Alike

variable {machine other : Machine} (halike : machine.Alike other)
include halike

theorem writeLog (line line' : LogLine) :
    Agree machine other (liftM (Machine.writeLog line) : Action Machine Unit)
      (liftM (Machine.writeLog line')) Same :=
  .learning halike (.writeLog line) (.writeLog line') rfl

/-- Each program hands out an identity of its own. -/
theorem identify (type : ValueType) :
    Agree machine other (liftM (Machine.identify type) : Action Machine TypeIdentity)
      (liftM (Machine.identify type)) fun machine other first second =>
        first.Alike machine other second := by
  have hfirst := Machine.identity?_identify halike.coherent type
  have hsecond := Machine.identity?_identify halike.otherCoherent type
  refine .learning halike (.identify type) (.identify type) ?_
  refine ⟨.of_identity? hfirst, .of_identity? hsecond, ?_⟩
  rw [((identify_coherent halike.coherent type).identity?_eq_some_iff.mp hfirst).2,
    ((identify_coherent halike.otherCoherent type).identity?_eq_some_iff.mp hsecond).2]

/-- Each program builds a table of its own. -/
theorem tableFor (type : ValueType) :
    Agree machine other (liftM (Machine.tableFor type) : Action Machine OperationTable)
      (liftM (Machine.tableFor type)) fun machine other first second =>
        first.Alike machine other second := by
  obtain ⟨hlisted, htype⟩ := (tableFor_coherent halike.coherent type).table?_eq_some_iff.mp
    (Machine.table?_tableFor halike.coherent type)
  obtain ⟨hlisted', htype'⟩ := (tableFor_coherent halike.otherCoherent type).table?_eq_some_iff.mp
    (Machine.table?_tableFor halike.otherCoherent type)
  exact .learning halike (.tableFor type) (.tableFor type)
    ⟨hlisted, hlisted', htype.trans htype'.symm⟩

end Machine.Alike

end DynamicValue
