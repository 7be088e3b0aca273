/-
# What conversions do to a program

What a registry does to the program when it converts a value is done by the plans of its
conversions, to whatever depth they ask for each other. So a relation between programs that the
primitive changes for some types keep to is kept by every conversion that has to do with these types
only. Which types that are is a matter of the pairs that the conversions ask for, one after the
other.
-/

import DynamicValue.Proofs.Conversion.Requests
import DynamicValue.Proofs.Machine.Relations
import DynamicValue.Proofs.Registry.Settling

namespace DynamicValue

open DynamicValue.Action (Ends Respects RespectsAt)

/-! ## The values that are made for requests -/

theorem Machine.type?_of_identity? {machine : Machine} {type : ValueType}
    {identity : TypeIdentity} (hidentity : machine.identity? type = some identity) :
    identity.type? = some type := by
  simpa using List.find?_some hidentity

theorem Machine.identify_type? (type : ValueType) (machine : Machine) :
    (identify type machine).1.type? = some type := by
  cases hfound : machine.identity? type with
  | some identity => rw [identify_of_some hfound, type?_of_identity? hfound]
  | none => rw [identify_of_none hfound]

/-- What is built for a type is a table of this type. -/
theorem Machine.tableFor_type (type : ValueType) (machine : Machine) :
    (tableFor type machine).1.type = type := by
  cases hfound : machine.table? type with
  | some table =>
      rw [tableFor_of_some hfound]
      simpa using List.find?_some hfound
  | none => rw [tableFor_of_none hfound]

/-- What is read as a type is of this type. -/
theorem Slot.type_of_read {type : ValueType} {slot : Slot} {machine after : Machine}
    {contents : Instance} (hread : (slot.read type).run machine = (.ok contents, after)) :
    contents.payload.type = type := by
  have hchecked (action : Action Machine Instance) : Ends machine (do
      let found ← action
      if found.payload.type = type then pure found else Action.fault .wrongType)
      (fun contents _ => contents.payload.type = type) fun _ => True := by
    have hany : Ends machine action (fun _ _ => True) fun _ => True :=
      ⟨fun _ _ _ => trivial, fun _ _ _ => trivial⟩
    refine hany.bind fun found middle _ => ?_
    split
    · exact .pure ‹_›
    · exact .throw _ trivial
  have hends : Ends machine (slot.read type) (fun contents _ => contents.payload.type = type)
      fun _ => True := by
    unfold read
    split <;> exact hchecked _
  exact hends.ok contents after hread

/-- A payload that a slot was filled with is read again. -/
theorem Slot.read_of_fill {contents : Instance} {machine made : Machine} {slot : Slot}
    (hfill : fill contents machine = (slot, made)) :
    (slot.read contents.payload.type).run made = (.ok contents, made) := by
  unfold fill at hfill
  cases hinline : contents.payload.type.isInline with
  | true =>
      rw [hinline, if_pos rfl] at hfill
      cases hfill
      simp only [read, hinline]
      rw [Action.run_bind_ok _ (Action.run_pure _ _), if_pos rfl]
      rfl
  | false =>
      rw [hinline, if_neg Bool.false_ne_true, Action.bind_apply, Machine.allocate_apply] at hfill
      cases hfill
      have hload : (Machine.load machine.heap.length).run
          (machine.advance (machine.heap ++ [some contents]) 0 [] []) =
          (.ok contents, machine.advance (machine.heap ++ [some contents]) 0 [] []) := by
        unfold Machine.load
        rw [Action.run_bind_ok _ (Action.run_get _), Machine.advance_heap,
          List.getElem?_concat_length]
        rfl
      simp only [read, hinline]
      rw [Action.run_bind_ok _ hload, if_pos rfl]
      rfl

namespace Cell

variable {cell : Cell} {machine made after : Machine} {contents : Instance}

/-- The type of the payload of a dynamic value. -/
def type? (cell : Cell) : Option ValueType := cell.table?.map OperationTable.type

/-- A dynamic value with a copy of an instance. -/
def ofCopy (input : Instance) : Action Machine Cell := do
  ofInstance (← Machine.clone input)

/-- A payload that is found has the type that the table says. -/
theorem type?_of_contents? (hcontents : cell.contents?.run machine = (.ok (some contents), after)) :
    cell.type? = some contents.payload.type := by
  obtain ⟨table?, slot⟩ := cell
  cases table? with
  | none => cases hcontents
  | some table =>
      unfold contents? at hcontents
      simp only [] at hcontents
      rw [Action.run_map] at hcontents
      rcases hread : (slot.read table.type).run machine with ⟨outcome, final⟩
      rw [hread] at hcontents
      cases outcome with
      | error halt => cases hcontents
      | ok found =>
          cases hcontents
          rw [Slot.type_of_read hread]
          rfl

/-- A value that takes a payload over shows it, in whatever program it is made. -/
theorem contents?_of_ofInstance (hmade : ofInstance contents machine = (cell, made)) :
    cell.contents?.run made = (.ok (some contents), made) := by
  have htype := Machine.tableFor_type contents.payload.type machine
  rcases hfill : Slot.fill contents (Machine.tableFor contents.payload.type machine).2 with
    ⟨slot, after⟩
  unfold ofInstance at hmade
  rw [Action.bind_apply, Action.bind_apply, hfill] at hmade
  cases hmade
  unfold contents?
  simp only []
  rw [Action.run_map, htype, Slot.read_of_fill hfill]
  rfl

theorem contents?_of_ofPayload {payload : Payload}
    (hmade : ofPayload payload machine = (cell, made)) :
    cell.contents?.run made = (.ok (some ⟨machine.created, payload⟩), made) := by
  unfold ofPayload at hmade
  rw [Action.bind_apply, Machine.create_apply] at hmade
  exact contents?_of_ofInstance hmade

end Cell

/-! ## Plans -/

/-- A converter meets the requests for some pairs of types with some answers only, and keeps to a
relation on the way. -/
structure Converter.Obeys (converter : Converter) (types : ValueType → Prop)
    (pairs : ValueType → ValueType → Prop) (answers : Answers)
    (relation : Machine → Machine → Prop) : Prop where
  respects : ∀ (cell : Cell) (dest : ValueType), types dest →
    (∀ source, cell.type? = some source → pairs source dest) →
    Respects relation (converter cell dest)
  answers : ∀ (cell : Cell) (dest : ValueType) (machine after : Machine) (contents : Instance)
    (answer : Except ConversionError dest.Value),
    cell.contents?.run machine = (.ok (some contents), machine) →
    (converter cell dest).run machine = (.ok answer, after) →
    answers contents.payload dest answer

section Plans

variable {types : ValueType → Prop} {pairs : ValueType → ValueType → Prop} {answers : Answers}
  {relation : Machine → Machine → Prop} {converter : Converter} {α : Type}
  (hallows : Machine.Allows types relation)
  (hreports : ∀ machine event, relation machine (machine.advance machine.heap 0 [] [event]))
  (hpairs : ∀ source dest, pairs source dest → types source ∧ types dest)
include hallows hreports hpairs

/-- Carrying out a plan keeps to a relation that its requests keep to, if it asks for nothing but
what is met. -/
theorem Plan.run_respects (hobeys : Converter.Obeys converter types pairs answers relation)
    (input : Instance) (plan : Plan α) (hasks : plan.AsksOnly types pairs answers input.payload) :
    Respects relation (plan.run converter input) := by
  have hcomposes := hallows.toComposes
  -- a value that was made for a request is asked for, and the plan goes on with the answer
  have hrequest (dest : ValueType) (next : Except ConversionError dest.Value → Plan α)
      (source : Payload) (hpair : pairs source.type dest)
      (hnext : ∀ answer, answers source dest answer →
        Respects relation ((next answer).run converter input))
      (cell : Cell) (made : Machine) (contents : Instance) (hsource : contents.payload = source)
      (hcontents : cell.contents?.run made = (.ok (some contents), made)) :
      RespectsAt relation made (cell.inScope do
        (next (← converter cell dest)).run converter input) := by
    subst hsource
    have htype := Cell.type?_of_contents? hcontents
    refine cell.respectsAt_inScope hallows (.bind hcomposes ?_ ?_)
    · refine hobeys.respects cell dest (hpairs _ _ hpair).2 (fun type hfound => ?_) made
      rw [htype] at hfound
      cases hfound
      exact hpair
    · intro answer after hanswer
      exact hnext answer (hobeys.answers cell dest made after contents answer hcontents hanswer)
        after
  induction plan with
  | give value => exact .pure hcomposes _
  | fail error => exact .pure hcomposes _
  | identify type next ih =>
      intro machine
      refine .bind_of_ok hcomposes (Action.run_lift _ machine)
        (hallows.identify type machine hasks.1) ?_
      exact ih _ (hasks.2 _ (Machine.identify_type? type machine)) _
  | report event next ih =>
      intro machine
      refine .bind_of_ok hcomposes (Action.run_lift _ machine) ?_ (ih hasks _)
      rw [Machine.report_apply]
      exact hreports machine event
  | convert source dest next ih =>
      intro machine
      refine .bind_of_ok hcomposes (Action.run_lift _ machine)
        (Cell.respects_ofPayload hallows source (hpairs _ _ hasks.1).1 machine) ?_
      exact hrequest dest next source hasks.1 (fun answer hanswer => ih answer (hasks.2 _ hanswer))
        _ _ _ rfl (Cell.contents?_of_ofPayload rfl)
  | convertCopy dest next ih =>
      intro machine
      have hcloned := Machine.respects_clone hallows input machine
      cases hcopied : input.payload.copied with
      | error halt =>
          have hclone := Machine.clone_run_error hcopied machine
          exact .of_run (Action.run_bind_error _ hclone) (hcloned.related hclone)
      | ok copy =>
          have hclone := Machine.clone_run_ok hcopied machine
          obtain rfl := Payload.eq_copy_of_copied hcopied
          have htypes : types input.payload.copy.type := by
            rw [Payload.copy_type]
            exact (hpairs _ _ hasks.1).1
          refine .bind_of_ok hcomposes hclone (hcloned.related hclone) ?_
          refine .bind_of_ok hcomposes (Action.run_lift _ _)
            (Cell.respects_ofInstance hallows _ htypes _) ?_
          refine hrequest dest next input.payload.copy ?_
            (fun answer hanswer => ih answer (hasks.2 _ hanswer)) _ _ _ rfl
            (Cell.contents?_of_ofInstance rfl)
          rw [Payload.copy_type]
          exact hasks.1

end Plans

/-! ## Casts and coercions -/

/-- A payload that has a value under a type consists of the two. -/
theorem Payload.eq_of_as? {payload : Payload} {type : ValueType} {value : type.Value}
    (hvalue : payload.as? type = some value) : payload = ⟨type, value⟩ := by
  obtain ⟨own, contents⟩ := payload
  unfold as? at hvalue
  split at hvalue
  · rename_i hsame
    cases hsame
    cases hvalue
    rfl
  · cases hvalue

/-- What a registry can answer to a request for the conversion of a payload: what comes of coercing
a value with this payload, to whatever depth. -/
def Registry.CanAnswer (registry : Registry) : Answers := fun payload dest answer =>
  ∃ (depth : Nat) (cell : Cell) (machine after : Machine) (contents : Instance),
    cell.contents?.run machine = (.ok (some contents), machine) ∧ contents.payload = payload ∧
      (registry.coerceWithin depth cell dest).run machine = (.ok answer, after)

/-- The conversions of a registry for some pairs of types ask for no other pairs than these, and
have only to do with the given types. -/
structure Registry.Confines (registry : Registry) (types : ValueType → Prop)
    (pairs : ValueType → ValueType → Prop) : Prop where
  covers : ∀ source dest, pairs source dest → types source ∧ types dest
  asksOnly : ∀ entry ∈ registry.entries, pairs entry.source entry.dest → ∀ value,
    (entry.conversion value).AsksOnly types pairs registry.CanAnswer ⟨entry.source, value⟩

/-- A registry converts from one type, if there is one, to another with the given types only: these
two are among them, and its conversions ask for no identities of other types and for no conversions
between other ones. -/
def Registry.ConvertsAmong (registry : Registry) (types : ValueType → Prop)
    (source? : Option ValueType) (dest : ValueType) : Prop :=
  types dest ∧ ∃ pairs, registry.Confines types pairs ∧ ∀ source, source? = some source →
    pairs source dest

/-- If all types and pairs are allowed, all registries keep to them. -/
theorem Plan.asksOnly_of_all {α : Type} {types : ValueType → Prop}
    {pairs : ValueType → ValueType → Prop} (htypes : ∀ type, types type)
    (hpairs : ∀ source dest, pairs source dest) (answers : Answers) (input : Payload)
    (plan : Plan α) : plan.AsksOnly types pairs answers input := by
  induction plan with
  | give => trivial
  | fail => trivial
  | identify type _ ih => exact ⟨htypes type, fun identity _ => ih identity⟩
  | report _ _ ih => exact ih
  | convert _ _ _ ih => exact ⟨hpairs _ _, fun answer _ => ih answer⟩
  | convertCopy _ _ ih => exact ⟨hpairs _ _, fun answer _ => ih answer⟩

theorem Registry.confines_all (registry : Registry) :
    registry.Confines (fun _ => True) fun _ _ => True where
  covers _ _ _ := ⟨trivial, trivial⟩
  asksOnly _ _ _ _ := Plan.asksOnly_of_all (fun _ => trivial) (fun _ _ => trivial) _ _ _

section Casts

variable {types : ValueType → Prop} {pairs : ValueType → ValueType → Prop}
  {relation : Machine → Machine → Prop} {converter : Converter} {registry : Registry}
  {machine : Machine} {receiver : Receiver}
  (hallows : Machine.Allows types relation)
include hallows

namespace Receiver

theorem respects_discard (receiver : Receiver) : Respects relation receiver.discard := by
  unfold discard
  split
  · exact Machine.respects_discard hallows _
  · exact .pure hallows.toComposes _

theorem respects_destroy (receiver : Receiver) : Respects relation receiver.destroy := by
  unfold destroy
  split
  · exact Machine.respects_destroy hallows _
  · exact .pure hallows.toComposes _

end Receiver

/-- The relation of the programs of two casts. -/
theorem Casting.composes_machine :
    Composes fun state after : Casting => relation state.1 after.1 :=
  hallows.toComposes.on Prod.fst

omit hallows in
/-- What is done with the program alone. -/
theorem Casting.respectsAt_onMachine {α : Type} {action : Action Machine α}
    (haction : RespectsAt relation machine action) :
    RespectsAt (fun state after : Casting => relation state.1 after.1) (machine, receiver)
      (Casting.onMachine action) := haction

theorem Casting.respects_receive (contents : Instance) :
    Respects (fun state after : Casting => relation state.1 after.1)
      (Casting.receive contents) := by
  have hcomposes := Casting.composes_machine hallows
  refine .bind hcomposes (.get hcomposes) fun state => ?_
  refine .bind hcomposes (.changing fun state => hallows.refl state.1) fun _ state => ?_
  exact Casting.respectsAt_onMachine (Receiver.respects_destroy hallows _ state.1)

variable (hreports : ∀ machine event, relation machine (machine.advance machine.heap 0 [] [event]))
  (hconfines : registry.Confines types pairs)
include hreports hconfines

/-- A cast calls an entry only for the types that the entry is for. -/
theorem RegistryEntry.apply_respectsAt {entry : RegistryEntry} (hmem : entry ∈ registry.entries)
    (hobeys : Converter.Obeys converter types pairs registry.CanAnswer relation)
    (source : Instance) (hpair : pairs source.payload.type receiver.type) :
    RespectsAt (fun state after : Casting => relation state.1 after.1) (machine, receiver)
      (entry.apply converter source) := by
  have hcomposes := Casting.composes_machine hallows
  refine .bind_of_ok hcomposes (Action.run_get _) (hallows.refl machine) ?_
  split
  · exact .pure hcomposes _
  · rename_i value hvalue
    have hsource := Payload.eq_of_as? hvalue
    simp only []
    split
    · rename_i hreceiver
      have hentry : pairs entry.source entry.dest := by
        rwa [hsource, hreceiver] at hpair
      have hasks := hconfines.asksOnly entry hmem hentry value
      rw [← hsource] at hasks
      have hplan := (entry.conversion value).run_respects hallows hreports hconfines.covers hobeys
        source hasks
      refine .bind hcomposes (Casting.respectsAt_onMachine (hplan machine)) fun result state _ => ?_
      split
      · exact .pure hcomposes _
      · refine .bind hcomposes (Casting.respectsAt_onMachine
          (Machine.respects_create hallows _ state.1)) fun contents state _ => ?_
        exact Respects.bind hcomposes (Casting.respects_receive hallows contents)
          (fun _ => .pure hcomposes _) state
    · exact .pure hcomposes _

namespace Registry

/-- A cast has to do with the types of its source and its receiver, whatever types it claims. -/
theorem castWith_respectsAt
    (hobeys : Converter.Obeys converter types pairs registry.CanAnswer relation)
    (source : Instance) (sourceType destType : TypeIdentity)
    (hpair : pairs source.payload.type receiver.type) :
    RespectsAt (fun state after : Casting => relation state.1 after.1) (machine, receiver)
      (registry.castWith converter source sourceType destType) := by
  have hcomposes := Casting.composes_machine hallows
  unfold castWith
  split
  · exact .pure hcomposes _
  · split
    · exact .pure hcomposes _
    · split
      · exact .pure hcomposes _
      · rename_i entry hlookup
        exact entry.apply_respectsAt hallows hreports hconfines (List.mem_of_find?_eq_some hlookup)
          hobeys source hpair

theorem convertPayload_respects
    (hobeys : Converter.Obeys converter types pairs registry.CanAnswer relation)
    (source : Instance) (sourceType destType : TypeIdentity) (dest : ValueType)
    (hpair : pairs source.payload.type dest) :
    Respects relation (registry.convertPayload converter source sourceType destType dest) := by
  have hcomposes := hallows.toComposes
  intro machine
  have hcast : RespectsAt (fun state after : Casting => relation state.1 after.1)
      (machine, .blank dest) (registry.castWith converter source sourceType destType) :=
    castWith_respectsAt hallows hreports hconfines hobeys source sourceType destType hpair
  refine .bind hcomposes (.withLocal hcomposes hcast (Receiver.respects_discard hallows)) ?_
  rintro ⟨outcome, receiver⟩ after -
  simp only []
  split
  · exact .pure hcomposes _
  · exact .pure hcomposes _
  · refine .bind hcomposes (Machine.respects_discard hallows _ after) fun _ final _ => ?_
    split
    · exact .pure hcomposes _
    · exact .pure hcomposes _

/-- A coercion has to do with the type of its value, the destination and what the conversion of the
one to the other asks for. -/
theorem coerceWithin_obeys (depth : Nat) :
    Converter.Obeys (registry.coerceWithin depth) types pairs registry.CanAnswer relation := by
  have hcomposes := hallows.toComposes
  refine ⟨?_, fun cell dest machine after contents answer hcontents hrun =>
    ⟨depth, cell, machine, after, contents, hcontents, rfl, hrun⟩⟩
  induction depth with
  | zero => exact fun cell dest _ _ => .throw hcomposes _
  | succ depth ih =>
      intro cell dest htype hpair
      have hobeys : Converter.Obeys (registry.coerceWithin depth) types pairs registry.CanAnswer
          relation := ⟨ih, fun cell dest machine after contents answer hcontents hrun =>
        ⟨depth, cell, machine, after, contents, hcontents, rfl, hrun⟩⟩
      rw [coerceWithin_succ]
      refine Respects.bind hcomposes (.lift fun machine => hallows.identify dest machine htype)
        fun destType machine => ?_
      split
      · exact .pure hcomposes _
      · refine .bind hcomposes (cell.respects_contents? hcomposes machine)
          fun contents? after hcontents => ?_
        split
        · exact .pure hcomposes _
        · exact convertPayload_respects hallows hreports hconfines hobeys _ _ _ _
            (hpair _ (Cell.type?_of_contents? hcontents)) after

theorem coerce_respects {cell : Cell} {dest : ValueType} (hdest : types dest)
    (hpair : ∀ source, cell.type? = some source → pairs source dest) :
    Respects relation (registry.coerce cell dest) :=
  (coerceWithin_obeys hallows hreports hconfines _).respects cell dest hdest hpair

theorem cast_respectsAt (source : Instance) (sourceType destType : TypeIdentity)
    (hpair : pairs source.payload.type receiver.type) :
    RespectsAt (fun state after : Casting => relation state.1 after.1) (machine, receiver)
      (registry.cast source sourceType destType) :=
  castWith_respectsAt hallows hreports hconfines (coerceWithin_obeys hallows hreports hconfines _)
    source sourceType destType hpair

end Registry

end Casts

end DynamicValue
