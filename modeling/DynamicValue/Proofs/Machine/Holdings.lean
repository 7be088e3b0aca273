/-
# Who holds what

Every payload that has been created and not yet destroyed is held by someone, and only by one: by a
dynamic value, or by an operation that is under way. A holding is such a payload together with the
box that it is in, if it is in one. A list of holdings accounts for a program if it lists each live
payload once and each full box once.

The primitive operations on payloads and boxes are stated as changes of such a list. Whatever else
is in the list stays, so what one holder does is never noticed by another.
-/

import DynamicValue.Proofs.Action
import Mathlib.Data.List.Perm.Basic
import Mathlib.Data.List.Nodup

namespace DynamicValue

namespace Payload

/-- What copying a payload reports. -/
def copyEvents (payload : Payload) : List Event :=
  match payload.probe? with
  | some probe => [.cloned probe]
  | none => []

/-- What comes of copying a payload: the copy, or the panic of a probe that fails when copied. -/
def copied (payload : Payload) : Except Halt Payload :=
  match payload.probe? with
  | some probe =>
    if probe.bomb = .onClone then .error (.panic ("clone bomb " ++ probe.text))
    else .ok payload.copy
  | none => .ok payload.copy

/-- What destroying a payload reports. -/
def dropEvents (payload : Payload) : List Event :=
  match payload.probe? with
  | some probe => [.dropped probe]
  | none => []

/-- What comes of destroying a payload: the panic of a probe that fails when destroyed. -/
def dropped (payload : Payload) : Except Halt Unit :=
  match payload.probe? with
  | some probe =>
    if probe.bomb = .onDrop then .error (.panic ("drop bomb " ++ probe.text)) else .ok ()
  | none => .ok ()

/-- What destroying the payload of a value reports, if the value has one. -/
def dropEventsOf : Option Payload → List Event
  | some payload => payload.dropEvents
  | none => []

/-- What comes of destroying the payload of a value, if the value has one. -/
def droppedOf : Option Payload → Except Halt Unit
  | some payload => payload.dropped
  | none => .ok ()

/-- A copy that is made is the copy of its original. -/
theorem eq_copy_of_copied {payload copy : Payload} (hcopied : payload.copied = .ok copy) :
    copy = payload.copy := by
  unfold copied at hcopied
  split at hcopied
  · split at hcopied
    · cases hcopied
    · exact (Except.ok.inj hcopied).symm
  · exact (Except.ok.inj hcopied).symm

/-- A copy has the type of its original. -/
theorem type_of_copied {payload copy : Payload} (hcopied : payload.copied = .ok copy) :
    copy.type = payload.type := by
  rw [eq_copy_of_copied hcopied, copy_type]

end Payload

namespace Machine

variable {machine : Machine}

/-- The program after its heap has become the given one, `created` payloads more have been created,
the given ones have been destroyed, and the given events have been reported. Identities, tables,
log lines and the global registry are as before. -/
def advance (machine : Machine) (heap : List (Option Instance)) (created : Nat)
    (destroyed : List Nat) (events : List Event) : Machine :=
  { machine with
    heap := heap
    created := machine.created + created
    destroyed := machine.destroyed ++ destroyed
    events := machine.events ++ events }

section Advance

variable (machine : Machine) (heap : List (Option Instance)) (created : Nat) (destroyed : List Nat)
  (events : List Event)

@[simp] theorem advance_heap : (machine.advance heap created destroyed events).heap = heap := rfl

@[simp] theorem advance_created :
    (machine.advance heap created destroyed events).created = machine.created + created := rfl

@[simp] theorem advance_destroyed :
    (machine.advance heap created destroyed events).destroyed =
      machine.destroyed ++ destroyed := rfl

@[simp] theorem advance_events :
    (machine.advance heap created destroyed events).events = machine.events ++ events := rfl

@[simp] theorem advance_identities :
    (machine.advance heap created destroyed events).identities = machine.identities := rfl

@[simp] theorem advance_tables :
    (machine.advance heap created destroyed events).tables = machine.tables := rfl

@[simp] theorem advance_log : (machine.advance heap created destroyed events).log = machine.log :=
  rfl

@[simp] theorem advance_global? :
    (machine.advance heap created destroyed events).global? = machine.global? := rfl

@[simp] theorem advance_self : machine.advance machine.heap 0 [] [] = machine := by
  simp [advance]

@[simp] theorem advance_advance (heap' : List (Option Instance)) (created' : Nat)
    (destroyed' : List Nat) (events' : List Event) :
    (machine.advance heap created destroyed events).advance heap' created' destroyed' events' =
      machine.advance heap' (created + created') (destroyed ++ destroyed') (events ++ events') := by
  simp [advance, Nat.add_assoc]

end Advance

/-! ## The life of a payload -/

theorem create_apply (payload : Payload) (machine : Machine) :
    create payload machine =
      (⟨machine.created, payload⟩, machine.advance machine.heap 1 [] []) := by
  simp only [advance, List.append_nil]
  rfl

theorem report_apply (event : Event) (machine : Machine) :
    Machine.report event machine = ((), machine.advance machine.heap 0 [] [event]) := by
  simp only [advance, List.append_nil]
  rfl

theorem discard_apply (doomed : Instance) (machine : Machine) :
    discard doomed machine =
      ((), machine.advance machine.heap 0 [doomed.serial] doomed.payload.dropEvents) := by
  unfold discard Payload.dropEvents
  cases doomed.payload.probe? with
  | none =>
      simp only [advance, List.append_nil]
      rfl
  | some probe => rfl

/-- A payload is destroyed even if its end panics. -/
theorem destroy_run (doomed : Instance) (machine : Machine) :
    (destroy doomed).run machine =
      (doomed.payload.dropped,
        machine.advance machine.heap 0 [doomed.serial] doomed.payload.dropEvents) := by
  unfold destroy
  rw [Action.run_bind_ok _ (Action.run_lift _ _), discard_apply]
  unfold Payload.dropped
  cases doomed.payload.probe? with
  | none => rfl
  | some probe =>
      simp only []
      split <;> rfl

/-- A copy that panics creates nothing. -/
theorem clone_run_error {source : Instance} {halt : Halt}
    (hcopied : source.payload.copied = .error halt) (machine : Machine) :
    (clone source).run machine =
      (.error halt, machine.advance machine.heap 0 [] source.payload.copyEvents) := by
  unfold Payload.copied at hcopied
  unfold clone Payload.copyEvents
  cases hprobe : source.payload.probe? with
  | none => simp [hprobe] at hcopied
  | some probe =>
      simp only [hprobe] at hcopied
      split at hcopied
      · rename_i hbomb
        cases hcopied
        simp only [advance, List.append_nil, hbomb, if_true]
        rfl
      · cases hcopied

/-- A copy that succeeds is a new payload. -/
theorem clone_run_ok {source : Instance} {copy : Payload}
    (hcopied : source.payload.copied = .ok copy) (machine : Machine) :
    (clone source).run machine =
      (.ok ⟨machine.created, copy⟩,
        machine.advance machine.heap 1 [] source.payload.copyEvents) := by
  unfold Payload.copied at hcopied
  unfold clone Payload.copyEvents
  cases hprobe : source.payload.probe? with
  | none =>
      simp only [hprobe, Except.ok.injEq] at hcopied
      subst hcopied
      simp only [advance, List.append_nil]
      rfl
  | some probe =>
      simp only [hprobe] at hcopied
      split at hcopied
      · cases hcopied
      · rename_i hbomb
        cases hcopied
        simp only [advance, List.append_nil, hbomb, if_false]
        rfl

end Machine

/-! ## Holdings -/

/-- A payload that is held, and the box that it is in, if it is in one. -/
structure Holding where
  box? : Option Nat
  contents : Instance

namespace Holding

/-- The serial number of the payload. -/
def serial (holding : Holding) : Nat := holding.contents.serial

/-- The payload itself. -/
def payload (holding : Holding) : Payload := holding.contents.payload

/-- A payload that is in no box. -/
def loose (contents : Instance) : Holding := ⟨none, contents⟩

/-- The same place with another payload in it. -/
def withContents (holding : Holding) (contents : Instance) : Holding := ⟨holding.box?, contents⟩

/-- The heap after a payload was written over the one that is held. A payload that is in no box is
not on the heap. -/
def writtenHeap (holding : Holding) (heap : List (Option Instance)) (contents : Instance) :
    List (Option Instance) :=
  match holding.box? with
  | some address => heap.set address (some contents)
  | none => heap

@[simp] theorem serial_mk (box? : Option Nat) (contents : Instance) :
    serial ⟨box?, contents⟩ = contents.serial := rfl

@[simp] theorem serial_loose (contents : Instance) :
    (loose contents).serial = contents.serial := rfl

@[simp] theorem serial_withContents (holding : Holding) (contents : Instance) :
    (holding.withContents contents).serial = contents.serial := rfl

end Holding

namespace Machine

/-- A list of holdings accounts for a program: the payloads in it and the destroyed ones are the
payloads created so far, each once, and the full boxes are the boxes in it. -/
structure Accounts (machine : Machine) (holdings : List Holding) : Prop where
  instances : (holdings.map Holding.serial ++ machine.destroyed).Perm (List.range machine.created)
  boxes : ∀ address contents,
    machine.heap[address]? = some (some contents) ↔ ⟨some address, contents⟩ ∈ holdings

namespace Accounts

variable {machine : Machine} {holding : Holding} {holdings others : List Holding}
  {contents : Instance} {address : Nat}

/-- A program that has not done anything yet has nothing to account for. -/
theorem fresh : Machine.fresh.Accounts [] where
  instances := .refl _
  boxes address contents := by simp [Machine.fresh]

theorem perm (haccounts : machine.Accounts holdings) (hperm : holdings.Perm others) :
    machine.Accounts others where
  instances := ((hperm.map _).symm.append_right _).trans haccounts.instances
  boxes address contents := (haccounts.boxes address contents).trans hperm.mem_iff

/-- No payload is held twice, and no destroyed one is held. -/
theorem nodup (haccounts : machine.Accounts holdings) :
    (holdings.map Holding.serial ++ machine.destroyed).Nodup :=
  haccounts.instances.nodup_iff.mpr List.nodup_range

/-- A holding that is in the list once is not in the rest of it. -/
theorem not_mem_tail (haccounts : machine.Accounts (holding :: holdings)) : holding ∉ holdings := by
  intro hmem
  have hnodup := haccounts.nodup.of_append_left
  rw [List.map_cons, List.nodup_cons] at hnodup
  exact hnodup.1 (List.mem_map_of_mem hmem)

/-- No two holdings are in the same box. -/
theorem box_not_mem_tail (haccounts : machine.Accounts (⟨some address, contents⟩ :: holdings))
    (other : Instance) : ⟨some address, other⟩ ∉ holdings := by
  intro hmem
  have hhere := (haccounts.boxes address contents).mpr List.mem_cons_self
  have hthere := (haccounts.boxes address other).mpr (List.mem_cons_of_mem _ hmem)
  rw [hhere, Option.some.injEq, Option.some.injEq] at hthere
  exact haccounts.not_mem_tail (hthere ▸ hmem)

/-- What the boxes hold does not depend on how the program counts and reports. -/
theorem of_instances (haccounts : machine.Accounts holdings) {created : Nat}
    {destroyed : List Nat} {events : List Event}
    (hboxes : ∀ address contents, ⟨some address, contents⟩ ∈ others ↔
      ⟨some address, contents⟩ ∈ holdings)
    (hinstances : (others.map Holding.serial ++ (machine.destroyed ++ destroyed)).Perm
      (List.range (machine.created + created))) :
    (machine.advance machine.heap created destroyed events).Accounts others where
  instances := hinstances
  boxes address contents :=
    (haccounts.boxes address contents).trans (hboxes address contents).symm

/-- A new payload is held by the operation that made it. -/
theorem create (haccounts : machine.Accounts holdings) (payload : Payload) (events : List Event) :
    (machine.advance machine.heap 1 [] events).Accounts
      (.loose ⟨machine.created, payload⟩ :: holdings) := by
  refine haccounts.of_instances (fun address contents => by simp [Holding.loose]) ?_
  rw [List.append_nil, List.range_succ, List.map_cons, List.cons_append]
  exact (haccounts.instances.cons _).trans (List.perm_append_singleton _ _).symm

/-- A destroyed payload is held by no one. -/
theorem discard (haccounts : machine.Accounts (.loose contents :: holdings))
    (events : List Event) :
    (machine.advance machine.heap 0 [contents.serial] events).Accounts holdings := by
  refine haccounts.of_instances (fun address other => by simp [Holding.loose]) ?_
  refine .trans ?_ haccounts.instances
  rw [List.map_cons, List.cons_append, ← List.append_assoc]
  exact List.perm_append_singleton _ _

/-- Reports do not change who holds what. -/
theorem report (haccounts : machine.Accounts holdings) (events : List Event) :
    (machine.advance machine.heap 0 [] events).Accounts holdings :=
  haccounts.of_instances (fun _ _ => Iff.rfl) (by simpa using haccounts.instances)

/-- A payload that is put on the heap is held by its box. -/
theorem allocate (haccounts : machine.Accounts (.loose contents :: holdings)) :
    (machine.advance (machine.heap ++ [some contents]) 0 [] []).Accounts
      (⟨some machine.heap.length, contents⟩ :: holdings) where
  instances := by simpa using haccounts.instances
  boxes address other := by
    have hbox := haccounts.boxes address other
    simp only [Holding.loose, List.mem_cons, Holding.mk.injEq, reduceCtorEq, false_and,
      false_or] at hbox
    simp only [advance_heap, List.mem_cons, Holding.mk.injEq, Option.some.injEq]
    rcases Nat.lt_trichotomy address machine.heap.length with hbelow | hnew | habove
    · rw [List.getElem?_append_left hbelow, hbox]
      simp [Nat.ne_of_lt hbelow]
    · have hnone : ⟨some address, other⟩ ∉ holdings := by
        simp [← hbox, List.getElem?_eq_none (Nat.le_of_eq hnew.symm)]
      simp [hnew, eq_comm] at hnone ⊢
      exact fun hmem => absurd hmem hnone
    · have hnone : ⟨some address, other⟩ ∉ holdings := by
        simp [← hbox, List.getElem?_eq_none (Nat.le_of_lt habove)]
      rw [List.getElem?_eq_none (by simp; omega)]
      simp [hnone, Nat.ne_of_gt habove]

/-- A box that has been replaced or emptied: its own contents change, and those of all other boxes
stay. -/
theorem getElem?_set_box (haccounts : machine.Accounts (⟨some address, contents⟩ :: holdings))
    (entry : Option Instance) (other : Nat) :
    (machine.heap.set address entry)[other]? =
      if address = other then some entry else machine.heap[other]? := by
  have hhere := (haccounts.boxes address contents).mpr List.mem_cons_self
  obtain ⟨hlength, -⟩ := List.getElem?_eq_some_iff.mp hhere
  simp only [List.getElem?_set, hlength, if_true]

/-- The box of a payload is emptied, and the payload is in no box afterwards. -/
theorem free (haccounts : machine.Accounts (⟨some address, contents⟩ :: holdings)) :
    (machine.advance (machine.heap.set address none) 0 [] []).Accounts
      (.loose contents :: holdings) where
  instances := by simpa using haccounts.instances
  boxes other found := by
    have hbox := haccounts.boxes other found
    simp only [List.mem_cons, Holding.mk.injEq, Option.some.injEq] at hbox
    simp only [advance_heap, haccounts.getElem?_set_box, Holding.loose, List.mem_cons,
      Holding.mk.injEq, reduceCtorEq, false_and, false_or]
    by_cases hsame : address = other
    · subst hsame
      simp [haccounts.box_not_mem_tail found]
    · simp [hsame, hbox, Ne.symm hsame]

/-- A box gets another payload. The holdings outside the box may change in their payloads, so that
the payload that was in the box can go elsewhere. -/
theorem store (haccounts : machine.Accounts (⟨some address, contents⟩ :: holdings))
    {replacement : Instance}
    (hserials : (replacement.serial :: others.map Holding.serial).Perm
      (contents.serial :: holdings.map Holding.serial))
    (hboxes : ∀ other found, ⟨some other, found⟩ ∈ others ↔ ⟨some other, found⟩ ∈ holdings) :
    (machine.advance (machine.heap.set address (some replacement)) 0 [] []).Accounts
      (⟨some address, replacement⟩ :: others) where
  instances := by
    refine .trans ?_ haccounts.instances
    simpa using hserials.append_right _
  boxes other found := by
    have hbox := haccounts.boxes other found
    simp only [List.mem_cons, Holding.mk.injEq, Option.some.injEq] at hbox
    simp only [advance_heap, haccounts.getElem?_set_box, List.mem_cons, Holding.mk.injEq,
      Option.some.injEq, hboxes]
    by_cases hsame : address = other
    · subst hsame
      simp [haccounts.box_not_mem_tail found, eq_comm]
    · simp [hsame, hbox, Ne.symm hsame]

/-- A payload is written over one that is held, which is in no box afterwards. -/
theorem exchange (haccounts : machine.Accounts (holding :: .loose contents :: holdings)) :
    (machine.advance (holding.writtenHeap machine.heap contents) 0 [] []).Accounts
      (holding.withContents contents :: .loose holding.contents :: holdings) := by
  obtain ⟨box?, old⟩ := holding
  cases box? with
  | none => exact (haccounts.report []).perm (.swap _ _ _)
  | some address =>
      exact haccounts.store (by simpa using .swap _ _ _) (fun _ _ => by simp [Holding.loose])

/-- A payload that is held changes in its place. -/
theorem amend (haccounts : machine.Accounts (holding :: holdings)) {amended : Instance}
    (hserial : amended.serial = holding.serial) :
    (machine.advance (holding.writtenHeap machine.heap amended) 0 [] []).Accounts
      (holding.withContents amended :: holdings) := by
  obtain ⟨box?, old⟩ := holding
  rw [Holding.serial_mk] at hserial
  cases box? with
  | none =>
      refine haccounts.of_instances (fun _ _ => by simp [Holding.withContents]) ?_
      simpa [hserial] using haccounts.instances
  | some address =>
      exact haccounts.store (by simpa using .of_eq (by rw [hserial])) (fun _ _ => Iff.rfl)

end Accounts

/-! ## Boxes -/

variable {machine : Machine} {holdings : List Holding} {contents : Instance} {address : Nat}

theorem allocate_apply (contents : Instance) (machine : Machine) :
    allocate contents machine =
      (machine.heap.length, machine.advance (machine.heap ++ [some contents]) 0 [] []) := by
  simp only [advance, List.append_nil]
  rfl

/-- A box that is held is full. -/
theorem load_run (haccounts : machine.Accounts holdings)
    (hmem : ⟨some address, contents⟩ ∈ holdings) :
    (load address).run machine = (.ok contents, machine) := by
  unfold load
  rw [Action.run_bind_ok _ (Action.run_get _), (haccounts.boxes address contents).mpr hmem]
  rfl

theorem store_apply (address : Nat) (contents : Instance) (machine : Machine) :
    store address contents machine =
      ((), machine.advance (machine.heap.set address (some contents)) 0 [] []) := by
  simp only [advance, List.append_nil]
  rfl

/-- A box that is held can be emptied. -/
theorem free_run (haccounts : machine.Accounts holdings)
    (hmem : ⟨some address, contents⟩ ∈ holdings) :
    (free address).run machine =
      (.ok contents, machine.advance (machine.heap.set address none) 0 [] []) := by
  unfold free
  rw [Action.run_bind_ok _ (load_run haccounts hmem)]
  simp only [advance, List.append_nil]
  rfl

end Machine

end DynamicValue
