/-
# What changes of values and accesses do to a program

A value that is being changed is next to its program. The changes are made of operations on the
program and of writing the value itself, so a relation between programs that the primitive changes
keep to is kept by them. A typed access comes down to the same, with the global registry.
-/

import DynamicValue.Cell.Assignment
import DynamicValue.Proofs.Registry.Relations

namespace DynamicValue

open DynamicValue.Action (Respects RespectsAt)

variable {types : ValueType → Prop} {relation : Machine → Machine → Prop}

/-! ## Values that are being changed -/

/-- A relation between programs, as one between values that are being changed in them. -/
def Focus.Related (relation : Machine → Machine → Prop) (focus after : Focus) : Prop :=
  relation focus.machine after.machine

section Changing

variable (hallows : Machine.Allows types relation)
include hallows

namespace Focus

theorem composes_related : Composes (Related relation) := hallows.toComposes.on Focus.machine

omit hallows in
theorem respects_onMachine {α : Type} {action : Action Machine α}
    (haction : Respects relation action) : Respects (Related relation) (onMachine action) :=
  haction.within fun _ _ hrelated => hrelated

theorem respects_current : Respects (Related relation) current :=
  .bind (composes_related hallows) (.get (composes_related hallows)) fun _ =>
    .pure (composes_related hallows) _

theorem respects_put (cell : Cell) : Respects (Related relation) (put cell) :=
  .changing fun focus => hallows.refl focus.machine

end Focus

namespace Cell

open Focus

theorem respects_reset : Respects (Related relation) reset := by
  have hcomposes := composes_related hallows
  exact .bind hcomposes (respects_current hallows) fun cell =>
    .bind hcomposes (respects_put hallows _) fun _ =>
      respects_onMachine (cell.respects_destroy hallows)

theorem respects_overwrite (table : OperationTable) (contents : Instance) :
    Respects (Related relation) (overwrite table contents) := by
  have hcomposes := composes_related hallows
  exact .bind hcomposes (respects_current hallows) fun cell =>
    .bind hcomposes (respects_onMachine (cell.slot.respects_exchange hallows contents)) fun _ =>
      .bind hcomposes (respects_put hallows _) fun _ =>
        respects_onMachine (Machine.respects_destroy hallows _)

theorem respects_assign (other : Cell) : Respects (Related relation) (assign other) := by
  have hcomposes := composes_related hallows
  have hclone : Respects (Related relation)
      (do put (← onMachine other.clone) : Action Focus Unit) :=
    .bind hcomposes (respects_onMachine (other.respects_clone hallows)) fun copied =>
      respects_put hallows copied
  refine .bind hcomposes (respects_current hallows) fun cell => ?_
  split
  · exact respects_reset hallows
  · exact hclone
  · split
    · refine .bind hcomposes (respects_onMachine ?_) fun copied =>
        respects_overwrite hallows _ copied
      exact .bind hallows.toComposes (Slot.respects_read hallows.toComposes _ _)
        (Machine.respects_clone hallows)
    · exact .bind hcomposes (respects_reset hallows) fun _ => hclone

/-- A new payload may need a table of its type. -/
theorem respects_assignInstance (contents : Instance) (htype : types contents.payload.type) :
    Respects (Related relation) (assignInstance contents) := by
  have hcomposes := composes_related hallows
  refine .bind hcomposes (respects_current hallows) fun cell =>
    .bind hcomposes (respects_onMachine (cell.respects_instanceOf? hallows.toComposes _))
      fun mine? => ?_
  split
  · exact respects_overwrite hallows _ _
  · exact .bind hcomposes (.unwinding hcomposes (respects_reset hallows)
        (respects_onMachine (Machine.respects_discard hallows contents))) fun _ =>
      .bind hcomposes (respects_onMachine (respects_ofInstance hallows contents htype))
        fun cell => respects_put hallows cell

theorem respects_take : Respects (Related relation) take := by
  have hcomposes := composes_related hallows
  exact .bind hcomposes (respects_current hallows) fun _ =>
    .bind hcomposes (respects_put hallows _) fun _ => .pure hcomposes _

theorem respects_mutate (contents : Instance) : Respects (Related relation) (mutate contents) := by
  have hcomposes := composes_related hallows
  refine .bind hcomposes (respects_current hallows) fun cell =>
    .bind hcomposes (respects_onMachine (cell.respects_instanceOf? hallows.toComposes _))
      fun mine? => ?_
  split
  · exact .bind hcomposes (respects_overwrite hallows _ _) fun _ => .pure hcomposes _
  · exact .bind hcomposes (respects_onMachine (Machine.respects_destroy hallows contents))
      fun _ => .pure hcomposes _

theorem respects_append (suffix : String) : Respects (Related relation) (append suffix) := by
  have hcomposes := composes_related hallows
  refine .bind hcomposes (respects_current hallows) fun cell =>
    .bind hcomposes (respects_onMachine (cell.respects_instanceOf? hallows.toComposes _))
      fun mine? => ?_
  split
  · exact .bind hcomposes (respects_onMachine (Slot.respects_exchange hallows _ _)) fun _ =>
      .bind hcomposes (respects_put hallows _) fun _ => .pure hcomposes _
  · exact .pure hcomposes _

end Cell

end Changing

/-! ## Typed access -/

namespace Cell

variable {cell : Cell} {type : ValueType} {machine : Machine}

section Access

variable (hcomposes : Composes relation)
  (hmade : relation machine (Machine.globalRegistry machine).2)
  (hcoerce : Respects relation ((Machine.globalRegistry machine).1.coerce cell type))
include hcomposes hmade hcoerce

theorem coerceGlobally_respectsAt : RespectsAt relation machine (cell.coerceGlobally type) :=
  .bind_of_ok hcomposes (Action.run_lift _ machine) hmade (hcoerce _)

theorem extract_respectsAt : RespectsAt relation machine (cell.extract type) := by
  rcases hvalue : (cell.valueOf? type).run machine with ⟨outcome, after⟩
  obtain rfl : after = machine :=
    (RespectsAt.related (cell.respects_valueOf? (.same id) type machine) hvalue :)
  refine .bind hcomposes (.of_run hvalue (hcomposes.refl _)) fun value? final hfinal => ?_
  obtain rfl : after = final := congrArg Prod.snd (hvalue.symm.trans hfinal)
  split
  · exact .pure hcomposes _
  · exact .bind hcomposes (coerceGlobally_respectsAt hcomposes hmade hcoerce) fun _ _ _ =>
      .pure hcomposes _

theorem tryGet_respectsAt : RespectsAt relation machine (cell.tryGet type) :=
  .bind hcomposes (extract_respectsAt hcomposes hmade hcoerce) fun _ _ _ => .pure hcomposes _

/-- A failed access names the type that it asked for. -/
theorem get_respectsAt (hidentify : ∀ machine, relation machine (Machine.identify type machine).2) :
    RespectsAt relation machine (cell.get type) := by
  refine .bind hcomposes (extract_respectsAt hcomposes hmade hcoerce) fun result after _ => ?_
  cases result with
  | ok access => exact .pure hcomposes _
  | error cause =>
      exact Respects.bind hcomposes (.lift hidentify) (fun _ => .pure hcomposes _) after

end Access

end Cell

end DynamicValue
