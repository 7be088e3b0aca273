/-
# Changing dynamic values that are alike

An operation that changes a value in place does the same to values that are alike, and leaves values
that are alike, also when it halts in the middle.
-/

import DynamicValue.Proofs.Likeness.Cell

namespace DynamicValue

instance : Likeness Focus where
  program := Focus.machine
  Alike first second :=
    first.machine.Alike second.machine ∧ first.cell.Alike first.machine second.machine second.cell

variable {first second : Focus}

namespace Focus

/-- What happens to the programs leaves the values alone. -/
theorem onMachine_agrees {α β : Type} {action : Action Machine α} {other : Action Machine β}
    {values : Machine → Machine → α → β → Prop} (halike : Likeness.Alike first second)
    (hparts : Agree first.machine second.machine action other values) :
    Agree first second (onMachine action) (onMachine other) fun first second =>
      values first.machine second.machine :=
  hparts.within
    (fun _ _ hlater => ⟨⟨hlater.alike, halike.2.later hlater⟩, hlater.first, hlater.second⟩)
    fun _ _ _ _ _ hvalues => hvalues

theorem current_agrees (halike : Likeness.Alike first second) :
    Agree first second current current fun first second cell cell' =>
      cell.Alike first.machine second.machine cell' := by
  refine (Agree.get halike).bind ?_
  rintro _ _ _ _ hlater ⟨rfl, rfl, rfl, rfl⟩
  exact .pure hlater.alike halike.2

theorem put_agrees (halike : Likeness.Alike first second) {cell cell' : Cell}
    (hcells : cell.Alike first.machine second.machine cell') :
    Agree first second (put cell) (put cell') Same :=
  .of_run (Action.run_modify _ _) (Action.run_modify _ _) ⟨⟨halike.1, hcells⟩, .refl _, .refl _⟩
    (.ok rfl)

end Focus

namespace Cell

open Focus

variable (halike : Likeness.Alike first second)
include halike

theorem reset_agrees : Agree first second reset reset Same := by
  refine (current_agrees halike).bind fun first second cell cell' hlater hcells => ?_
  refine (put_agrees hlater.alike (.empty _ _)).bind fun first' second' _ _ hput _ => ?_
  exact onMachine_agrees hput.alike
    (destroy_agrees hput.alike.1 (hcells.mono hput.first hput.second))

theorem overwrite_agrees {table table' : OperationTable} (contents : Instance)
    (htables : table.Alike first.machine second.machine table') :
    Agree first second (overwrite table contents) (overwrite table' contents) Same := by
  refine (current_agrees halike).bind fun first second cell cell' hcurrent hcells => ?_
  have hslots : cell.slot = cell'.slot := by cases hcells <;> rfl
  rw [hslots]
  refine (onMachine_agrees hcurrent.alike
    (Slot.exchange_agrees hcurrent.alike.1 cell'.slot contents)).bind ?_
  rintro first second ⟨slot, old⟩ _ hexchange rfl
  have hlater := hcurrent.trans hexchange
  refine (put_agrees hexchange.alike
    (.typed slot (htables.mono hlater.first hlater.second))).bind fun first second _ _ hput _ => ?_
  exact onMachine_agrees hput.alike (hput.alike.1.destroy old)

/-- Values that are assigned from others are reset and get a copy if their types differ. -/
theorem reset_clone_agrees {other other' : Cell}
    (hothers : other.Alike first.machine second.machine other') :
    Agree first second (do reset; put (← onMachine other.clone))
      (do reset; put (← onMachine other'.clone)) Same := by
  refine (reset_agrees halike).bind fun first second _ _ hreset _ => ?_
  refine (onMachine_agrees hreset.alike (clone_agrees hreset.alike.1
    (hothers.mono hreset.first hreset.second))).bind
      fun first second copy copy' hclone hcopies => ?_
  exact put_agrees hclone.alike hcopies

theorem assign_agrees {other other' : Cell}
    (hothers : other.Alike first.machine second.machine other') :
    Agree first second (assign other) (assign other') Same := by
  refine (current_agrees halike).bind fun first second cell cell' hcurrent hcells => ?_
  have halike := hcurrent.alike
  have hothers := hothers.mono hcurrent.first hcurrent.second
  have hreset := reset_clone_agrees halike hothers
  have hclone := clone_agrees halike.1 hothers
  cases hothers with
  | bare otherSlot => cases hcells <;> exact reset_agrees halike
  | typed otherSlot htheirs =>
      cases hcells with
      | bare slot =>
          refine (onMachine_agrees halike hclone).bind fun first second copy copy' hclone hcopies =>
            ?_
          exact put_agrees hclone.alike hcopies
      | typed slot hmine =>
          simp only [hmine.same_eq htheirs halike.1, htheirs.type]
          split
          · refine (onMachine_agrees halike (Slot.copy_agrees halike.1 _ otherSlot)).bind ?_
            rintro first second copy _ hcopy rfl
            exact overwrite_agrees hcopy.alike copy (hmine.mono hcopy.first hcopy.second)
          · exact hreset

theorem assignInstance_agrees (contents : Instance) :
    Agree first second (assignInstance contents) (assignInstance contents) Same := by
  refine (current_agrees halike).bind fun first second cell cell' hcurrent hcells => ?_
  refine (onMachine_agrees hcurrent.alike (instanceOf?_agrees hcurrent.alike.1 hcells _)).bind ?_
  rintro first second found? _ hfound rfl
  have halike := hfound.alike
  have hcells := hcells.mono hfound.first hfound.second
  have hnew : Agree first second
      (do
        Action.unwinding reset (onMachine (Machine.discard contents))
        put (← onMachine (ofInstance contents)))
      (do
        Action.unwinding reset (onMachine (Machine.discard contents))
        put (← onMachine (ofInstance contents))) Same := by
    have hreset := (reset_agrees halike).unwinding fun _ _ hlater =>
      onMachine_agrees hlater.alike (hlater.alike.1.discard contents)
    refine hreset.bind fun first second _ _ hreset _ => ?_
    refine (onMachine_agrees hreset.alike (ofInstance_agrees hreset.alike.1 contents)).bind
      fun first second made made' hmade hcells => ?_
    exact put_agrees hmade.alike hcells
  cases hcells with
  | bare slot => exact hnew
  | typed slot htables =>
      cases found? with
      | none => exact hnew
      | some found => exact overwrite_agrees halike contents htables

theorem take_agrees :
    Agree first second take take fun first second cell cell' =>
      cell.Alike first.machine second.machine cell' := by
  refine (current_agrees halike).bind fun first second cell cell' hlater hcells => ?_
  exact (put_agrees hlater.alike (.empty _ _)).answer fun _ _ _ _ hput _ =>
    hcells.mono hput.first hput.second

theorem mutate_agrees (contents : Instance) :
    Agree first second (mutate contents) (mutate contents) Same := by
  refine (current_agrees halike).bind fun first second cell cell' hcurrent hcells => ?_
  refine (onMachine_agrees hcurrent.alike (instanceOf?_agrees hcurrent.alike.1 hcells _)).bind ?_
  rintro first second found? _ hfound rfl
  have halike := hfound.alike
  have hcells := hcells.mono hfound.first hfound.second
  have hother : Agree first second
      (do onMachine (Machine.destroy contents); pure false)
      (do onMachine (Machine.destroy contents); pure false) Same :=
    (onMachine_agrees halike (halike.1.destroy contents)).answer fun _ _ _ _ _ _ => rfl
  cases hcells with
  | bare slot => exact hother
  | typed slot htables =>
      cases found? with
      | none => exact hother
      | some found =>
          exact (overwrite_agrees halike contents htables).answer fun _ _ _ _ _ _ => rfl

theorem append_agrees (suffix : String) :
    Agree first second (append suffix) (append suffix) Same := by
  refine (current_agrees halike).bind fun first second cell cell' hcurrent hcells => ?_
  refine (onMachine_agrees hcurrent.alike (instanceOf?_agrees hcurrent.alike.1 hcells _)).bind ?_
  rintro first second found? _ hfound rfl
  have halike := hfound.alike
  have hcells := hcells.mono hfound.first hfound.second
  cases hcells with
  | bare slot => exact .pure halike rfl
  | typed slot htables =>
      cases found? with
      | none => exact .pure halike rfl
      | some found =>
          obtain ⟨serial, type, value⟩ := found
          cases type with
          | text =>
              refine (onMachine_agrees halike (Slot.exchange_agrees halike.1 slot _)).bind ?_
              rintro first second ⟨slot, old⟩ _ hexchange rfl
              dsimp only
              exact (put_agrees hexchange.alike (.typed slot
                (htables.mono hexchange.first hexchange.second))).answer fun _ _ _ _ _ _ => rfl
          | _ => exact .pure halike rfl

end Cell

end DynamicValue
