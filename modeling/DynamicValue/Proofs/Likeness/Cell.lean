/-
# Dynamic values in programs that are alike

Dynamic values in two programs are alike if they are both empty or have tables for the same type,
and if their slots are the same. What can be seen of them and what is done with them is the same
then, up to the numbers of identities.
-/

import DynamicValue.Cell.Assignment
import DynamicValue.Proofs.Likeness.Program

namespace DynamicValue

/-- Two dynamic values, each in a program of its own, with the same slot and tables for the same
type, or without tables. -/
inductive Cell.Alike (machine other : Machine) : Cell → Cell → Prop
  | bare (slot : Slot) : Alike machine other ⟨none, slot⟩ ⟨none, slot⟩
  | typed {first second : OperationTable} (slot : Slot)
      (htables : first.Alike machine other second) :
      Alike machine other ⟨some first, slot⟩ ⟨some second, slot⟩

variable {machine other after after' : Machine} {cell cell' before before' : Cell}

namespace Cell.Alike

theorem empty (machine other : Machine) : Alike machine other .empty .empty := .bare .blank

theorem mono (hcells : cell.Alike machine other cell') (hextends : machine.Extends after)
    (hextends' : other.Extends after') : cell.Alike after after' cell' := by
  cases hcells with
  | bare slot => exact .bare slot
  | typed slot htables => exact .typed slot (htables.mono hextends hextends')

theorem later (hcells : cell.Alike machine other cell')
    (hlater : Later machine other after after') :
    cell.Alike after after' cell' :=
  hcells.mono hlater.first hlater.second

/-! ## What is seen without looking at the payload -/

theorem isEmpty_eq (hcells : cell.Alike machine other cell') : cell.isEmpty = cell'.isEmpty := by
  cases hcells <;> rfl

theorem place_eq (hcells : cell.Alike machine other cell') : cell.place = cell'.place := by
  cases hcells with
  | bare slot => rfl
  | typed slot htables => cases slot <;> rfl

theorem isInline_eq (hcells : cell.Alike machine other cell') : cell.isInline = cell'.isInline := by
  cases hcells with
  | bare slot => rfl
  | typed slot htables => exact congrArg ValueType.isInline htables.type

theorem identity (hcells : cell.Alike machine other cell') (halike : machine.Alike other) :
    cell.identity.Alike machine other cell'.identity := by
  cases hcells with
  | bare slot => exact .null machine other
  | typed slot htables => exact htables.identity halike

theorem typeName_eq (hcells : cell.Alike machine other cell') (halike : machine.Alike other) :
    cell.typeName = cell'.typeName := by
  unfold typeName TypeIdentity.name
  rw [(hcells.identity halike).type]

theorem reuses_eq (hcells : cell.Alike machine other cell')
    (hbefore : before.Alike machine other before') (halike : machine.Alike other) :
    cell.reuses before = cell'.reuses before' := by
  unfold reuses
  rw [hcells.typeName_eq halike, hbefore.typeName_eq halike, hcells.place_eq, hbefore.place_eq]

end Cell.Alike

/-! ## Slots -/

namespace Slot

variable (halike : machine.Alike other)
include halike

theorem read_agrees (type : ValueType) (slot : Slot) :
    Agree machine other (slot.read type) (slot.read type) Same := by
  have hend : ∀ (machine other : Machine) (contents contents' : Instance),
      machine.Alike other → contents = contents' →
      Agree machine other
        (if contents.payload.type = type then pure contents else Action.fault .wrongType)
        (if contents'.payload.type = type then pure contents' else Action.fault .wrongType)
        Same := by
    rintro machine other contents _ halike rfl
    split
    · exact .pure halike rfl
    · exact .throw halike _
  unfold read
  dsimp only
  split
  · exact hend machine other _ _ halike rfl
  · exact (halike.load _).bind fun _ _ _ _ hlater => hend _ _ _ _ hlater.alike
  · exact .throw halike _

/-- A copy of the payload in a slot. -/
theorem copy_agrees (type : ValueType) (slot : Slot) :
    Agree machine other (do Machine.clone (← slot.read type)) (do Machine.clone (← slot.read type))
      Same := by
  refine (read_agrees halike type slot).bind ?_
  rintro machine other contents _ hlater rfl
  exact hlater.alike.clone contents

theorem fill_agrees (contents : Instance) :
    Agree machine other (liftM (fill contents) : Action Machine Slot) (liftM (fill contents))
      Same := by
  cases hinline : contents.payload.type.isInline with
  | true =>
      have hfill : fill contents = pure (.direct contents) := by
        unfold fill
        rw [if_pos hinline]
      rw [hfill]
      exact .pure halike rfl
  | false =>
      have hfill : fill contents = do return boxed (← Machine.allocate contents) := by
        unfold fill
        rw [if_neg (Bool.eq_false_iff.mp hinline)]
      rw [hfill, liftM_bind]
      exact (halike.allocate contents).answer fun _ _ _ _ _ haddress => congrArg boxed haddress

theorem exchange_agrees (slot : Slot) (contents : Instance) :
    Agree machine other (slot.exchange contents) (slot.exchange contents) Same := by
  refine (read_agrees halike _ slot).bind ?_
  rintro machine other old _ hlater rfl
  have halike : machine.Alike other := hlater.alike
  cases slot with
  | boxed address => exact (halike.store address contents).answer fun _ _ _ _ _ _ => rfl
  | _ => exact .pure halike rfl

theorem empty_agrees (type : ValueType) (slot : Slot) :
    Agree machine other (slot.empty type) (slot.empty type) Same := by
  refine (read_agrees halike type slot).bind ?_
  rintro machine other old _ hlater rfl
  have halike : machine.Alike other := hlater.alike
  cases slot with
  | boxed address => exact halike.free address
  | _ => exact .pure halike rfl

end Slot

/-! ## Looking at a value -/

namespace Cell

section Looking

variable (halike : machine.Alike other) (hcells : cell.Alike machine other cell')
include halike hcells

theorem contents?_agrees : Agree machine other cell.contents? cell'.contents? Same := by
  cases hcells with
  | bare slot => exact .pure halike rfl
  | typed slot htables =>
      unfold contents?
      simp only [htables.type]
      exact (Slot.read_agrees halike _ slot).answer fun _ _ _ _ _ hcontents =>
        congrArg some hcontents

theorem holds_agrees (type : ValueType) :
    Agree machine other (cell.holds type) (cell'.holds type) Same := by
  refine (contents?_agrees halike hcells).bind ?_
  rintro machine other contents? _ hlater rfl
  cases contents? <;> exact .pure hlater.alike rfl

theorem instanceOf?_agrees (type : ValueType) :
    Agree machine other (cell.instanceOf? type) (cell'.instanceOf? type) Same := by
  refine (contents?_agrees halike hcells).bind ?_
  rintro machine other contents? _ hlater rfl
  cases contents? <;> exact .pure hlater.alike rfl

theorem valueOf?_agrees (type : ValueType) :
    Agree machine other (cell.valueOf? type) (cell'.valueOf? type) Same := by
  refine (contents?_agrees halike hcells).bind ?_
  rintro machine other contents? _ hlater rfl
  cases contents? <;> exact .pure hlater.alike rfl

theorem text_agrees : Agree machine other cell.text cell'.text Same := by
  refine (contents?_agrees halike hcells).bind ?_
  rintro machine other contents? _ hlater rfl
  cases contents? <;> exact .pure hlater.alike rfl

theorem pushOnto_agrees (stack : List HostValue) :
    Agree machine other (cell.pushOnto stack) (cell'.pushOnto stack) Same := by
  refine (contents?_agrees halike hcells).bind ?_
  rintro machine other contents? _ hlater rfl
  cases contents? <;> exact .pure hlater.alike rfl

theorem holdsText_agrees : Agree machine other cell.holdsText cell'.holdsText Same := by
  refine (holds_agrees halike hcells .text).bind ?_
  rintro machine other holdsText _ hlater rfl
  cases holdsText with
  | true => exact .pure hlater.alike rfl
  | false => exact holds_agrees hlater.alike (hcells.later hlater) .literal

/-- The diagnostic form of a value has the name of its type in it, but not the number. -/
theorem debugText_agrees : Agree machine other cell.debugText cell'.debugText Same := by
  have hname := hcells.typeName_eq halike
  have htext := text_agrees halike hcells
  cases hcells with
  | bare slot => exact .pure halike rfl
  | typed slot htables =>
      refine htext.answer fun _ _ _ _ _ htext => ?_
      unfold typeName identity at hname
      rw [htext, hname]

end Looking

/-! ## The life of a value -/

section Lifetime

variable (halike : machine.Alike other)
include halike

theorem ofInstance_agrees (contents : Instance) :
    Agree machine other (liftM (ofInstance contents) : Action Machine Cell)
      (liftM (ofInstance contents)) fun machine other first second =>
        first.Alike machine other second := by
  unfold ofInstance
  rw [liftM_bind]
  refine (halike.tableFor _).bind fun machine other table table' hlater htables => ?_
  rw [liftM_bind]
  refine (Slot.fill_agrees hlater.alike contents).answer ?_
  rintro _ _ slot _ hlater rfl
  exact .typed slot (htables.mono hlater.first hlater.second)

theorem ofPayload_agrees (payload : Payload) :
    Agree machine other (liftM (ofPayload payload) : Action Machine Cell)
      (liftM (ofPayload payload)) fun machine other first second =>
        first.Alike machine other second := by
  unfold ofPayload
  rw [liftM_bind]
  refine (halike.create payload).bind ?_
  rintro machine other contents _ hlater rfl
  exact ofInstance_agrees hlater.alike contents

variable (hcells : cell.Alike machine other cell')
include hcells

theorem clone_agrees :
    Agree machine other cell.clone cell'.clone fun machine other first second =>
      first.Alike machine other second := by
  cases hcells with
  | bare slot => exact .pure halike (.empty machine other)
  | typed slot htables =>
      unfold clone
      simp only [htables.type]
      refine (Slot.read_agrees halike _ slot).bind ?_
      rintro machine other contents _ hread rfl
      have halike : machine.Alike other := hread.alike
      refine (halike.clone contents).bind ?_
      rintro machine other copy _ hclone rfl
      refine (Slot.fill_agrees hclone.alike copy).answer ?_
      rintro _ _ slot _ hfill rfl
      have hlater := (hread.trans hclone).trans hfill
      exact .typed slot (htables.mono hlater.first hlater.second)

theorem intoInstance?_agrees :
    Agree machine other cell.intoInstance? cell'.intoInstance? Same := by
  cases hcells with
  | bare slot => exact .pure halike rfl
  | typed slot htables =>
      unfold intoInstance?
      simp only [htables.type]
      exact (Slot.empty_agrees halike _ slot).answer fun _ _ _ _ _ hcontents =>
        congrArg some hcontents

theorem destroy_agrees : Agree machine other cell.destroy cell'.destroy Same := by
  refine (intoInstance?_agrees halike hcells).bind ?_
  rintro machine other contents? _ hlater rfl
  have halike : machine.Alike other := hlater.alike
  cases contents? with
  | none => exact .pure halike rfl
  | some contents => exact halike.destroy contents

theorem discard_agrees : Agree machine other cell.discard cell'.discard Same := by
  refine (intoInstance?_agrees halike hcells).bind ?_
  rintro machine other contents? _ hlater rfl
  have halike : machine.Alike other := hlater.alike
  cases contents? with
  | none => exact .pure halike rfl
  | some contents => exact halike.discard contents

omit halike in
/-- Actions in the scope of values that are alike. -/
theorem inScope_agrees {α β : Type} {action : Action Machine α} {action' : Action Machine β}
    {values : α → β → Prop} (haction : Agree machine other action action' fun _ _ => values) :
    Agree machine other (cell.inScope action) (cell'.inScope action') fun _ _ => values := by
  have hscope : Agree machine other (Action.unwinding action cell.discard)
      (Action.unwinding action' cell'.discard) fun _ _ => values :=
    haction.unwinding fun _ _ hlater => discard_agrees hlater.alike (hcells.later hlater)
  refine hscope.bind fun machine other value value' hlater hvalues => ?_
  exact (destroy_agrees hlater.alike (hcells.later hlater)).answer fun _ _ _ _ _ _ => hvalues

end Lifetime

section Lists

variable {cells cells' : List Cell}

theorem Alike.laterAll (hcells : List.Forall₂ (Cell.Alike machine other) cells cells')
    (hlater : Later machine other after after') :
    List.Forall₂ (Cell.Alike after after') cells cells' :=
  hcells.imp fun _ _ hcell => hcell.later hlater

theorem discardAll_agrees (halike : machine.Alike other)
    (hcells : List.Forall₂ (Cell.Alike machine other) cells cells') :
    Agree machine other (discardAll cells) (discardAll cells') Same := by
  induction cells generalizing machine other cells' with
  | nil =>
      cases hcells
      exact .pure halike rfl
  | cons cell cells ih =>
      cases hcells with
      | cons hcell hrest =>
          refine (discard_agrees halike hcell).bind fun machine other _ _ hlater _ => ?_
          exact ih hlater.alike (Alike.laterAll hrest hlater)

theorem destroyAll_agrees (halike : machine.Alike other)
    (hcells : List.Forall₂ (Cell.Alike machine other) cells cells') :
    Agree machine other (destroyAll cells) (destroyAll cells') Same := by
  induction cells generalizing machine other cells' with
  | nil =>
      cases hcells
      exact .pure halike rfl
  | cons cell cells ih =>
      cases hcells with
      | cons hcell hrest =>
          have hfirst := (destroy_agrees halike hcell).unwinding fun _ _ hlater =>
            discardAll_agrees hlater.alike (Alike.laterAll hrest hlater)
          refine hfirst.bind fun machine other _ _ hlater _ => ?_
          exact ih hlater.alike (Alike.laterAll hrest hlater)

end Lists

end Cell

end DynamicValue
