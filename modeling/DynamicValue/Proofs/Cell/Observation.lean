/-
# What can be seen of a dynamic value from outside

Emptiness, the identity and the name of the type and the place of the payload are read off a value
without looking at its payload. They still tell what the value holds: the names of types differ, so
a value that shows the same name as before has the same type as before.
-/

import DynamicValue.Proofs.Cell.Holding

namespace DynamicValue

/-- Every integer kind is listed. -/
theorem IntKind.mem_all (kind : IntKind) : kind ∈ all := by
  obtain ⟨signed, width⟩ := kind
  cases signed <;> cases width <;> decide

/-- Both formats are listed. -/
theorem FloatKind.mem_all (kind : FloatKind) : kind ∈ all := by
  cases kind <;> decide

namespace ValueType

/-- Every type is listed. -/
theorem mem_all (type : ValueType) : type ∈ all := by
  cases type with
  | integer kind => simp [all, kind.mem_all]
  | float kind => simp [all, kind.mem_all]
  | _ => simp [all]

/-- No two types have the same name. -/
theorem names_nodup : (all.map name).Nodup := by decide +kernel

theorem name_inj {first second : ValueType} (hname : first.name = second.name) : first = second :=
  List.inj_on_of_nodup_map names_nodup (mem_all first) (mem_all second) hname

/-- No type has the name of the empty value. -/
theorem name_ne_null (type : ValueType) : type.name ≠ "null" := by
  intro hname
  have hnull : "null" ∉ all.map name := by decide +kernel
  exact hnull (hname ▸ List.mem_map_of_mem (mem_all type))

end ValueType

namespace Cell

/-- The name that the empty value or a value of a type shows. -/
def shownName (type? : Option ValueType) : String := type?.elim "null" ValueType.name

theorem shownName_inj {first? second? : Option ValueType}
    (hname : shownName first? = shownName second?) : first? = second? := by
  cases first? with
  | none =>
      cases second? with
      | none => rfl
      | some second => exact absurd hname.symm (ValueType.name_ne_null second)
  | some first =>
      cases second? with
      | none => exact absurd hname (ValueType.name_ne_null first)
      | some second => exact congrArg some (ValueType.name_inj hname)

namespace Holds

variable {machine after : Machine} {cell changed : Cell} {holding? changed? : Option Holding}
  {holding : Holding}

/-- A value is empty if it holds nothing. -/
theorem isEmpty_eq (hholds : cell.Holds machine holding?) : cell.isEmpty = holding?.isNone := by
  cases hholds <;> rfl

/-- The identity that a value shows is the one that the program handed out for its type. -/
theorem identity?_eq (hholds : cell.Holds machine (some holding)) (hcoherent : machine.Coherent) :
    machine.identity? holding.payload.type = some cell.identity := by
  obtain ⟨table, htable, hlisted, htype⟩ := hholds.exists_table
  rw [← htype, hcoherent.identity?_of_table hlisted, identity, htable]

theorem identity_type?_eq (hholds : cell.Holds machine holding?) (hcoherent : machine.Coherent) :
    cell.identity.type? = holding?.map fun holding => holding.payload.type := by
  cases holding? with
  | none =>
      rw [hholds.eq_empty]
      rfl
  | some holding =>
      exact (hcoherent.identity?_eq_some_iff.mp (hholds.identity?_eq hcoherent)).2

theorem typeName_eq (hholds : cell.Holds machine holding?) (hcoherent : machine.Coherent) :
    cell.typeName = shownName (holding?.map fun holding => holding.payload.type) := by
  rw [typeName, TypeIdentity.name, hholds.identity_type?_eq hcoherent]
  cases holding? <;> rfl

/-- A value that keeps its box while it keeps its type tells exactly whether its type is the same as
before. -/
theorem reuses_eq (hbefore : cell.Holds machine holding?) (hmachine : machine.Coherent)
    (hafter : changed.Holds after changed?) (hcoherent : after.Coherent)
    (hbox : changed?.map (·.payload.type) = holding?.map (·.payload.type) →
      changed?.map Holding.box? = holding?.map Holding.box?) :
    changed.reuses cell =
      decide (changed?.map (·.payload.type) = holding?.map (·.payload.type)) := by
  unfold reuses
  rw [hbefore.typeName_eq hmachine, hafter.typeName_eq hcoherent, hbefore.place_eq, hafter.place_eq]
  by_cases htype : changed?.map (·.payload.type) = holding?.map (·.payload.type)
  · have hplace := hbox htype
    rw [htype]
    cases changed? with
    | none =>
        cases holding? with
        | none => simp
        | some holding => cases hplace
    | some changed =>
        cases holding? with
        | none => cases hplace
        | some holding =>
            obtain ⟨box?, contents⟩ := changed
            obtain ⟨box?', contents'⟩ := holding
            obtain rfl : box? = box?' := Option.some.inj hplace
            cases box? <;> simp
  · have hname : shownName (changed?.map fun holding => holding.payload.type) ≠
        shownName (holding?.map fun holding => holding.payload.type) :=
      fun heq => htype (shownName_inj heq)
    simp [hname, htype]

end Holds

end Cell

end DynamicValue
