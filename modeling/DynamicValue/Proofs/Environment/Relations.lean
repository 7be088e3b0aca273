/-
# What calls do to a program

The functions that sessions can bind look at their arguments, copy and convert them, and make a
value for their result. So whatever relation between programs the primitive changes and the making
of the global registry keep to, calls keep to as well.
-/

import DynamicValue.Proofs.Cell.Relations
import DynamicValue.Proofs.Environment.Settling

namespace DynamicValue

open DynamicValue.Action (Respects RespectsAt)

/-- A relation between programs that all uses of a program keep to which change no registry: the
primitive changes for any types, reports, the making of the global registry and the lines about
modules. -/
structure Machine.AllowsUse (relation : Machine → Machine → Prop) : Prop
    extends Machine.Allows (fun _ => True) relation where
  report : ∀ machine event, relation machine (machine.advance machine.heap 0 [] [event])
  globalRegistry : ∀ machine, relation machine (Machine.globalRegistry machine).2
  loading : ∀ machine name functions,
    relation machine (Machine.writeLog (.loading name functions) machine).2

/-- The relation between all programs. -/
theorem Machine.AllowsUse.total : Machine.AllowsUse fun _ _ => True where
  refl _ := trivial
  trans _ _ := trivial
  advance _ _ _ _ _ _ := trivial
  identify _ _ _ := trivial
  tableFor _ _ _ := trivial
  report _ _ := trivial
  globalRegistry _ := trivial
  loading _ _ _ := trivial

variable {relation : Machine → Machine → Prop} (hallows : Machine.AllowsUse relation)
include hallows

namespace Registry

theorem respects_coerce (registry : Registry) (cell : Cell) (type : ValueType) :
    Respects relation (registry.coerce cell type) :=
  coerce_respects hallows.toAllows hallows.report registry.confines_all trivial
    fun _ _ => trivial

theorem respects_cast (registry : Registry) (source : Instance)
    (sourceType destType : TypeIdentity) :
    Respects (fun state after : Casting => relation state.1 after.1)
      (registry.cast source sourceType destType) :=
  fun _ => cast_respectsAt hallows.toAllows hallows.report registry.confines_all source sourceType
    destType trivial

end Registry

namespace Cell

theorem respects_get (cell : Cell) (type : ValueType) : Respects relation (cell.get type) :=
  fun machine => get_respectsAt hallows.toComposes (hallows.globalRegistry machine)
    (Registry.respects_coerce hallows _ cell type) fun machine =>
      hallows.identify type machine trivial

theorem respects_tryGet (cell : Cell) (type : ValueType) : Respects relation (cell.tryGet type) :=
  fun machine => tryGet_respectsAt hallows.toComposes (hallows.globalRegistry machine)
    (Registry.respects_coerce hallows _ cell type)

end Cell

namespace Native

omit hallows in
theorem respects_expecting {name : String} {expected : Nat}
    {body : List Cell → Action Machine (Except CallError Cell)} (hcomposes : Composes relation)
    (hbody : ∀ cells, Respects relation (body cells)) (cells : List Cell) :
    Respects relation (expecting name expected body cells) := by
  unfold expecting
  split
  · exact hbody _
  · exact .pure hcomposes _

omit hallows in
theorem respects_onArgument {name : String} {expected index : Nat}
    {body : Cell → Action Machine (Except CallError Cell)} (hcomposes : Composes relation)
    (hbody : ∀ cell, Respects relation (body cell)) (cells : List Cell) :
    Respects relation (onArgument name expected index body cells) := by
  refine respects_expecting hcomposes (fun cells => .bind hcomposes ?_ hbody) cells
  unfold argument
  split
  · exact .pure hcomposes _
  · exact .throw hcomposes _

theorem respects_giving (type : ValueType) (value : type.Value) :
    Respects relation (giving type value) :=
  .bind hallows.toComposes (Cell.respects_ofPayload hallows.toAllows _ trivial) fun _ =>
    .pure hallows.toComposes _

theorem respects_converting (name : String) (index : Nat) (argument : Cell) (type : ValueType) :
    Respects relation (converting name index argument type) := by
  refine .bind hallows.toComposes (argument.respects_get hallows type) fun result => ?_
  cases result with
  | ok access => exact respects_giving hallows type access.value
  | error cause => exact .pure hallows.toComposes _

theorem respects_copying (cell : Cell) :
    Respects relation (do return .ok (← cell.clone) : Action Machine (Except CallError Cell)) :=
  .bind hallows.toComposes (cell.respects_clone hallows.toAllows) fun _ =>
    .pure hallows.toComposes _

theorem respects_of_mem {function : Native} (hmem : function ∈ ofSessions) (cells : List Cell) :
    Respects relation (function cells) := by
  have hcomposes := hallows.toComposes
  have htypeName : ∀ cells, Respects relation (typeName cells) :=
    respects_onArgument hcomposes fun _ => respects_giving hallows _ _
  have htoText : ∀ cells, Respects relation (toText cells) :=
    respects_onArgument hcomposes fun cell =>
      .bind hcomposes (cell.respects_text hcomposes) fun _ => respects_giving hallows _ _
  have htoNumber : ∀ cells, Respects relation (toNumber cells) :=
    respects_onArgument hcomposes fun _ => respects_converting hallows _ _ _ _
  have htoInteger : ∀ cells, Respects relation (toInteger cells) :=
    respects_onArgument hcomposes fun _ => respects_converting hallows _ _ _ _
  have hisNull : ∀ cells, Respects relation (isNull cells) :=
    respects_onArgument hcomposes fun _ => respects_giving hallows _ _
  have hecho : ∀ cells, Respects relation (echo cells) :=
    respects_onArgument hcomposes fun _ => respects_copying hallows _
  have hsecond : ∀ cells, Respects relation (second cells) :=
    respects_onArgument hcomposes fun _ => respects_copying hallows _
  have hbyte : ∀ cells, Respects relation (byte cells) :=
    respects_onArgument hcomposes fun _ => respects_converting hallows _ _ _ _
  have hnothing : ∀ cells, Respects relation (nothing cells) :=
    respects_expecting hcomposes fun _ => .pure hcomposes _
  have hcount : ∀ cells, Respects relation (count cells) := fun _ => respects_giving hallows _ _
  simp only [ofSessions, named, FunctionModule.value, FunctionModule.extra, List.cons_append,
    List.nil_append, List.map_cons, List.map_nil, List.mem_cons, List.not_mem_nil, or_false] at hmem
  rcases hmem with rfl | rfl | rfl | rfl | rfl | rfl | rfl | rfl | rfl | rfl | rfl | rfl | rfl <;>
    solve_by_elim

end Native

namespace Environment

/-- A call by name keeps to the relation if no other functions are bound than those of sessions. -/
theorem IsOfSessions.respects_call {environment : Environment}
    (henvironment : environment.IsOfSessions) (name : String) (cells : List Cell) :
    Respects relation (environment.call name cells) := by
  unfold call
  cases hfound : environment.lookup name with
  | none => exact .pure hallows.toComposes _
  | some function => exact Native.respects_of_mem hallows (henvironment name function hfound) cells

end Environment

end DynamicValue
