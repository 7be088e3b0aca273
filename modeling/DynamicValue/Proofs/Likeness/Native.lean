/-
# Typed access and native functions in programs that are alike

A value is lent or converted on both sides, and the failures of an access differ in the numbers of
identities only. So do the failures of the native functions that sessions can bind, and values that
these functions give are alike.
-/

import DynamicValue.Proofs.Environment.Settling
import DynamicValue.Proofs.Likeness.Registry

namespace DynamicValue

/-- Failures of an access that differ in nothing but the numbers of identities. -/
def AccessError.Alike (first second : AccessError) : Prop := first.anonymous = second.anonymous

/-- Errors of calls that differ in nothing but the numbers of identities. -/
def CallError.Alike (first second : CallError) : Prop := first.anonymous = second.anonymous

variable {machine other : Machine} {cell cell' : Cell}

namespace Cell

variable (halike : machine.Alike other) (hcells : cell.Alike machine other cell')
include halike hcells

theorem coerceGlobally_agrees (type : ValueType) :
    Agree machine other (cell.coerceGlobally type) (cell'.coerceGlobally type)
      fun _ _ => ResultsAlike := by
  refine halike.globalRegistry.bind fun machine other registry registry' hlater hregistries => ?_
  exact Registry.coerce_agrees hregistries machine other cell cell' type (.refl hlater.alike)
    (hcells.later hlater)

theorem extract_agrees (type : ValueType) :
    Agree machine other (cell.extract type) (cell'.extract type) fun _ _ => ResultsAlike := by
  refine (valueOf?_agrees halike hcells type).bind ?_
  rintro machine other value? _ hlater rfl
  cases value? with
  | some value => exact .pure hlater.alike (.ok rfl)
  | none =>
      refine (coerceGlobally_agrees hlater.alike (hcells.later hlater) type).answer ?_
      intro machine other result result' _ hresults
      cases hresults with
      | ok hvalues => exact .ok (congrArg (fun value => (⟨value, false⟩ : Access type)) hvalues)
      | error hfailures => exact .error hfailures

theorem tryGet_agrees (type : ValueType) :
    Agree machine other (cell.tryGet type) (cell'.tryGet type) Same := by
  refine (extract_agrees halike hcells type).answer fun _ _ result result' _ hresults => ?_
  cases hresults with
  | ok hvalues => exact congrArg some hvalues
  | error hfailures => rfl

theorem get_agrees (type : ValueType) :
    Agree machine other (cell.get type) (cell'.get type)
      fun _ _ => EndsAlike AccessError.Alike Eq := by
  refine (extract_agrees halike hcells type).bind
    fun machine other result result' hlater hresults => ?_
  have halike : machine.Alike other := hlater.alike
  cases hresults with
  | ok hvalues => exact .pure halike (.ok hvalues)
  | error hcauses =>
      refine (halike.identify type).answer fun machine other dest dest' hidentified hdest => ?_
      have hsource := (hcells.later (hlater.trans hidentified)).identity hidentified.alike
      have hsources := hsource.anonymous_eq hidentified.alike
      have hdests := hdest.anonymous_eq hidentified.alike
      refine .error ?_
      unfold AccessError.Alike AccessError.anonymous
      rw [hsources, hdests, show ConversionError.anonymous _ = _ from hcauses]

end Cell

/-! ## Native functions -/

/-- What calls give: values that are alike, or errors that are. -/
abbrev CallsAlike (machine other : Machine) :
    Except CallError Cell → Except CallError Cell → Prop :=
  EndsAlike CallError.Alike (Cell.Alike machine other)

namespace Native

/-- A function that does the same with values that are alike. -/
def Agrees (function : Native) : Prop :=
  ∀ (machine other : Machine) (cells cells' : List Cell), machine.Alike other →
    List.Forall₂ (Cell.Alike machine other) cells cells' →
    Agree machine other (function cells) (function cells') CallsAlike

/-- The error about the number of arguments is the same for as many arguments. -/
theorem wrongArgCount_agrees (halike : machine.Alike other) (name : String) (expected : Nat)
    {cells cells' : List Cell} (hcells : List.Forall₂ (Cell.Alike machine other) cells cells') :
    Agree machine other
      (pure (.error (.wrongArgCount name expected cells.length)) :
        Action Machine (Except CallError Cell))
      (pure (.error (.wrongArgCount name expected cells'.length))) CallsAlike := by
  rw [hcells.length_eq]
  exact .pure halike (.error rfl)

/-- A function that does the same with as many arguments as it expects, if they are alike. -/
theorem expecting_agrees {name : String} {expected : Nat}
    {body : List Cell → Action Machine (Except CallError Cell)}
    (hbody : ∀ (machine other : Machine) (cells cells' : List Cell), machine.Alike other →
      cells.length = expected → List.Forall₂ (Cell.Alike machine other) cells cells' →
      Agree machine other (body cells) (body cells') CallsAlike) :
    Agrees (expecting name expected body) := by
  intro machine other cells cells' halike hcells
  by_cases hlength : cells.length = expected
  · rw [expecting_of_length body hlength,
      expecting_of_length body (hcells.length_eq ▸ hlength)]
    exact hbody machine other cells cells' halike hlength hcells
  · rw [expecting_of_length_ne body hlength,
      expecting_of_length_ne body (hcells.length_eq ▸ hlength)]
    exact wrongArgCount_agrees halike name expected hcells

theorem onArgument_agrees {name : String} {expected index : Nat}
    {body : Cell → Action Machine (Except CallError Cell)} (hindex : index < expected)
    (hbody : ∀ (machine other : Machine) (cell cell' : Cell), machine.Alike other →
      cell.Alike machine other cell' → Agree machine other (body cell) (body cell') CallsAlike) :
    Agrees (onArgument name expected index body) := by
  refine expecting_agrees fun machine other cells cells' halike hlength hcells => ?_
  have hbound : index < cells.length := hlength ▸ hindex
  have hbound' : index < cells'.length := hcells.length_eq ▸ hbound
  have hcell := hcells.get hbound hbound'
  unfold argument
  rw [List.getElem?_eq_getElem hbound, List.getElem?_eq_getElem hbound']
  exact hbody machine other _ _ halike hcell

section Bodies

variable (halike : machine.Alike other)
include halike

theorem giving_agrees (type : ValueType) (value : type.Value) :
    Agree machine other (giving type value) (giving type value) CallsAlike :=
  (Cell.ofPayload_agrees halike _).answer fun _ _ _ _ _ hcells => .ok hcells

theorem converting_agrees (hcells : cell.Alike machine other cell') (name : String) (index : Nat)
    (type : ValueType) :
    Agree machine other (converting name index cell type) (converting name index cell' type)
      CallsAlike := by
  refine (Cell.get_agrees halike hcells type).bind
    fun machine other result result' hlater hresults => ?_
  cases hresults with
  | ok hvalues =>
      subst hvalues
      exact giving_agrees hlater.alike type _
  | error hcauses =>
      exact .pure hlater.alike (.error (congrArg (CallError.badArgument index name) hcauses))

theorem copying_agrees (hcells : cell.Alike machine other cell') :
    Agree machine other (do return .ok (← cell.clone) : Action Machine (Except CallError Cell))
      (do return .ok (← cell'.clone)) CallsAlike :=
  (Cell.clone_agrees halike hcells).answer fun _ _ _ _ _ hcopies => .ok hcopies

end Bodies

/-- All functions that sessions can bind make nothing of numbers. -/
theorem agrees_of_mem {function : Native} (hmem : function ∈ ofSessions) : function.Agrees := by
  have htypeName : typeName.Agrees :=
    onArgument_agrees Nat.one_pos fun machine other cell cell' halike hcells => by
      rw [hcells.typeName_eq halike]
      exact giving_agrees halike .text _
  have htoText : toText.Agrees :=
    onArgument_agrees Nat.one_pos fun machine other cell cell' halike hcells => by
      refine (Cell.text_agrees halike hcells).bind ?_
      rintro machine other text _ hlater rfl
      exact giving_agrees hlater.alike .text text
  have hconvertingTo (name : String) {expected index : Nat} (hindex : index < expected)
      (type : ValueType) : (convertingTo name expected index type).Agrees :=
    onArgument_agrees hindex fun machine other cell cell' halike hcells =>
      converting_agrees halike hcells name _ type
  have htoNumber : toNumber.Agrees := hconvertingTo "tonumber" Nat.one_pos _
  have htoInteger : toInteger.Agrees := hconvertingTo "toint" Nat.one_pos _
  have hisNull : isNull.Agrees :=
    onArgument_agrees Nat.one_pos fun machine other cell cell' halike hcells => by
      rw [hcells.isEmpty_eq]
      exact giving_agrees halike .boolean _
  have hecho : echo.Agrees :=
    onArgument_agrees Nat.one_pos fun machine other cell cell' halike hcells =>
      copying_agrees halike hcells
  have hsecond : second.Agrees :=
    onArgument_agrees Nat.one_lt_two fun machine other cell cell' halike hcells =>
      copying_agrees halike hcells
  have hbyte : byte.Agrees := hconvertingTo "byte" Nat.one_lt_two _
  have hnothing : nothing.Agrees := expecting_agrees fun machine other _ _ halike _ _ =>
    .pure halike (.ok (.empty machine other))
  have hcount : count.Agrees := by
    intro machine other cells cells' halike hcells
    unfold count
    rw [hcells.length_eq]
    exact giving_agrees halike _ _
  simp only [ofSessions, named, FunctionModule.value, FunctionModule.extra, List.cons_append,
    List.nil_append, List.map_cons, List.map_nil, List.mem_cons, List.not_mem_nil, or_false] at hmem
  rcases hmem with rfl | rfl | rfl | rfl | rfl | rfl | rfl | rfl | rfl | rfl | rfl | rfl | rfl <;>
    assumption

end Native

end DynamicValue
