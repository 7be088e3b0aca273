/-
# Native functions settle their accounts

A native function is handed values that stay with its caller. It may make a value of its own, which
is its result; whatever else it makes on the way is destroyed again. So after a call the holdings
that accounted for the program before still do, together with what the result holds.
-/

import DynamicValue.Environment.Natives
import DynamicValue.Proofs.Directory
import DynamicValue.Proofs.Registry.Settling
import Mathlib.Data.List.ReduceOption

namespace DynamicValue

open DynamicValue.Action (Ends)

variable {machine after : Machine} {holdings accounted rest : List Holding} {cell : Cell}
  {holding? : Option Holding}

/-- A value that was made in a program, with nothing else left of what was made on the way: what the
value holds comes on top of what was accounted for. -/
def Machine.Gives (machine : Machine) (accounted : List Holding) (cell : Cell)
    (after : Machine) : Prop :=
  ∃ holding? : Option Holding,
    cell.Holds after holding? ∧ machine.Settled after (holding?.toList ++ accounted)

namespace Action.Settles

variable {α : Type} {action : Action Machine α}

theorem ends (hsettles : action.Settles machine accounted) :
    Ends machine action (fun _ after => machine.Settled after accounted)
      fun after => machine.Settled after accounted :=
  .of_left hsettles

theorem of_ends (hends : Ends machine action (fun _ after => machine.Settled after accounted)
    fun after => machine.Settled after accounted) : action.Settles machine accounted :=
  hends.left

end Action.Settles

/-! ## Making, copying and destroying values -/

namespace Cell

section Making

variable (hcoherent : machine.Coherent) (haccounts : machine.Accounts accounted)
include hcoherent haccounts

theorem empty_gives : machine.Gives accounted .empty machine :=
  ⟨none, .empty, .refl hcoherent haccounts⟩

theorem ofPayload_ends (payload : Payload) (fails : Machine → Prop) :
    Ends machine (liftM (ofPayload payload) : Action Machine Cell) (machine.Gives accounted)
      fails := by
  obtain ⟨cell, holding, known, heap, hmade, hlearns, hknown, hholds, -, hafter⟩ :=
    ofPayload_apply hcoherent haccounts payload
  refine .lift ?_
  rw [hmade]
  refine ⟨some holding, hholds, hknown.advance _ _ _ _, ?_, hafter⟩
  exact ((Machine.Extends.advance _ _ _ _ _).trans hlearns.toExtends).trans (.advance _ _ _ _ _)

theorem clone_ends (hholds : cell.Holds machine holding?)
    (hsub : ∀ holding ∈ holding?, holding ∈ accounted) :
    Ends machine cell.clone (machine.Gives accounted)
      fun after => machine.Settled after accounted := by
  cases holding? with
  | none =>
      exact .of_ok (clone_run_none hholds) (empty_gives hcoherent haccounts)
  | some holding =>
      have hmem : holding ∈ accounted := hsub holding rfl
      cases hcopied : holding.payload.copied with
      | error halt =>
          exact .of_error (clone_run_error haccounts hholds hmem hcopied)
            (.advance hcoherent (haccounts.report _))
      | ok copy =>
          obtain ⟨copied, copiedHolding, heap, hclone, hcopy, -, hafter⟩ :=
            clone_run_ok haccounts hholds hmem hcopied
          exact .of_ok hclone ⟨some copiedHolding, hcopy, .advance hcoherent hafter⟩

end Making

section Destroying

variable {cells : List Cell} {held : List (Option Holding)}

theorem destroy_settles (hcoherent : machine.Coherent)
    (haccounts : machine.Accounts (holding?.toList ++ rest))
    (hholds : cell.Holds machine holding?) : cell.destroy.Settles machine rest := by
  obtain ⟨heap, hdestroy, hafter⟩ := destroy_run haccounts hholds
  exact .of_run hdestroy (.advance hcoherent hafter)

/-- Values hold the same in a program that knows more. -/
theorem Holds.monoAll (hcells : List.Forall₂ (Holds machine) cells held)
    (hextends : machine.Extends after) : List.Forall₂ (Holds after) cells held :=
  hcells.imp fun _ _ hholds => hholds.mono hextends

/-- One of several values that hold something holds one of these. -/
theorem exists_holding_of_mem (hcells : List.Forall₂ (Holds machine) cells held)
    (hmem : cell ∈ cells) :
    ∃ holding? ∈ held, cell.Holds machine holding? := by
  induction hcells with
  | nil => cases hmem
  | cons hholds _ ih =>
      rcases List.mem_cons.mp hmem with rfl | hrest
      · exact ⟨_, List.mem_cons_self, hholds⟩
      · obtain ⟨holding?, hheld, hfound⟩ := ih hrest
        exact ⟨holding?, List.mem_cons_of_mem _ hheld, hfound⟩

theorem accounts_cons (haccounts : machine.Accounts ((holding? :: held).reduceOption ++ rest)) :
    machine.Accounts (holding?.toList ++ (held.reduceOption ++ rest)) := by
  cases holding? <;> exact haccounts

/-- Discarding values leaves nothing of what they held. -/
theorem discardAll_settles (hcoherent : machine.Coherent)
    (hcells : List.Forall₂ (Holds machine) cells held)
    (haccounts : machine.Accounts (held.reduceOption ++ rest)) :
    (discardAll cells).Settles machine rest := by
  induction cells generalizing machine held with
  | nil =>
      cases hcells
      exact .pure hcoherent haccounts _
  | cons cell cells ih =>
      cases hcells with
      | cons hfirst hrest =>
          obtain ⟨heap, hdiscard, hafter⟩ := discard_run (accounts_cons haccounts) hfirst
          exact .bind_of_ok hdiscard (.advance _ _ _ _ _)
            (ih (hcoherent.advance _ _ _ _) (Holds.monoAll hrest (.advance _ _ _ _ _)) hafter)

/-- Destroying values leaves nothing of what they held, also if one of them panics. -/
theorem destroyAll_settles (hcoherent : machine.Coherent)
    (hcells : List.Forall₂ (Holds machine) cells held)
    (haccounts : machine.Accounts (held.reduceOption ++ rest)) :
    (destroyAll cells).Settles machine rest := by
  induction cells generalizing machine held with
  | nil =>
      cases hcells
      exact .pure hcoherent haccounts _
  | cons cell cells ih =>
      cases hcells with
      | cons hfirst hrest =>
          have hdestroy := (destroy_settles hcoherent (accounts_cons haccounts) hfirst).ends
          have hguarded : Ends machine (Action.unwinding cell.destroy (discardAll cells))
              (fun _ after => machine.Settled after _) fun after => machine.Settled after rest :=
            .unwinding hdestroy fun after hafter => hafter.trans (discardAll_settles
              hafter.coherent (Holds.monoAll hrest hafter.knows) hafter.accounts)
          refine .of_ends (hguarded.bind fun _ after hafter => ?_)
          have hall := ih hafter.coherent (Holds.monoAll hrest hafter.knows) hafter.accounts
          exact hall.ends.imp (fun _ _ hend => hafter.trans hend) fun _ hend => hafter.trans hend

end Destroying

end Cell

/-! ## Calls -/

/-- What a call leaves: the value that it gives, or nothing new if it gives an error. -/
def Machine.Returns (machine : Machine) (accounted : List Holding) :
    Except CallError Cell → Machine → Prop
  | .ok cell, after => machine.Gives accounted cell after
  | .error _, after => machine.Settled after accounted

theorem Machine.Settled.returns (hsettled : machine.Settled after accounted) {final : Machine}
    {result : Except CallError Cell} (hreturns : after.Returns accounted result final) :
    machine.Returns accounted result final := by
  cases result with
  | error error => exact hsettled.trans hreturns
  | ok cell =>
      obtain ⟨holding?, hholds, hend⟩ := hreturns
      exact ⟨holding?, hholds, hsettled.trans hend⟩

namespace Native

/-- A function that settles its accounts when it is called with values that are accounted for. -/
def Settles (function : Native) : Prop :=
  ∀ (machine : Machine) (accounted : List Holding) (cells : List Cell)
    (held : List (Option Holding)), machine.Coherent → machine.Accounts accounted →
    List.Forall₂ (Cell.Holds machine) cells held → held.reduceOption ⊆ accounted →
    Ends machine (function cells) (machine.Returns accounted) fun after =>
      machine.Settled after accounted

section Bodies

variable (hcoherent : machine.Coherent) (haccounts : machine.Accounts accounted)
include hcoherent haccounts

theorem giving_ends (type : ValueType) (value : type.Value) :
    Ends machine (giving type value) (machine.Returns accounted) fun after =>
      machine.Settled after accounted :=
  (Cell.ofPayload_ends hcoherent haccounts _ _).bind fun _ _ hgives => .pure hgives

variable (hholds : cell.Holds machine holding?) (hsub : ∀ holding ∈ holding?, holding ∈ accounted)
include hholds hsub

theorem converting_ends (name : String) (index : Nat) (type : ValueType) :
    Ends machine (converting name index cell type) (machine.Returns accounted) fun after =>
      machine.Settled after accounted := by
  refine (Cell.get_settles hcoherent haccounts hholds hsub type).ends.bind
    fun result after hafter => ?_
  cases result with
  | error cause => exact .pure hafter
  | ok access =>
      exact (giving_ends hafter.coherent hafter.accounts type access.value).imp
        (fun _ _ hreturns => hafter.returns hreturns) fun _ hend => hafter.trans hend

theorem copying_ends :
    Ends machine (do return .ok (← cell.clone) : Action Machine (Except CallError Cell))
      (machine.Returns accounted) fun after => machine.Settled after accounted :=
  (Cell.clone_ends hcoherent haccounts hholds hsub).bind fun _ _ hgives => .pure hgives

end Bodies

/-- The argument that a function works on holds what is accounted for. -/
theorem onArgument_settles {name : String} {expected index : Nat}
    {body : Cell → Action Machine (Except CallError Cell)} (hindex : index < expected)
    (hbody : ∀ (machine : Machine) (accounted : List Holding) (cell : Cell)
      (holding? : Option Holding), machine.Coherent → machine.Accounts accounted →
      cell.Holds machine holding? → (∀ holding ∈ holding?, holding ∈ accounted) →
      Ends machine (body cell) (machine.Returns accounted) fun after =>
        machine.Settled after accounted) : Settles (onArgument name expected index body) := by
  intro machine accounted cells held hcoherent haccounts hcells hsub
  by_cases hlength : cells.length = expected
  · have hbound : index < cells.length := hlength ▸ hindex
    obtain ⟨holding?, hmem, hholds⟩ :=
      Cell.exists_holding_of_mem hcells (List.getElem_mem hbound)
    rw [onArgument_of_length body hlength (List.getElem?_eq_getElem hbound)]
    refine hbody machine accounted _ holding? hcoherent haccounts hholds ?_
    rintro holding rfl
    exact hsub (List.reduceOption_mem_iff.mpr hmem)
  · rw [onArgument_of_length_ne body hlength]
    exact .pure (.refl hcoherent haccounts)

/-- The functions that sessions can bind, one by one or as modules. -/
def ofSessions : List Native :=
  (named ++ FunctionModule.value.exports ++ FunctionModule.extra.exports).map Prod.snd

/-- All functions that sessions can bind settle their accounts. -/
theorem settles_of_mem {function : Native} (hmem : function ∈ ofSessions) : function.Settles := by
  have htypeName : typeName.Settles :=
    onArgument_settles Nat.one_pos fun _ _ cell _ hcoherent haccounts _ _ =>
      giving_ends hcoherent haccounts .text cell.typeName
  have htoText : toText.Settles :=
    onArgument_settles Nat.one_pos fun machine accounted cell _ hcoherent haccounts hholds hsub =>
      Ends.bind_of_ok (Cell.text_run haccounts hholds hsub)
        (giving_ends hcoherent haccounts .text _)
  have hconvertingTo (name : String) {expected index : Nat} (hindex : index < expected)
      (type : ValueType) : (convertingTo name expected index type).Settles :=
    onArgument_settles hindex fun _ _ _ _ hcoherent haccounts hholds hsub =>
      converting_ends hcoherent haccounts hholds hsub name _ type
  have htoNumber : toNumber.Settles := hconvertingTo "tonumber" Nat.one_pos _
  have htoInteger : toInteger.Settles := hconvertingTo "toint" Nat.one_pos _
  have hisNull : isNull.Settles :=
    onArgument_settles Nat.one_pos fun _ _ cell _ hcoherent haccounts _ _ =>
      giving_ends hcoherent haccounts .boolean cell.isEmpty
  have hecho : echo.Settles :=
    onArgument_settles Nat.one_pos fun _ _ _ _ hcoherent haccounts hholds hsub =>
      copying_ends hcoherent haccounts hholds hsub
  have hsecond : second.Settles :=
    onArgument_settles Nat.one_lt_two fun _ _ _ _ hcoherent haccounts hholds hsub =>
      copying_ends hcoherent haccounts hholds hsub
  have hbyte : byte.Settles := hconvertingTo "byte" Nat.one_lt_two _
  have hnothing : nothing.Settles := by
    intro machine accounted cells held hcoherent haccounts hcells _
    by_cases hlength : cells.length = 0
    · unfold nothing
      rw [expecting_of_length _ hlength]
      exact .pure (Cell.empty_gives hcoherent haccounts)
    · unfold nothing
      rw [expecting_of_length_ne _ hlength]
      exact .pure (.refl hcoherent haccounts)
  have hcount : count.Settles := fun machine accounted cells held hcoherent haccounts _ _ =>
    giving_ends hcoherent haccounts _ _
  simp only [ofSessions, named, FunctionModule.value, FunctionModule.extra, List.cons_append,
    List.nil_append, List.map_cons, List.map_nil, List.mem_cons, List.not_mem_nil, or_false] at hmem
  rcases hmem with rfl | rfl | rfl | rfl | rfl | rfl | rfl | rfl | rfl | rfl | rfl | rfl | rfl <;>
    assumption

end Native

namespace Environment

variable {environment : Environment}

/-- An environment in which no other functions are bound than those that sessions can bind. -/
def IsOfSessions (environment : Environment) : Prop :=
  ∀ name function, environment.lookup name = some function → function ∈ Native.ofSessions

theorem IsOfSessions.bind (henvironment : environment.IsOfSessions) (name : String)
    {function : Native} (hfunction : function ∈ Native.ofSessions) :
    (environment.bind name function).2.IsOfSessions := by
  intro found other hfound
  unfold lookup Environment.bind at hfound
  rw [Directory.get?_insert] at hfound
  split at hfound
  · exact Option.some.inj hfound ▸ hfunction
  · exact henvironment found other hfound

theorem IsOfSessions.bindAll (henvironment : environment.IsOfSessions)
    {exports : List (String × Native)}
    (hexports : ∀ entry ∈ exports, entry.2 ∈ Native.ofSessions) :
    (environment.bindAll exports).IsOfSessions := by
  unfold Environment.bindAll
  induction exports generalizing environment with
  | nil => exact henvironment
  | cons entry rest ih =>
      obtain ⟨hentry, hrest⟩ := List.forall_mem_cons.mp hexports
      exact ih (henvironment.bind entry.1 hentry) hrest

/-- A call by name settles its accounts. -/
theorem IsOfSessions.call_ends (henvironment : environment.IsOfSessions)
    (hcoherent : machine.Coherent) (haccounts : machine.Accounts accounted) (name : String)
    {cells : List Cell} {held : List (Option Holding)}
    (hcells : List.Forall₂ (Cell.Holds machine) cells held) (hsub : held.reduceOption ⊆ accounted) :
    Ends machine (environment.call name cells) (machine.Returns accounted) fun after =>
      machine.Settled after accounted := by
  unfold call
  cases hfound : environment.lookup name with
  | none => exact .pure (.refl hcoherent haccounts)
  | some function =>
      exact Native.settles_of_mem (henvironment name function hfound) machine accounted cells held
        hcoherent haccounts hcells hsub

end Environment

end DynamicValue
