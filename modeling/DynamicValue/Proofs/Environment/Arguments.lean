/-
# The arguments of a call

The functions of the value module take one argument. They count their arguments before they look at
any: with another number of them a call fails, leaves the program as it is and does not depend on
what the arguments are, so not even a broken value would be noticed. The only argument is then found
without looking behind the end of the list, and from there on the call is what it does with this
argument. A call that converts its argument ends as typed access ends.
-/

import DynamicValue.Proofs.Environment.Bindings
import DynamicValue.Proofs.Environment.Settling
import DynamicValue.Proofs.Registry.Relations

namespace DynamicValue

variable {machine after : Machine}

/-- A new value has the payload that it was made with, in whatever program it is made. -/
theorem Cell.valueOf?_of_ofPayload {payload : Payload} {cell : Cell}
    (hmade : ofPayload payload machine = (cell, after)) :
    (cell.valueOf? payload.type).run after = (.ok (some payload.value), after) := by
  unfold valueOf?
  rw [Action.run_bind_ok _ (contents?_of_ofPayload hmade)]
  exact congrArg (fun value? => (Except.ok value?, after)) payload.as?_self

/-! ## One argument -/

namespace FunctionModule

/-- The functions of a module count their arguments, of which there must be one, before they look at
any. No function looks for an argument where there is none: if a call halts, there is one argument,
and having its text or its value as some type halts in the same way. -/
structure ChecksArguments (functions : FunctionModule) : Prop where
  refuses : ∀ name function, (name, function) ∈ functions.exports → ∀ arguments machine,
    arguments.length ≠ 1 →
    (function arguments).run machine =
      (.ok (.error (.wrongArgCount name 1 arguments.length)), machine)
  inBounds : ∀ name function, (name, function) ∈ functions.exports →
    ∀ arguments machine halt after, (function arguments).run machine = (.error halt, after) →
    ∃ argument, arguments = [argument] ∧
      (argument.text.run machine = (.error halt, after) ∨
        ∃ type, (argument.get type).run machine = (.error halt, after))

end FunctionModule

namespace Native

/-- A function that converts its only argument. If typed access gives a value, the result is a new
value that has it; if the access fails, its failure is the cause of an error about the first
argument of a function with the given name; and if it halts, so does the call. Nothing else happens
before, between or afterwards. -/
structure ConvertsArgument (function : Native) (name : String) (type : ValueType) : Prop where
  gives : ∀ argument machine (access : Access type) accessed,
    (argument.get type).run machine = (.ok (.ok access), accessed) →
    ∃ result after, Cell.ofPayload ⟨type, access.value⟩ accessed = (result, after) ∧
      (function [argument]).run machine = (.ok (.ok result), after) ∧
      (result.valueOf? type).run after = (.ok (some access.value), after)
  fails : ∀ argument machine cause accessed,
    (argument.get type).run machine = (.ok (.error cause), accessed) →
    (function [argument]).run machine = (.ok (.error (.badArgument 1 name cause)), accessed)
  halts : ∀ argument machine halt accessed,
    (argument.get type).run machine = (.error halt, accessed) →
    (function [argument]).run machine = (.error halt, accessed)

section Single

variable {name : String} {argument : Cell} {body : Cell → Action Machine (Except CallError Cell)}

theorem onArgument_singleton (name : String) (argument : Cell)
    (body : Cell → Action Machine (Except CallError Cell)) :
    onArgument name 1 0 body [argument] = body argument :=
  onArgument_of_length body rfl rfl

theorem giving_eq (type : ValueType) (value : type.Value) (machine : Machine) :
    (giving type value).run machine =
      (.ok (.ok (Cell.ofPayload ⟨type, value⟩ machine).1),
        (Cell.ofPayload ⟨type, value⟩ machine).2) :=
  Action.run_bind_ok _ (Action.run_lift _ _)

/-- A function of one argument halts only on an argument on which its body halts. -/
theorem exists_argument_of_halt {arguments : List Cell} {halt : Halt}
    (hrun : (onArgument name 1 0 body arguments).run machine = (.error halt, after)) :
    ∃ argument, arguments = [argument] ∧ (body argument).run machine = (.error halt, after) := by
  by_cases hlength : arguments.length = 1
  · obtain ⟨argument, rfl⟩ := List.length_eq_one_iff.mp hlength
    rw [onArgument_singleton] at hrun
    exact ⟨argument, rfl, hrun⟩
  · rw [onArgument_of_length_ne body hlength] at hrun
    cases hrun

/-- What is made of a result does not halt, so what halts comes before. -/
theorem halt_of_bind {α : Type} {looking : Action Machine α}
    {next : α → Action Machine (Except CallError Cell)} {halt : Halt}
    (hnext : ∀ value machine, ∃ result, ((next value).run machine).1 = .ok result)
    (hrun : (looking >>= next).run machine = (.error halt, after)) :
    looking.run machine = (.error halt, after) := by
  rcases hlooking : looking.run machine with ⟨outcome, looked⟩
  cases outcome with
  | error other =>
      rw [Action.run_bind_error _ hlooking] at hrun
      cases hrun
      rfl
  | ok value =>
      obtain ⟨result, hresult⟩ := hnext value looked
      rw [Action.run_bind_ok _ hlooking] at hrun
      rw [hrun] at hresult
      cases hresult

theorem converting_ends_ok (name : String) (index : Nat) (type : ValueType)
    (result : Except AccessError (Access type)) (machine : Machine) :
    ∃ ended, ((match result with
      | .ok access => giving type access.value
      | .error cause => pure (.error (.badArgument index name cause)) :
        Action Machine (Except CallError Cell)).run machine).1 = .ok ended := by
  cases result with
  | ok access => exact ⟨_, congrArg Prod.fst (giving_eq type access.value machine)⟩
  | error cause => exact ⟨_, rfl⟩

end Single

theorem convertingTo_convertsArgument (name : String) (type : ValueType) :
    (convertingTo name 1 0 type).ConvertsArgument name type where
  gives argument machine access accessed hget := by
    have hgiving := giving_eq type access.value accessed
    rcases hmade : Cell.ofPayload ⟨type, access.value⟩ accessed with ⟨result, made⟩
    rw [hmade] at hgiving
    refine ⟨result, made, rfl, ?_, Cell.valueOf?_of_ofPayload hmade⟩
    unfold convertingTo
    rw [onArgument_singleton]
    exact (Action.run_bind_ok _ hget).trans hgiving
  fails argument machine cause accessed hget := by
    unfold convertingTo
    rw [onArgument_singleton]
    exact Action.run_bind_ok _ hget
  halts argument machine halt accessed hget := by
    unfold convertingTo
    rw [onArgument_singleton]
    exact Action.run_bind_error _ hget

end Native

namespace FunctionModule

/-- A function of the value module is a function of one argument under its own name, which halts
only while the text of the argument or its value as some type is had. -/
theorem exists_body_of_mem_value {name : String} {function : Native}
    (hmem : (name, function) ∈ value.exports) :
    ∃ body, function = Native.onArgument name 1 0 body ∧
      ∀ argument machine halt after, (body argument).run machine = (.error halt, after) →
        argument.text.run machine = (.error halt, after) ∨
          ∃ type, (argument.get type).run machine = (.error halt, after) := by
  have hgiving {type : ValueType} {value : type.Value} {machine after : Machine} {halt : Halt} :
      (Native.giving type value).run machine ≠ (.error halt, after) := by
    rw [Native.giving_eq]
    nofun
  have hconverting (name : String) (type : ValueType) (argument : Cell) (machine : Machine)
      (halt : Halt) (after : Machine)
      (hrun : (Native.converting name 1 argument type).run machine = (.error halt, after)) :
      argument.text.run machine = (.error halt, after) ∨
        ∃ type, (argument.get type).run machine = (.error halt, after) :=
    .inr ⟨type, Native.halt_of_bind (Native.converting_ends_ok name 1 type) hrun⟩
  simp only [value, List.mem_cons, Prod.mk.injEq, List.not_mem_nil, or_false] at hmem
  rcases hmem with ⟨rfl, rfl⟩ | ⟨rfl, rfl⟩ | ⟨rfl, rfl⟩ | ⟨rfl, rfl⟩ | ⟨rfl, rfl⟩
  · exact ⟨_, rfl, fun _ _ _ _ hrun => absurd hrun hgiving⟩
  · exact ⟨_, rfl, fun _ _ _ _ hrun => .inl (Native.halt_of_bind
      (fun text machine => ⟨_, congrArg Prod.fst (Native.giving_eq .text text machine)⟩) hrun)⟩
  · exact ⟨_, rfl, hconverting "tonumber" _⟩
  · exact ⟨_, rfl, hconverting "toint" _⟩
  · exact ⟨_, rfl, fun _ _ _ _ hrun => absurd hrun hgiving⟩

theorem value_checksArguments : value.ChecksArguments where
  refuses name function hmem arguments machine hlength := by
    obtain ⟨body, rfl, -⟩ := exists_body_of_mem_value hmem
    rw [Native.onArgument_of_length_ne body hlength, Action.run_pure]
  inBounds name function hmem arguments machine halt after hrun := by
    obtain ⟨body, rfl, hbody⟩ := exists_body_of_mem_value hmem
    obtain ⟨argument, hsingle, hhalt⟩ := Native.exists_argument_of_halt hrun
    exact ⟨argument, hsingle, hbody argument machine halt after hhalt⟩

/-- When the module has been loaded, its functions are called by their names, whatever was bound
before. -/
theorem call_loaded_value (bindings : List (String × Native)) {name : String} {function : Native}
    (hmem : (name, function) ∈ value.exports) (arguments : List Cell) :
    (Environment.ofBindings (bindings ++ value.exports)).call name arguments =
      function arguments := by
  have hnodup : (value.exports.map Prod.fst).Nodup := by decide
  exact (Environment.ofBindings_showsBindings _).bound name arguments function
    (Environment.lastBound?_append_of_mem hnodup hmem)

end FunctionModule

/-! ## Functions that answer for themselves -/

namespace Native

/-- A part of a function that never ends with an error about an unknown function. -/
def FindsFunctions (action : Action Machine (Except CallError Cell)) : Prop :=
  ∀ machine name, (action.run machine).1 ≠ .ok (.error (.unknownFunction name))

namespace FindsFunctions

theorem pure {result : Except CallError Cell}
    (hresult : ∀ name, result ≠ .error (.unknownFunction name)) :
    FindsFunctions (Pure.pure result) := fun _ name hrun => hresult name (Except.ok.inj hrun)

theorem bind {α : Type} {looking : Action Machine α}
    {next : α → Action Machine (Except CallError Cell)}
    (hnext : ∀ value, FindsFunctions (next value)) : FindsFunctions (looking >>= next) := by
  intro machine name
  rcases hlooking : looking.run machine with ⟨outcome, looked⟩
  cases outcome with
  | error halt =>
      rw [Action.run_bind_error _ hlooking]
      nofun
  | ok value =>
      rw [Action.run_bind_ok _ hlooking]
      exact hnext value looked name

theorem returning (result : Cell) : FindsFunctions (Pure.pure (.ok result)) := pure nofun

theorem giving (type : ValueType) (value : type.Value) : FindsFunctions (giving type value) :=
  bind fun _ => returning _

theorem converting (name : String) (index : Nat) (argument : Cell) (type : ValueType) :
    FindsFunctions (converting name index argument type) := by
  refine bind fun result => ?_
  cases result with
  | ok access => exact giving type access.value
  | error cause => exact pure nofun

theorem expecting {name : String} {expected : Nat}
    {body : List Cell → Action Machine (Except CallError Cell)}
    (hbody : ∀ arguments, FindsFunctions (body arguments)) :
    (expecting name expected body).AnswersForItself := by
  intro arguments
  by_cases hlength : arguments.length = expected
  · rw [expecting_of_length body hlength]
    exact hbody arguments
  · rw [expecting_of_length_ne body hlength]
    exact pure nofun

theorem onArgument {name : String} {expected index : Nat}
    {body : Cell → Action Machine (Except CallError Cell)}
    (hbody : ∀ argument, FindsFunctions (body argument)) :
    (onArgument name expected index body).AnswersForItself :=
  expecting fun _ => bind hbody

end FindsFunctions

/-- No function that sessions can bind says that some function is unknown. -/
theorem answersForItself_ofSessions : ∀ function ∈ ofSessions, function.AnswersForItself := by
  have htypeName : typeName.AnswersForItself :=
    FindsFunctions.onArgument fun _ => FindsFunctions.giving _ _
  have htoText : toText.AnswersForItself :=
    FindsFunctions.onArgument fun _ => FindsFunctions.bind fun _ => FindsFunctions.giving _ _
  have hconvertingTo (name : String) (expected index : Nat) (type : ValueType) :
      (convertingTo name expected index type).AnswersForItself :=
    FindsFunctions.onArgument fun argument =>
      FindsFunctions.converting name (index + 1) argument type
  have hisNull : isNull.AnswersForItself :=
    FindsFunctions.onArgument fun _ => FindsFunctions.giving _ _
  have hcopying (name : String) (expected index : Nat) :
      (onArgument name expected index fun argument => do
        return .ok (← argument.clone)).AnswersForItself :=
    FindsFunctions.onArgument fun _ => FindsFunctions.bind fun _ => FindsFunctions.returning _
  have hcount : count.AnswersForItself := fun _ => FindsFunctions.giving _ _
  have hnothing : nothing.AnswersForItself :=
    FindsFunctions.expecting fun _ => FindsFunctions.returning _
  simp only [ofSessions, named, FunctionModule.value, FunctionModule.extra, List.cons_append,
    List.nil_append, List.map_cons, List.map_nil, List.forall_mem_cons]
  exact ⟨hcopying "echo" 1 0, hcount, hcopying "second" 2 1, hconvertingTo "byte" 2 1 _, hnothing,
    htypeName, htoText, hconvertingTo "tonumber" 1 0 _, hconvertingTo "toint" 1 0 _, hisNull,
    hcount, hcopying "echo" 1 0, hcopying "second" 2 1, List.forall_mem_nil _⟩

end Native

end DynamicValue
