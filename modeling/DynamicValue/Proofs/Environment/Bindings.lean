/-
# What an environment shows of its bindings

Whatever is bound, one function at a time or a module at once, an environment is determined by the
bindings in the order in which they were made. A name has the function that was bound to it last, so
an environment is asked for its functions as the list of bindings is: by what is said last about a
name. Its own listing of the names is in the order of their bytes, with each bound name in it once.
-/

import DynamicValue.Environment.Natives
import DynamicValue.Proofs.Action
import DynamicValue.Proofs.Directory
import DynamicValue.Proofs.Text.ByteOrder
import Mathlib.Data.List.Induction

namespace DynamicValue

namespace Native

/-- A function that never says that some function is unknown. -/
def AnswersForItself (function : Native) : Prop :=
  ∀ arguments machine name,
    ((function arguments).run machine).1 ≠ .ok (.error (.unknownFunction name))

end Native

namespace Environment

/-- The function of the last binding of a name. -/
def lastBound? (bindings : List (String × Native)) (name : String) : Option Native :=
  ((bindings.filter fun binding => binding.1 = name).getLast?).map Prod.snd

/-- The environment in which functions were bound in their order, and nothing else. -/
def ofBindings (bindings : List (String × Native)) : Environment := empty.bindAll bindings

section Bindings

variable {bindings : List (String × Native)} {name : String}

theorem lastBound?_concat (bindings : List (String × Native)) (binding : String × Native)
    (name : String) :
    lastBound? (bindings ++ [binding]) name =
      if name = binding.1 then some binding.2 else lastBound? bindings name := by
  unfold lastBound?
  rw [List.filter_append]
  split
  · rename_i hname
    have hlast : [binding].filter (fun binding => binding.1 = name) = [binding] := by
      simp [hname]
    rw [hlast, List.getLast?_concat]
    rfl
  · rename_i hname
    have hnone : [binding].filter (fun binding => binding.1 = name) = [] := by
      simp [Ne.symm hname]
    rw [hnone, List.append_nil]

/-- A name has a last binding if it has any. -/
theorem isSome_lastBound? :
    (lastBound? bindings name).isSome ↔ name ∈ bindings.map Prod.fst := by
  unfold lastBound?
  rw [Option.isSome_map, List.getLast?_isSome, Ne, List.filter_eq_nil_iff, List.mem_map]
  simp

/-- The functions of a list without a repeated name are found by their names, whatever was bound
before. -/
theorem lastBound?_append_of_mem {more : List (String × Native)} {function : Native}
    (hnodup : (more.map Prod.fst).Nodup) (hmem : (name, function) ∈ more) :
    lastBound? (bindings ++ more) name = some function := by
  induction more using List.reverseRecOn with
  | nil => cases hmem
  | append_singleton more binding ih =>
      rw [← List.append_assoc, lastBound?_concat]
      rw [List.map_append, List.nodup_append] at hnodup
      obtain hmore | hlast := List.mem_append.mp hmem
      · have hne : name ≠ binding.1 :=
          hnodup.2.2 name (List.mem_map_of_mem hmore) binding.1 (List.mem_singleton_self _)
        rw [if_neg hne]
        exact ih hnodup.1 hmore
      · rw [← List.mem_singleton.mp hlast, if_pos rfl]

/-! ## An environment and its bindings -/

theorem ofBindings_append (bindings more : List (String × Native)) :
    ofBindings (bindings ++ more) = (ofBindings bindings).bindAll more :=
  List.foldl_append

theorem ofBindings_concat (bindings : List (String × Native)) (binding : String × Native) :
    ofBindings (bindings ++ [binding]) = ((ofBindings bindings).bind binding.1 binding.2).2 :=
  ofBindings_append bindings [binding]

theorem lookup_bind (environment : Environment) (name : String) (function : Native)
    (other : String) :
    (environment.bind name function).2.lookup other =
      if other = name then some function else environment.lookup other :=
  Directory.get?_insert environment.functions name other function

/-- What is found under a name is what was bound to it last. -/
theorem lookup_ofBindings (bindings : List (String × Native)) (name : String) :
    (ofBindings bindings).lookup name = lastBound? bindings name := by
  induction bindings using List.reverseRecOn with
  | nil => rfl
  | append_singleton bindings binding ih =>
      rw [ofBindings_concat, lookup_bind, lastBound?_concat, ih]

/-- The names of an environment are those under which a function is found. -/
theorem mem_names_iff (environment : Environment) (name : String) :
    name ∈ environment.names ↔ (environment.lookup name).isSome := by
  unfold names Directory.names lookup
  rw [List.mem_map, Option.isSome_iff_exists]
  constructor
  · rintro ⟨⟨_, function⟩, hmem, rfl⟩
    exact ⟨function, Directory.mem_entries_iff.mp hmem⟩
  · rintro ⟨function, hfound⟩
    exact ⟨(name, function), Directory.mem_entries_iff.mpr hfound, rfl⟩

/-- The names of an environment are in the order of their bytes, and none of them is there twice. -/
theorem names_ascending (environment : Environment) :
    environment.names.Pairwise fun first second => Text.bytes first < Text.bytes second :=
  List.pairwise_map.mpr (environment.functions.ascending.imp Text.bytes_lt_of_lt)

theorem size_eq (environment : Environment) : environment.size = environment.names.length :=
  (List.length_map Prod.fst).symm

theorem isEmpty_iff (environment : Environment) :
    environment.isEmpty ↔ ∀ name, name ∉ environment.names := by
  rw [← List.eq_nil_iff_forall_not_mem]
  unfold names Directory.names isEmpty Directory.isEmpty
  rw [List.isEmpty_iff, List.map_eq_nil_iff]

end Bindings

/-! ## Calls -/

theorem call_eq (environment : Environment) (name : String) (arguments : List Cell) :
    environment.call name arguments =
      match environment.lookup name with
      | some function => function arguments
      | none => pure (.error (.unknownFunction name)) := rfl

/-- Functions that answer for themselves leave it to the environment to say what is unknown. -/
theorem call_unknown_iff {environment : Environment} {name : String}
    (hanswers : ∀ function ∈ environment.lookup name, function.AnswersForItself)
    (arguments : List Cell) (machine : Machine) (found : String) :
    ((environment.call name arguments).run machine).1 = .ok (.error (.unknownFunction found)) ↔
      environment.lookup name = none ∧ found = name := by
  rw [call_eq]
  cases hlookup : environment.lookup name with
  | none =>
      rw [Action.run_pure]
      constructor
      · intro hrun
        cases hrun
        exact ⟨rfl, rfl⟩
      · rintro ⟨-, rfl⟩
        rfl
  | some function =>
      constructor
      · exact fun hrun => absurd hrun (hanswers function hlookup arguments machine found)
      · rintro ⟨hnone, -⟩
        cases hnone

/-! ## Everything that an environment shows -/

/-- What an environment shows of itself is what its bindings say: a name has the function that was
bound to it last, binding it again gives this function back, the names are those of the bindings in
the order of their bytes, and a call of a name that is not among them fails while any other call is
what the function makes of the arguments. -/
structure ShowsBindings (environment : Environment) (bindings : List (String × Native)) :
    Prop where
  lookup : ∀ name, environment.lookup name = lastBound? bindings name
  replaced : ∀ name function, (environment.bind name function).1 = lastBound? bindings name
  replaces : ∀ name function,
    (environment.bind name function).1.isSome ↔ name ∈ bindings.map Prod.fst
  ascending : environment.names.Pairwise fun first second => Text.bytes first < Text.bytes second
  names : ∀ name, name ∈ environment.names ↔ name ∈ bindings.map Prod.fst
  size : environment.size = environment.names.length
  isEmpty : environment.isEmpty ↔ bindings = []
  unbound : ∀ name arguments, name ∉ bindings.map Prod.fst →
    environment.call name arguments = pure (.error (.unknownFunction name))
  bound : ∀ name arguments function, lastBound? bindings name = some function →
    environment.call name arguments = function arguments
  unknown : ∀ name, (∀ function ∈ lastBound? bindings name, function.AnswersForItself) →
    ∀ arguments machine found,
      ((environment.call name arguments).run machine).1 =
          .ok (.error (.unknownFunction found)) ↔
        name ∉ bindings.map Prod.fst ∧ found = name

theorem ofBindings_showsBindings (bindings : List (String × Native)) :
    (ofBindings bindings).ShowsBindings bindings := by
  have hlookup := lookup_ofBindings bindings
  have hnone (name : String) :
      (ofBindings bindings).lookup name = none ↔ name ∉ bindings.map Prod.fst := by
    rw [hlookup, ← isSome_lastBound?, Option.not_isSome_iff_eq_none]
  have hnames (name : String) :
      name ∈ (ofBindings bindings).names ↔ name ∈ bindings.map Prod.fst := by
    rw [mem_names_iff, hlookup, isSome_lastBound?]
  exact {
    lookup := hlookup
    replaced := fun name _ => hlookup name
    replaces := fun name _ => by
      rw [← isSome_lastBound?, ← hlookup]
      exact Iff.rfl
    ascending := names_ascending _
    names := hnames
    size := size_eq _
    isEmpty := by
      simp only [isEmpty_iff, hnames]
      rw [← List.eq_nil_iff_forall_not_mem, List.map_eq_nil_iff]
    unbound := fun name arguments hunbound => by
      rw [call_eq, (hnone name).mpr hunbound]
    bound := fun name arguments function hbound => by
      rw [call_eq, hlookup, hbound]
    unknown := fun name hanswers arguments machine found => by
      rw [call_unknown_iff (hlookup name ▸ hanswers), hnone] }

end Environment

end DynamicValue
