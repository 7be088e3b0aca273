/-
# Identities and tables of a running program

A program is coherent if its identities carry the numbers from one upwards in the order in which
they were handed out, no type has two, and each operation table is listed at its own number with the
identity of its type. In a coherent program two identities, or two tables, are the same if and only
if their types are.

Handing out an identity and building a table keep a program coherent and only add to what it knows:
what was handed out before stays.
-/

import DynamicValue.Proofs.Machine.Holdings

namespace DynamicValue.Machine

/-- The identities are numbered from one in their order, each type has at most one, and each table
stands at its number with the identity of its type. -/
structure Coherent (machine : Machine) : Prop where
  numbered : ∀ (index : Nat) (identity : TypeIdentity), machine.identities[index]? = some identity →
    identity.number = index + 1 ∧ identity.type?.isSome
  distinct : (machine.identities.map TypeIdentity.type?).Nodup
  listed : ∀ (index : Nat) (table : OperationTable), machine.tables[index]? = some table →
    table.number = index ∧ table.identity ∈ machine.identities ∧
      table.identity.type? = some table.type
  once : (machine.tables.map OperationTable.type).Nodup

/-- What a program knows, another one knows as well: its identities and its tables, in their
order. -/
structure Extends (before after : Machine) : Prop where
  identities : before.identities <+: after.identities
  tables : before.tables <+: after.tables

/-- One program comes from another by learning types: nothing but identities, tables and log lines
is different. -/
structure Learns (before after : Machine) : Prop extends Extends before after where
  heap : after.heap = before.heap
  created : after.created = before.created
  destroyed : after.destroyed = before.destroyed
  events : after.events = before.events
  global? : after.global? = before.global?

namespace Extends

variable {first second third machine : Machine}

theorem refl (machine : Machine) : machine.Extends machine :=
  ⟨List.prefix_rfl, List.prefix_rfl⟩

theorem trans (hfirst : first.Extends second) (hsecond : second.Extends third) :
    first.Extends third :=
  ⟨hfirst.identities.trans hsecond.identities, hfirst.tables.trans hsecond.tables⟩

theorem advance (machine : Machine) (heap : List (Option Instance)) (created : Nat)
    (destroyed : List Nat) (events : List Event) :
    machine.Extends (machine.advance heap created destroyed events) :=
  ⟨List.prefix_rfl, List.prefix_rfl⟩

end Extends

namespace Learns

variable {first second third machine : Machine}

theorem refl (machine : Machine) : machine.Learns machine :=
  ⟨.refl machine, rfl, rfl, rfl, rfl, rfl⟩

theorem trans (hfirst : first.Learns second) (hsecond : second.Learns third) :
    first.Learns third where
  toExtends := hfirst.toExtends.trans hsecond.toExtends
  heap := hsecond.heap.trans hfirst.heap
  created := hsecond.created.trans hfirst.created
  destroyed := hsecond.destroyed.trans hfirst.destroyed
  events := hsecond.events.trans hfirst.events
  global? := hsecond.global?.trans hfirst.global?

/-- Learning types does not change who holds what. -/
theorem accounts (hlearns : first.Learns second) {holdings : List Holding}
    (haccounts : first.Accounts holdings) : second.Accounts holdings where
  instances := by simpa only [hlearns.destroyed, hlearns.created] using haccounts.instances
  boxes address contents := by
    simpa only [hlearns.heap] using haccounts.boxes address contents

end Learns

namespace Coherent

variable {machine : Machine} {identity other : TypeIdentity} {table second : OperationTable}
  {type : ValueType}

theorem fresh : Machine.fresh.Coherent where
  numbered index identity hget := by simp [Machine.fresh] at hget
  distinct := .nil
  listed index table hget := by simp [Machine.fresh] at hget
  once := .nil

/-- Nothing but the identities and the tables matters. -/
theorem congr {after : Machine} (hcoherent : machine.Coherent)
    (hidentities : after.identities = machine.identities)
    (htables : after.tables = machine.tables) : after.Coherent where
  numbered := hidentities ▸ hcoherent.numbered
  distinct := hidentities ▸ hcoherent.distinct
  listed := hidentities ▸ htables ▸ hcoherent.listed
  once := htables ▸ hcoherent.once

theorem advance (hcoherent : machine.Coherent) (heap : List (Option Instance)) (created : Nat)
    (destroyed : List Nat) (events : List Event) :
    (machine.advance heap created destroyed events).Coherent :=
  hcoherent.congr rfl rfl

/-- No identity that was handed out has the number of the empty value. -/
theorem isNull_eq_false (hcoherent : machine.Coherent) (hmem : identity ∈ machine.identities) :
    identity.isNull = false := by
  obtain ⟨index, hget⟩ := List.mem_iff_getElem?.mp hmem
  have hnumber := (hcoherent.numbered index identity hget).1
  simp [TypeIdentity.isNull, TypeIdentity.null, hnumber]

/-- Identities with the same number are the same identity. -/
theorem eq_of_same (hcoherent : machine.Coherent) (hmem : identity ∈ machine.identities)
    (hother : other ∈ machine.identities) (hsame : identity.same other) : identity = other := by
  obtain ⟨index, hget⟩ := List.mem_iff_getElem?.mp hmem
  obtain ⟨index', hget'⟩ := List.mem_iff_getElem?.mp hother
  have hnumber := (hcoherent.numbered index identity hget).1
  have hnumber' := (hcoherent.numbered index' other hget').1
  have hindex : index = index' := by
    simp only [TypeIdentity.same, decide_eq_true_eq] at hsame
    omega
  rw [hindex, hget'] at hget
  exact (Option.some.inj hget).symm

/-- Identities of the same type are the same identity. -/
theorem eq_of_type_eq (hcoherent : machine.Coherent) (hmem : identity ∈ machine.identities)
    (hother : other ∈ machine.identities) (htype : identity.type? = other.type?) :
    identity = other :=
  List.inj_on_of_nodup_map hcoherent.distinct hmem hother htype

/-- The identity of a type is the one among those handed out that has this type. -/
theorem identity?_eq_some_iff (hcoherent : machine.Coherent) :
    machine.identity? type = some identity ↔
      identity ∈ machine.identities ∧ identity.type? = some type := by
  constructor
  · intro hfind
    exact ⟨List.mem_of_find?_eq_some hfind, by simpa using List.find?_some hfind⟩
  · rintro ⟨hmem, htype⟩
    cases hfind : machine.identity? type with
    | none =>
        have hno := List.find?_eq_none.mp hfind identity hmem
        exact absurd htype (by simpa using hno)
    | some found =>
        have hfound : found.type? = some type := by simpa using List.find?_some hfind
        rw [hcoherent.eq_of_type_eq (List.mem_of_find?_eq_some hfind) hmem
          (hfound.trans htype.symm)]

/-- Two identities that were handed out are the same if and only if their types are. -/
theorem same_iff (hcoherent : machine.Coherent) {source dest : ValueType}
    (hidentity : machine.identity? source = some identity)
    (hother : machine.identity? dest = some other) : identity.same other ↔ source = dest := by
  obtain ⟨hmem, htype⟩ := hcoherent.identity?_eq_some_iff.mp hidentity
  obtain ⟨hmem', htype'⟩ := hcoherent.identity?_eq_some_iff.mp hother
  constructor
  · intro hsame
    have heq := hcoherent.eq_of_same hmem hmem' hsame
    rw [heq, htype'] at htype
    exact (Option.some.inj htype).symm
  · rintro rfl
    rw [hidentity] at hother
    simp [TypeIdentity.same, Option.some.inj hother]

/-- The table of a type is the one among those built that has this type. -/
theorem table?_eq_some_iff (hcoherent : machine.Coherent) :
    machine.table? type = some table ↔ table ∈ machine.tables ∧ table.type = type := by
  constructor
  · intro hfind
    exact ⟨List.mem_of_find?_eq_some hfind, by simpa using List.find?_some hfind⟩
  · rintro ⟨hmem, htype⟩
    cases hfind : machine.table? type with
    | none =>
        have hno := List.find?_eq_none.mp hfind table hmem
        exact absurd htype (by simpa using hno)
    | some found =>
        have hfound : found.type = type := by simpa using List.find?_some hfind
        rw [List.inj_on_of_nodup_map hcoherent.once (List.mem_of_find?_eq_some hfind) hmem
          (hfound.trans htype.symm)]

/-- The identity in a table is the identity of its type. -/
theorem identity?_of_table (hcoherent : machine.Coherent) (hmem : table ∈ machine.tables) :
    machine.identity? table.type = some table.identity := by
  obtain ⟨index, hget⟩ := List.mem_iff_getElem?.mp hmem
  exact hcoherent.identity?_eq_some_iff.mpr (hcoherent.listed index table hget).2

/-- Two tables that were built are the same if and only if their types are. -/
theorem table_same_iff (hcoherent : machine.Coherent) (hmem : table ∈ machine.tables)
    (hsecond : second ∈ machine.tables) : table.same second ↔ table.type = second.type := by
  constructor
  · intro hsame
    obtain ⟨index, hget⟩ := List.mem_iff_getElem?.mp hmem
    obtain ⟨index', hget'⟩ := List.mem_iff_getElem?.mp hsecond
    have hnumber := (hcoherent.listed index table hget).1
    have hnumber' := (hcoherent.listed index' second hget').1
    have hindex : index = index' := by
      simp only [OperationTable.same, decide_eq_true_eq] at hsame
      omega
    rw [hindex, hget'] at hget
    rw [Option.some.inj hget]
  · intro htype
    rw [List.inj_on_of_nodup_map hcoherent.once hmem hsecond htype]
    simp [OperationTable.same]

/-- Identities stay. -/
theorem identity?_of_extends {after : Machine} (hcoherent : machine.Coherent)
    (hafter : after.Coherent) (hextends : machine.Extends after)
    (hidentity : machine.identity? type = some identity) :
    after.identity? type = some identity := by
  obtain ⟨hmem, htype⟩ := hcoherent.identity?_eq_some_iff.mp hidentity
  exact hafter.identity?_eq_some_iff.mpr ⟨hextends.identities.subset hmem, htype⟩

end Coherent

/-! ## Handing out identities -/

variable {machine : Machine} {type : ValueType}

/-- An entry of a list with one more element was there before or is the new one at the end. -/
private theorem getElem?_append_singleton {α : Type} {entries : List α} {new found : α}
    {index : Nat} (hget : (entries ++ [new])[index]? = some found) :
    entries[index]? = some found ∨ index = entries.length ∧ found = new := by
  rw [List.getElem?_append] at hget
  split at hget
  · exact Or.inl hget
  · rename_i hlength
    rw [List.getElem?_singleton] at hget
    split at hget
    · exact Or.inr ⟨by omega, (Option.some.inj hget).symm⟩
    · cases hget

theorem identify_of_some {identity : TypeIdentity}
    (hfound : machine.identity? type = some identity) :
    identify type machine = (identity, machine) := by
  unfold identify
  simp only [Action.bind_apply, show (get : StateM Machine Machine) machine = (machine, machine)
    from rfl, hfound]
  rfl

theorem identify_of_none (hnew : machine.identity? type = none) :
    identify type machine =
      (⟨machine.identities.length + 1, some type⟩,
        { machine with
          identities := machine.identities ++ [⟨machine.identities.length + 1, some type⟩]
          log := machine.log ++ [.allocated ⟨machine.identities.length + 1, some type⟩] }) := by
  unfold identify
  simp only [Action.bind_apply, show (get : StateM Machine Machine) machine = (machine, machine)
    from rfl, hnew]
  rfl

theorem identify_learns (type : ValueType) (machine : Machine) :
    machine.Learns (identify type machine).2 := by
  cases hfound : machine.identity? type with
  | some identity =>
      rw [identify_of_some hfound]
      exact .refl machine
  | none =>
      rw [identify_of_none hfound]
      exact ⟨⟨List.prefix_append _ _, List.prefix_rfl⟩, rfl, rfl, rfl, rfl, rfl⟩

theorem identify_coherent (hcoherent : machine.Coherent) (type : ValueType) :
    (identify type machine).2.Coherent := by
  cases hfound : machine.identity? type with
  | some identity =>
      rw [identify_of_some hfound]
      exact hcoherent
  | none =>
      rw [identify_of_none hfound]
      have hunknown := List.find?_eq_none.mp hfound
      constructor
      · intro index identity hget
        rcases getElem?_append_singleton hget with hknown | ⟨rfl, rfl⟩
        · exact hcoherent.numbered index identity hknown
        · exact ⟨rfl, rfl⟩
      · rw [List.map_append, List.map_singleton, List.nodup_append]
        refine ⟨hcoherent.distinct, List.nodup_singleton _, ?_⟩
        intro known hknown new hnew heq
        obtain ⟨identity, hmem, rfl⟩ := List.mem_map.mp hknown
        rw [List.mem_singleton.mp hnew] at heq
        exact absurd heq (by simpa using hunknown identity hmem)
      · intro index table hget
        obtain ⟨hnumber, hmem, htype⟩ := hcoherent.listed index table hget
        exact ⟨hnumber, List.mem_append_left _ hmem, htype⟩
      · exact hcoherent.once

/-- What is handed out for a type is its identity from then on. -/
theorem identity?_identify (hcoherent : machine.Coherent) (type : ValueType) :
    (identify type machine).2.identity? type = some (identify type machine).1 := by
  rw [(identify_coherent hcoherent type).identity?_eq_some_iff]
  cases hfound : machine.identity? type with
  | some identity =>
      rw [identify_of_some hfound]
      exact hcoherent.identity?_eq_some_iff.mp hfound
  | none =>
      rw [identify_of_none hfound]
      exact ⟨by simp, rfl⟩

/-! ## Building tables -/

theorem tableFor_of_some {table : OperationTable} (hfound : machine.table? type = some table) :
    tableFor type machine = (table, machine) := by
  unfold tableFor
  simp only [Action.bind_apply, show (get : StateM Machine Machine) machine = (machine, machine)
    from rfl, hfound]
  rfl

theorem tableFor_of_none (hnew : machine.table? type = none) :
    tableFor type machine =
      (⟨(identify type machine).2.tables.length, type, (identify type machine).1⟩,
        { (identify type machine).2 with
          tables := (identify type machine).2.tables ++
            [⟨(identify type machine).2.tables.length, type, (identify type machine).1⟩]
          log := (identify type machine).2.log ++ [.builtTable type] }) := by
  unfold tableFor
  simp only [Action.bind_apply, show (get : StateM Machine Machine) machine = (machine, machine)
    from rfl, hnew]
  rfl

theorem tableFor_learns (type : ValueType) (machine : Machine) :
    machine.Learns (tableFor type machine).2 := by
  cases hfound : machine.table? type with
  | some table =>
      rw [tableFor_of_some hfound]
      exact .refl machine
  | none =>
      rw [tableFor_of_none hfound]
      refine (identify_learns type machine).trans ?_
      exact ⟨⟨List.prefix_rfl, List.prefix_append _ _⟩, rfl, rfl, rfl, rfl, rfl⟩

theorem tableFor_coherent (hcoherent : machine.Coherent) (type : ValueType) :
    (tableFor type machine).2.Coherent := by
  cases hfound : machine.table? type with
  | some table =>
      rw [tableFor_of_some hfound]
      exact hcoherent
  | none =>
      rw [tableFor_of_none hfound]
      have hnext := identify_coherent hcoherent type
      have htables : (identify type machine).2.tables = machine.tables := by
        cases hidentity : machine.identity? type with
        | some identity => rw [identify_of_some hidentity]
        | none => rw [identify_of_none hidentity]
      have hunknown := List.find?_eq_none.mp hfound
      obtain ⟨hmem, htype⟩ :=
        hnext.identity?_eq_some_iff.mp (identity?_identify hcoherent type)
      constructor
      · exact hnext.numbered
      · exact hnext.distinct
      · intro index table hget
        rcases getElem?_append_singleton hget with hknown | ⟨rfl, rfl⟩
        · exact hnext.listed index table hknown
        · exact ⟨rfl, hmem, htype⟩
      · rw [List.map_append, List.map_singleton, List.nodup_append]
        refine ⟨hnext.once, List.nodup_singleton _, ?_⟩
        intro known hknown new hnew heq
        obtain ⟨table, htable, rfl⟩ := List.mem_map.mp hknown
        rw [List.mem_singleton.mp hnew] at heq
        rw [htables] at htable
        exact absurd heq (by simpa using hunknown table htable)

/-- What is built for a type is its table from then on. -/
theorem table?_tableFor (hcoherent : machine.Coherent) (type : ValueType) :
    (tableFor type machine).2.table? type = some (tableFor type machine).1 := by
  rw [(tableFor_coherent hcoherent type).table?_eq_some_iff]
  cases hfound : machine.table? type with
  | some table =>
      rw [tableFor_of_some hfound]
      exact hcoherent.table?_eq_some_iff.mp hfound
  | none =>
      rw [tableFor_of_none hfound]
      exact ⟨by simp, rfl⟩

end DynamicValue.Machine
