/-
# Identities, tables and values agree

Three things tell what type a dynamic value has: the number of its identity, the table that it
refers to, and the payload itself. They come from two lists that grow at first uses, in whatever
order these happen, and from the heap. In every state that a session reaches they tell the same: the
numbers are exactly those from one to the count of the types used so far, a type keeps its identity
and its table, and a value shows the identity and the table of precisely that type under which its
payload is found.
-/

import DynamicValue.Proofs.Cell.Access
import DynamicValue.Proofs.Session.Steps
import Mathlib.Algebra.Group.Nat.Defs

namespace DynamicValue

/-! ## What a program knows about types -/

namespace Machine

/-- The identities that a program has handed out: they are numbered from one without a gap, far
below the end of the numbers, and each belongs to a type of its own, whose name and class it
carries. None is that of the empty value, and asking again changes nothing. -/
structure NumbersTypes (machine : Machine) : Prop where
  numbers : machine.identities.map TypeIdentity.number =
    List.range' 1 machine.identities.length
  few : machine.identities.length < 2 ^ 32 - 1
  owned : ∀ identity ∈ machine.identities, ∃ type, machine.identity? type = some identity
  carries : ∀ type identity, machine.identity? type = some identity →
    identity.name = type.name ∧ identity.typeClass = type.typeClass ∧
      identity.same .null = false ∧ identify type machine = (identity, machine)
  distinct : ∀ first second firstIdentity secondIdentity,
    machine.identity? first = some firstIdentity →
    machine.identity? second = some secondIdentity →
    (firstIdentity.same secondIdentity ↔ first = second)

/-- The tables that a program has built: there is one for each type at most, its type has the
identity that it shows, and asking again gives the same table. -/
structure TabulatesTypes (machine : Machine) : Prop where
  once : (machine.tables.map OperationTable.type).Nodup
  identified : ∀ table ∈ machine.tables, machine.identity? table.type = some table.identity ∧
    tableFor table.type machine = (table, machine)
  distinct : ∀ first ∈ machine.tables, ∀ second ∈ machine.tables,
    (first.same second ↔ first.type = second.type)

/-- A use of a type, which may be the first: its table shows the identity that it gets when it is
asked for its identity, and both are known from then on. -/
structure UsesType (machine : Machine) (type : ValueType) : Prop where
  identity : (identify type machine).1.name = type.name ∧
    (identify type machine).1.typeClass = type.typeClass ∧
    (identify type machine).2.identity? type = some (identify type machine).1
  table : (tableFor type machine).1.type = type ∧
    (tableFor type machine).1.identity = (identify type machine).1 ∧
    (tableFor type machine).2.identity? type = some (tableFor type machine).1.identity ∧
    (tableFor type machine).2.table? type = some (tableFor type machine).1

/-- What a program knows about types, another one knows in the same way. -/
structure KeepsTypes (machine later : Machine) : Prop where
  identities : machine.identities <+: later.identities
  tables : machine.tables <+: later.tables
  identity? : ∀ type identity, machine.identity? type = some identity →
    later.identity? type = some identity
  table? : ∀ type table, machine.table? type = some table → later.table? type = some table

namespace Coherent

variable {machine later : Machine} {type : ValueType}

theorem numbers_eq (hcoherent : machine.Coherent) :
    machine.identities.map TypeIdentity.number = List.range' 1 machine.identities.length := by
  refine List.ext_getElem (by simp) fun index hindex hindex' => ?_
  have hlength : index < machine.identities.length := by simpa using hindex
  have hnumber := (hcoherent.numbered index _ (List.getElem?_eq_getElem hlength)).1
  rw [List.getElem_map, List.getElem_range', hnumber]
  omega

/-- There are no more identities than types. -/
theorem length_identities_le (hcoherent : machine.Coherent) :
    machine.identities.length ≤ ValueType.all.length := by
  have hsubset : machine.identities.map TypeIdentity.type? ⊆ ValueType.all.map some := by
    intro type? hmem
    obtain ⟨identity, hidentity, rfl⟩ := List.mem_map.mp hmem
    obtain ⟨index, hget⟩ := List.mem_iff_getElem?.mp hidentity
    obtain ⟨type, htype⟩ :=
      Option.isSome_iff_exists.mp (hcoherent.numbered index identity hget).2
    exact htype ▸ List.mem_map_of_mem (ValueType.mem_all type)
  simpa using (List.subperm_of_subset hcoherent.distinct hsubset).length_le

theorem numbersTypes (hcoherent : machine.Coherent) : machine.NumbersTypes where
  numbers := hcoherent.numbers_eq
  few := Nat.lt_of_le_of_lt hcoherent.length_identities_le (by decide)
  owned identity hmem := by
    obtain ⟨index, hget⟩ := List.mem_iff_getElem?.mp hmem
    obtain ⟨type, htype⟩ :=
      Option.isSome_iff_exists.mp (hcoherent.numbered index identity hget).2
    exact ⟨type, hcoherent.identity?_eq_some_iff.mpr ⟨hmem, htype⟩⟩
  carries type identity hidentity := by
    obtain ⟨hmem, htype⟩ := hcoherent.identity?_eq_some_iff.mp hidentity
    refine ⟨?_, ?_, hcoherent.isNull_eq_false hmem, identify_of_some hidentity⟩
    · rw [TypeIdentity.name, htype]
    · rw [TypeIdentity.typeClass, htype]
  distinct _ _ _ _ hfirst hsecond := hcoherent.same_iff hfirst hsecond

theorem tabulatesTypes (hcoherent : machine.Coherent) : machine.TabulatesTypes where
  once := hcoherent.once
  identified _ hmem := ⟨hcoherent.identity?_of_table hmem,
    tableFor_of_some (hcoherent.table?_eq_some_iff.mpr ⟨hmem, rfl⟩)⟩
  distinct _ hfirst _ hsecond := hcoherent.table_same_iff hfirst hsecond

/-- The table of a type shows its identity, whichever of the two is asked for first. -/
theorem identity_tableFor (hcoherent : machine.Coherent) (type : ValueType) :
    (tableFor type machine).1.identity = (identify type machine).1 := by
  cases hfound : machine.table? type with
  | some table =>
      obtain ⟨hmem, rfl⟩ := hcoherent.table?_eq_some_iff.mp hfound
      rw [tableFor_of_some hfound, identify_of_some (hcoherent.identity?_of_table hmem)]
  | none => rw [tableFor_of_none hfound]

theorem usesType (hcoherent : machine.Coherent) (type : ValueType) : machine.UsesType type := by
  have hidentity := identity?_identify hcoherent type
  have hcarries := (identify_coherent hcoherent type).numbersTypes.carries _ _ hidentity
  have htable := table?_tableFor hcoherent type
  obtain ⟨hmem, htype⟩ := (tableFor_coherent hcoherent type).table?_eq_some_iff.mp htable
  have hshown := (tableFor_coherent hcoherent type).identity?_of_table hmem
  rw [htype] at hshown
  exact ⟨⟨hcarries.1, hcarries.2.1, hidentity⟩,
    ⟨htype, hcoherent.identity_tableFor type, hshown, htable⟩⟩

theorem keepsTypes (hcoherent : machine.Coherent) (hlater : later.Coherent)
    (hextends : machine.Extends later) : machine.KeepsTypes later where
  identities := hextends.identities
  tables := hextends.tables
  identity? _ _ := hcoherent.identity?_of_extends hlater hextends
  table? type table htable := by
    obtain ⟨hmem, htype⟩ := hcoherent.table?_eq_some_iff.mp htable
    exact hlater.table?_eq_some_iff.mpr ⟨hextends.tables.subset hmem, htype⟩

end Coherent

end Machine

/-! ## What a value tells about its type -/

namespace Cell

/-- Whether a value holds a payload of a type is told by the payload, by the identity that the value
shows, by its table and by what it gives out as this type, and they all agree. None of these
questions changes anything in the program; and neither does an access as the type that the value
holds, which lends the payload. -/
structure Tells (cell : Cell) (machine : Machine) (type : ValueType) (answer : Bool) : Prop where
  holds : (cell.holds type).run machine = (.ok answer, machine)
  identity : cell.identity.same (Machine.identify type machine).1 = answer
  table : (cell.table?.any fun table => table.same (Machine.tableFor type machine).1) = answer
  value : ∃ value?, (cell.valueOf? type).run machine = (.ok value?, machine) ∧
    value?.isSome = answer ∧ ∀ value, value? = some value →
      (cell.extract type).run machine = (.ok (.ok ⟨value, true⟩), machine) ∧
      (cell.get type).run machine = (.ok (.ok ⟨value, true⟩), machine) ∧
      (cell.tryGet type).run machine = (.ok (some ⟨value, true⟩), machine)
  instanceOf : ∃ contents?, (cell.instanceOf? type).run machine = (.ok contents?, machine) ∧
    contents?.isSome = answer

section Tells

variable {machine : Machine} {holdings : List Holding} {cell : Cell} {holding? : Option Holding}
  {type : ValueType}

/-- A payload that is found under its type is lent, and nothing changes. -/
theorem access_run {value : type.Value}
    (hvalue : (cell.valueOf? type).run machine = (.ok (some value), machine)) :
    (cell.extract type).run machine = (.ok (.ok ⟨value, true⟩), machine) ∧
      (cell.get type).run machine = (.ok (.ok ⟨value, true⟩), machine) ∧
      (cell.tryGet type).run machine = (.ok (some ⟨value, true⟩), machine) := by
  have hextract := Cell.extract_of_some hvalue
  exact ⟨hextract, Action.run_bind_ok _ hextract, Action.run_bind_ok _ hextract⟩

/-- A payload has a value under its own type and under no other one. -/
theorem isSome_as? (payload : Payload) (type : ValueType) :
    (payload.as? type).isSome = decide (payload.type = type) := by
  unfold Payload.as?
  split <;> simp_all

/-- The identity that a value shows is that of the type that it holds. -/
theorem Holds.same_identify (hholds : cell.Holds machine holding?) (hcoherent : machine.Coherent)
    (type : ValueType) :
    cell.identity.same (Machine.identify type machine).1 =
      holding?.any fun holding => holding.payload.type = type := by
  have hknown := Machine.identity?_identify hcoherent type
  have hafter := Machine.identify_coherent hcoherent type
  cases holding? with
  | none =>
      have hnull := hafter.isNull_eq_false (hafter.identity?_eq_some_iff.mp hknown).1
      rw [hholds.eq_empty]
      simp only [TypeIdentity.isNull, decide_eq_false_iff_not] at hnull
      exact decide_eq_false (Ne.symm hnull)
  | some holding =>
      have hlearns := Machine.identify_learns type machine
      have hshown := hcoherent.identity?_of_extends hafter hlearns.toExtends
        (hholds.identity?_eq hcoherent)
      rw [Bool.eq_iff_iff, hafter.same_iff hshown hknown, Option.any_some, decide_eq_true_eq]

/-- The table of a value is that of the type that it holds. -/
theorem Holds.same_tableFor (hholds : cell.Holds machine holding?) (hcoherent : machine.Coherent)
    (type : ValueType) :
    (cell.table?.any fun table => table.same (Machine.tableFor type machine).1) =
      holding?.any fun holding => holding.payload.type = type := by
  have hafter := Machine.tableFor_coherent hcoherent type
  obtain ⟨hmem, htype⟩ := hafter.table?_eq_some_iff.mp (Machine.table?_tableFor hcoherent type)
  cases holding? with
  | none =>
      rw [hholds.eq_empty]
      rfl
  | some holding =>
      obtain ⟨table, htable, hlisted, hheld⟩ := hholds.exists_table
      have hlearns := Machine.tableFor_learns type machine
      rw [htable, Option.any_some, Option.any_some, Bool.eq_iff_iff,
        hafter.table_same_iff (hlearns.tables.subset hlisted) hmem, hheld, htype,
        decide_eq_true_eq]

/-- All that a value tells about a type agrees with what it holds. -/
theorem Holds.tells (hholds : cell.Holds machine holding?) (hcoherent : machine.Coherent)
    (haccounts : machine.Accounts holdings) (hsub : ∀ holding ∈ holding?, holding ∈ holdings)
    (type : ValueType) :
    cell.Tells machine type (holding?.any fun holding => holding.payload.type = type) where
  holds := holds_run haccounts hholds hsub type
  identity := hholds.same_identify hcoherent type
  table := hholds.same_tableFor hcoherent type
  value := by
    have hvalue := valueOf?_run haccounts hholds hsub type
    refine ⟨_, hvalue, ?_, fun value hsome => access_run (hsome ▸ hvalue)⟩
    cases holding? with
    | none => rfl
    | some holding => exact isSome_as? holding.payload type
  instanceOf := by
    refine ⟨_, instanceOf?_run haccounts hholds hsub type, ?_⟩
    cases holding? with
    | none => rfl
    | some holding =>
        rw [Option.map_some, Option.filter_some, Option.any_some]
        split <;> simp_all [Holding.payload]

end Tells

end Cell

/-! ## Sessions -/

namespace Session

/-- What a session knows about types is in order: its identities, its tables, and what each variable
and each value that is handed to a function tells about any type. -/
structure KnowsTypes (session : Session) : Prop where
  identities : session.machine.NumbersTypes
  tables : session.machine.TabulatesTypes
  uses : ∀ type, session.machine.UsesType type
  ofVariables : ∀ name cell, session.cells.get? name = some cell →
    ∀ type, ∃ answer, cell.Tells session.machine type answer
  ofArguments : ∀ arguments cells after,
    (buildArguments [] arguments).run session = (.ok cells, after) →
    session.machine.KeepsTypes after.machine ∧
      ∀ cell ∈ cells, ∀ type, ∃ answer, cell.Tells after.machine type answer

theorem Owns.knowsTypes {session : Session} {holdings : Directory (Option Holding)}
    (howns : session.Owns holdings []) : session.KnowsTypes where
  identities := howns.coherent.numbersTypes
  tables := howns.coherent.tabulatesTypes
  uses := howns.coherent.usesType
  ofVariables name cell hget type := by
    obtain ⟨holding?, hheld, hholds⟩ := howns.exists_holding hget
    exact ⟨_, hholds.tells howns.coherent howns.accounts (Owns.mem_accounts hheld) type⟩
  ofArguments arguments cells after hrun := by
    have hends := buildArguments_ends arguments (⟨[], .nil, .refl howns⟩ :
      session.Built holdings [] session)
    obtain ⟨held, hcells, hsettled⟩ := hends.ok cells after hrun
    have hafter := hsettled.owns
    refine ⟨howns.coherent.keepsTypes hafter.coherent hsettled.knows, fun cell hmem type => ?_⟩
    obtain ⟨holding?, hheld, hholds⟩ := Cell.exists_holding_of_mem hcells hmem
    have hsub : ∀ holding ∈ holding?,
        holding ∈ held.reduceOption ++ holdings.values.reduceOption := fun holding hsome =>
      List.mem_append_left _ (List.reduceOption_mem_iff.mpr (Option.mem_def.mp hsome ▸ hheld))
    exact ⟨_, hholds.tells hafter.coherent hafter.accounts hsub type⟩

/-- In every state that a session reaches, whatever the order in which types are used first, the
numbers that have been handed out are exactly those from one to the count of types, distinct types
have distinct identities and tables, and a type keeps its identity and its table from then on. What
a value tells about a type does not depend on whether the payload, the identity or the table is
asked, and asking changes nothing. -/
theorem reached_identities_agree (isFresh : Bool) (commands more : List (Except Complaint Command))
    (hcommands : ∀ command, .ok command ∈ commands ++ more → command.BindsSessionFunctions) :
    let session := afterSteps isFresh commands
    let later := afterSteps isFresh (commands ++ more)
    session.KnowsTypes ∧ session.machine.KeepsTypes later.machine := by
  intro session later
  have hrest : session.AtRest := afterSteps_atRest isFresh fun command hmem =>
    hcommands command (List.mem_append_left _ hmem)
  obtain ⟨holdings, howns⟩ := hrest.owns
  have hcontinued : later = (more.mapM report session).2 := afterSteps_append isFresh commands more
  obtain ⟨hlater, hextends⟩ := hrest.mapM_report fun command hmem =>
    hcommands command (List.mem_append_right _ hmem)
  rw [← hcontinued] at hlater hextends
  obtain ⟨_, hlaterOwns⟩ := hlater.owns
  exact ⟨howns.knowsTypes, howns.coherent.keepsTypes hlaterOwns.coherent hextends⟩

/-- Steps that use types first as a table, as an identity, as values and in the global registry. -/
def firstUses : List (Except Complaint Command) :=
  [.ok (.table (.ok .text)),
    .ok (.new "flag" (.ok (some ⟨.boolean, true⟩))),
    .ok (.identity (.ok (some .probe))),
    .ok (.registrySize .global),
    .ok (.new "probe" (.ok (some ⟨.probe, ⟨"probe", 0, .onDrop⟩⟩)))]

/-- Steps that use types again, and others first. -/
def furtherUses : List (Except Complaint Command) :=
  [.ok (.coerce .global "flag" (.ok .text)),
    .ok (.reset "probe"),
    .ok (.new "flag" (.ok (some ⟨.literal, "flag"⟩)))]

theorem uses_in_any_order_agree :
    (∀ command, .ok command ∈ firstUses ++ furtherUses → command.BindsSessionFunctions) ∧
      (afterSteps true firstUses).KnowsTypes ∧
      (afterSteps true firstUses).machine.KeepsTypes
        (afterSteps true (firstUses ++ furtherUses)).machine := by
  have hcommands : ∀ command, .ok command ∈ firstUses ++ furtherUses →
      command.BindsSessionFunctions := by
    simp only [firstUses, furtherUses, List.cons_append, List.nil_append, List.mem_cons,
      Except.ok.injEq, List.not_mem_nil, or_false]
    rintro command (rfl | rfl | rfl | rfl | rfl | rfl | rfl | rfl) <;> trivial
  exact ⟨hcommands, reached_identities_agree true firstUses furtherUses hcommands⟩

end Session

end DynamicValue
