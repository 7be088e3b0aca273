/-
# What a program logs about its registries and types

Everything that a program has logged is in agreement with what it knows: one line for each identity
and for each table, in their order, and one for each registry that was made with the built-in
conversions. A line never comes before the identities of the types that it is about. Which
conversions were replaced is not to be seen in the program any more; it follows from a record of
the operations on its registries, which nothing but these operations changes.
-/

import DynamicValue.Proofs.Conversion.BuiltIn
import DynamicValue.Proofs.Environment.Relations

namespace DynamicValue

namespace LogLine

/-- The identity that a line reports as handed out. -/
def allocated? : LogLine → Option TypeIdentity
  | allocated identity => some identity
  | _ => none

/-- The type whose table a line reports as built. -/
def built? : LogLine → Option ValueType
  | builtTable type => some type
  | _ => none

/-- The pair of types whose conversion a line reports as replaced. -/
def replaced? : LogLine → Option (ValueType × ValueType)
  | replaced source dest => some (source, dest)
  | _ => none

/-- Whether a line reports that a registry has got the built-in conversions. -/
def isReady : LogLine → Bool
  | registryReady _ => true
  | _ => false

/-- The types that must have been given identities before a line is written. -/
def needs : LogLine → List ValueType
  | builtTable type => [type]
  | registryReady _ => BuiltIn.all.flatMap fun builtIn => [builtIn.source, builtIn.dest]
  | replaced source dest => [source, dest]
  | _ => []

section Lines

variable {lines : List LogLine}

/-- The lines of one kind are those that are made from what is picked out of them. -/
theorem mem_filterMap_iff {α : Type} {pick : LogLine → Option α} (make : α → LogLine)
    (hpick : ∀ line value, pick line = some value ↔ line = make value) {value : α} :
    value ∈ lines.filterMap pick ↔ make value ∈ lines := by
  simp only [List.mem_filterMap, hpick, exists_eq_right]

theorem mem_allocated {identity : TypeIdentity} :
    identity ∈ lines.filterMap allocated? ↔ .allocated identity ∈ lines :=
  mem_filterMap_iff allocated fun line _ => by cases line <;> simp [allocated?]

theorem mem_built {type : ValueType} :
    type ∈ lines.filterMap built? ↔ .builtTable type ∈ lines :=
  mem_filterMap_iff builtTable fun line _ => by cases line <;> simp [built?]

end Lines

/-- Some lines report that the identity of a type was handed out. -/
def Allocate (lines : List LogLine) (type : ValueType) : Prop :=
  ∃ identity, .allocated identity ∈ lines ∧ identity.type? = some type

end LogLine

/-- What has been done with registries: the operations on each of them from its start, how many of
the named ones were made with the built-in conversions, and the pairs of types whose live
conversion was replaced. Whether the program is fresh decides if the global registry may be changed.
-/
structure RegistryRecord where
  isFresh : Bool
  named : Directory (List RegistryOperation)
  global : List RegistryOperation
  installations : Nat
  replacements : List (ValueType × ValueType)

namespace RegistryRecord

/-- Nothing has been done yet. The global registry will be made with the built-in conversions. -/
def start (isFresh : Bool) : RegistryRecord := ⟨isFresh, .empty, BuiltIn.registrations, 0, []⟩

/-- The record with what a line reports. -/
def noting (record : RegistryRecord) : LogLine → RegistryRecord
  | .registryReady _ => { record with installations := record.installations + 1 }
  | .replaced source dest =>
    { record with replacements := record.replacements ++ [(source, dest)] }
  | _ => record

/-- The record with a registration in a registry that has a history: it replaces a conversion that
is live. -/
def registering (record : RegistryRecord) (history : List RegistryOperation)
    (source dest : ValueType) : RegistryRecord :=
  if isLive history (source, dest) then record.noting (.replaced source dest) else record

/-- The record with an operation on a registry that has a history. -/
def carrying (record : RegistryRecord) (history : List RegistryOperation) :
    RegistryOperation → RegistryRecord
  | .register source dest _ => record.registering history source dest
  | .unregister .. => record

section Carrying

variable (record : RegistryRecord) (history : List RegistryOperation)

/-- Nothing is noted about an operation itself but what it replaces. -/
theorem registering_eq (source dest : ValueType) : ∃ replacements,
    record.registering history source dest = { record with replacements := replacements } := by
  unfold registering
  split
  · exact ⟨_, rfl⟩
  · exact ⟨record.replacements, rfl⟩

theorem carrying_eq (operation : RegistryOperation) : ∃ replacements,
    record.carrying history operation = { record with replacements := replacements } := by
  cases operation with
  | register source dest conversion => exact record.registering_eq history source dest
  | unregister => exact ⟨record.replacements, rfl⟩

@[simp] theorem carrying_named (operation : RegistryOperation) :
    (record.carrying history operation).named = record.named := by
  obtain ⟨replacements, heq⟩ := record.carrying_eq history operation
  rw [heq]

@[simp] theorem carrying_isFresh (operation : RegistryOperation) :
    (record.carrying history operation).isFresh = record.isFresh := by
  obtain ⟨replacements, heq⟩ := record.carrying_eq history operation
  rw [heq]

end Carrying

end RegistryRecord

namespace Machine

/-- What a program has logged from its start agrees with what it knows, and with the record of its
registries. -/
structure HasLogged (machine : Machine) (lines : List LogLine) (record : RegistryRecord) :
    Prop where
  coherent : machine.Coherent
  allocated : lines.filterMap LogLine.allocated? = machine.identities
  built : lines.filterMap LogLine.built? = machine.tables.map OperationTable.type
  behind : ∀ before line, before ++ [line] <+: lines → ∀ type ∈ line.needs,
    LogLine.Allocate before type
  ready : lines.countP LogLine.isReady = record.installations + machine.global?.isSome.toNat
  conversions : ∀ number, .registryReady number ∈ lines → number = BuiltIn.all.length
  replaced : lines.filterMap LogLine.replaced? = record.replacements
  unused : machine.global? = none → record.global = BuiltIn.registrations
  global : ∀ registry ∈ machine.global?, registry.Follows machine record.global

variable {machine after : Machine} {lines : List LogLine} {record : RegistryRecord}
  {type : ValueType}

/-- Nothing but the identities and the tables matters to what a program knows. -/
theorem Extends.of_eq (hidentities : after.identities = machine.identities)
    (htables : after.tables = machine.tables) : machine.Extends after :=
  ⟨hidentities ▸ List.prefix_rfl, htables ▸ List.prefix_rfl⟩

namespace HasLogged

/-- A program that has not used any type has logged nothing. -/
theorem fresh (isFresh : Bool) : Machine.fresh.HasLogged [] (.start isFresh) where
  coherent := .fresh
  allocated := rfl
  built := rfl
  behind before line hbefore := by simp at hbefore
  ready := rfl
  conversions := by simp
  replaced := rfl
  unused _ := rfl
  global := by simp [Machine.fresh]

/-- Nothing but the identities, the tables and the global registry of the program matters. -/
theorem congr (hlogged : machine.HasLogged lines record)
    (hidentities : after.identities = machine.identities) (htables : after.tables = machine.tables)
    (hglobal : after.global? = machine.global?) : after.HasLogged lines record := by
  have hcoherent := hlogged.coherent.congr hidentities htables
  have hextends : machine.Extends after := .of_eq hidentities htables
  exact {
    coherent := hcoherent
    allocated := hlogged.allocated.trans hidentities.symm
    built := by rw [htables, hlogged.built]
    behind := hlogged.behind
    ready := by rw [hglobal, hlogged.ready]
    conversions := hlogged.conversions
    replaced := hlogged.replaced
    unused := fun hnone => hlogged.unused (hglobal ▸ hnone)
    global := fun registry hmem =>
      (hlogged.global registry (hglobal ▸ hmem)).mono hextends hcoherent }

/-- An identity that has been handed out is in the log. -/
theorem allocate (hlogged : machine.HasLogged lines record)
    (hknown : (machine.identity? type).isSome) : LogLine.Allocate lines type := by
  obtain ⟨identity, hidentity⟩ := Option.isSome_iff_exists.mp hknown
  obtain ⟨hmem, htype⟩ := hlogged.coherent.identity?_eq_some_iff.mp hidentity
  rw [← hlogged.allocated, LogLine.mem_allocated] at hmem
  exact ⟨identity, hmem, htype⟩

/-- A line is written when the types that it is about have got their identities. -/
theorem write (hlogged : machine.HasLogged lines record) (line : LogLine)
    (hcoherent : after.Coherent)
    (hidentities : after.identities = machine.identities ++ line.allocated?.toList)
    (htables : after.tables.map OperationTable.type =
      machine.tables.map OperationTable.type ++ line.built?.toList)
    (hextends : machine.Extends after) (hglobal : after.global? = machine.global?)
    (hneeds : ∀ type ∈ line.needs, (machine.identity? type).isSome)
    (hnumber : ∀ number, line = .registryReady number → number = BuiltIn.all.length) :
    after.HasLogged (lines ++ [line]) (record.noting line) where
  coherent := hcoherent
  allocated := by
    rw [List.filterMap_append, hlogged.allocated, hidentities]
    cases line <;> rfl
  built := by
    rw [List.filterMap_append, hlogged.built, htables]
    cases line <;> rfl
  behind before other hbefore type hmem := by
    rcases List.prefix_concat_iff.mp hbefore with heq | hearlier
    · obtain ⟨rfl, hline⟩ := List.append_inj' heq rfl
      rw [List.singleton_inj.mp hline] at hmem
      exact hlogged.allocate (hneeds type hmem)
    · exact hlogged.behind before other hearlier type hmem
  ready := by
    rw [List.countP_append, hlogged.ready, hglobal]
    cases line with
    | registryReady number => exact Nat.add_right_comm _ _ 1
    | _ => rfl
  conversions number hmem := by
    rcases List.mem_append.mp hmem with hearlier | hnew
    · exact hlogged.conversions number hearlier
    · exact hnumber number (List.mem_singleton.mp hnew).symm
  replaced := by
    rw [List.filterMap_append, hlogged.replaced]
    cases line <;> simp [RegistryRecord.noting, LogLine.replaced?]
  unused hnone := by
    rw [← hlogged.unused (hglobal ▸ hnone)]
    cases line <;> rfl
  global registry hmem := by
    have hfollows := (hlogged.global registry (hglobal ▸ hmem)).mono hextends hcoherent
    cases line <;> exact hfollows

end HasLogged

/-- From one state of a program to the next, the log goes on in agreement with what the program
knows, while the record of its registries becomes another one. -/
def LogsTo (machine after : Machine) (record noted : RegistryRecord) : Prop :=
  ∀ earlier, machine.HasLogged (earlier ++ machine.log) record →
    after.HasLogged (earlier ++ after.log) noted ∧ machine.Extends after

/-- A program goes on with its log while nothing is done to its registries. -/
def LogsOn (machine after : Machine) : Prop := ∀ record, machine.LogsTo after record record

theorem LogsTo.trans {final : Machine} {noted last : RegistryRecord}
    (hfirst : machine.LogsTo after record noted) (hsecond : after.LogsTo final noted last) :
    machine.LogsTo final record last := by
  intro earlier hlogged
  obtain ⟨hafter, hextends⟩ := hfirst earlier hlogged
  obtain ⟨hfinal, hextends'⟩ := hsecond earlier hafter
  exact ⟨hfinal, hextends.trans hextends'⟩

theorem composes_logsOn : Composes LogsOn :=
  ⟨fun machine _ _ hlogged => ⟨hlogged, .refl machine⟩,
    fun hfirst hsecond record => (hfirst record).trans (hsecond record)⟩

/-- A program that knows the same and has written nothing. -/
theorem LogsOn.of_same (hlog : after.log = machine.log)
    (hidentities : after.identities = machine.identities) (htables : after.tables = machine.tables)
    (hglobal : after.global? = machine.global?) : machine.LogsOn after := by
  intro record earlier hlogged
  exact ⟨hlog ▸ hlogged.congr hidentities htables hglobal, .of_eq hidentities htables⟩

/-- A line that is written about types that are known. -/
theorem LogsTo.writeLog (line : LogLine) (hallocated : line.allocated? = none)
    (hbuilt : line.built? = none)
    (hneeds : machine.Coherent → ∀ type ∈ line.needs, (machine.identity? type).isSome)
    (hnumber : ∀ number, line = .registryReady number → number = BuiltIn.all.length) :
    machine.LogsTo (Machine.writeLog line machine).2 record (record.noting line) := by
  intro earlier hlogged
  have hextends : machine.Extends (Machine.writeLog line machine).2 :=
    ⟨List.prefix_rfl, List.prefix_rfl⟩
  have hlog : (Machine.writeLog line machine).2.log = machine.log ++ [line] := rfl
  refine ⟨?_, hextends⟩
  rw [hlog, ← List.append_assoc]
  refine hlogged.write line (hlogged.coherent.congr rfl rfl) ?_ ?_ hextends rfl
    (hneeds hlogged.coherent) hnumber
  · rw [hallocated, Option.toList_none, List.append_nil]
    rfl
  · rw [hbuilt, Option.toList_none, List.append_nil]
    rfl

theorem identify_logsOn (type : ValueType) (machine : Machine) :
    machine.LogsOn (identify type machine).2 := by
  cases hfound : machine.identity? type with
  | some identity =>
      rw [identify_of_some hfound]
      exact composes_logsOn.refl machine
  | none =>
      intro record earlier hlogged
      have hextends := (identify_learns type machine).toExtends
      have hcoherent := identify_coherent hlogged.coherent type
      rw [identify_of_none hfound] at hextends hcoherent ⊢
      refine ⟨?_, hextends⟩
      rw [← List.append_assoc]
      exact hlogged.write _ hcoherent rfl (List.append_nil _).symm hextends rfl
        (by simp [LogLine.needs]) (by simp)

theorem tableFor_logsOn (type : ValueType) (machine : Machine) :
    machine.LogsOn (tableFor type machine).2 := by
  cases hfound : machine.table? type with
  | some table =>
      rw [tableFor_of_some hfound]
      exact composes_logsOn.refl machine
  | none =>
      intro record earlier hlogged
      have hmiddle := (identify_logsOn type machine record earlier hlogged).1
      have hextends := (tableFor_learns type machine).toExtends
      have hcoherent := tableFor_coherent hlogged.coherent type
      rw [tableFor_of_none hfound] at hextends hcoherent ⊢
      refine ⟨?_, hextends⟩
      rw [← List.append_assoc]
      refine hmiddle.write (.builtTable type) hcoherent (List.append_nil _).symm
        (List.map_append ..) ⟨List.prefix_rfl, List.prefix_append _ _⟩ rfl ?_ (by simp)
      intro needed hneeded
      rw [List.mem_singleton.mp hneeded, identity?_identify hlogged.coherent]
      rfl

end Machine

/-! ## Operations on registries -/

namespace Registry

variable {machine : Machine} {history : List RegistryOperation} {registry : Registry}
  {source dest : ValueType}

/-- A registration identifies its types, and writes that it has replaced a conversion if one was
live. -/
theorem Follows.register_state (hfollows : registry.Follows machine history)
    (conversion : Conversion source dest) :
    let known := (Machine.identify dest (Machine.identify source machine).2).2
    (registry.register source dest conversion machine).2 =
      if isLive history (source, dest) then
        (Machine.writeLog (.replaced source dest) known).2
      else known := by
  obtain ⟨sourceIdentity, destIdentity, known, middle, hsource, hdest, hlearns, hknown,
    hsourceKey, hdestKey⟩ := identify_both hfollows.coherent source dest
  have hcontains := (hfollows.mono hlearns.toExtends hknown).contains_eq hsourceKey hdestKey
  unfold Registry.register
  rw [Action.bind_apply, hsource, Action.bind_apply, hdest]
  simp only [hcontains]
  cases isLive history (source, dest) <;> rfl

theorem Follows.register_logsTo (hfollows : registry.Follows machine history)
    (conversion : Conversion source dest) (record : RegistryRecord) :
    machine.LogsTo (registry.register source dest conversion machine).2 record
      (record.registering history source dest) := by
  obtain ⟨_, _, known, middle, hsource, hdest, -, -, hsourceKey, hdestKey⟩ :=
    identify_both hfollows.coherent source dest
  have hboth : machine.LogsOn (Machine.identify dest (Machine.identify source machine).2).2 :=
    Machine.composes_logsOn.trans (Machine.identify_logsOn source machine)
      (Machine.identify_logsOn dest _)
  rw [hfollows.register_state]
  unfold RegistryRecord.registering
  split
  · refine (hboth record).trans (.writeLog (.replaced source dest) rfl rfl ?_ (by simp))
    rw [hsource, hdest]
    intro hcoherent type hneeded
    rcases List.mem_cons.mp hneeded with rfl | hneeded
    · rw [hsourceKey]
      rfl
    · rw [List.mem_singleton.mp hneeded, hdestKey]
      rfl
  · exact hboth record

theorem unregister_logsOn (registry : Registry) (source dest : ValueType) (machine : Machine) :
    machine.LogsOn (registry.unregister source dest machine).2 :=
  Machine.composes_logsOn.trans (Machine.identify_logsOn source machine)
    (Machine.identify_logsOn dest _)

/-- An operation writes that it has replaced a conversion if it has. -/
theorem Follows.apply_logsTo (hfollows : registry.Follows machine history)
    (operation : RegistryOperation) (record : RegistryRecord) :
    machine.LogsTo (operation.apply registry machine).2 record
      (record.carrying history operation) := by
  cases operation with
  | register source dest conversion => exact hfollows.register_logsTo conversion record
  | unregister source dest => exact unregister_logsOn registry source dest machine record

/-- A pair that no operation is about has no live conversion. -/
theorem isLive_of_not_mem {pair : ValueType × ValueType}
    (hnot : pair ∉ history.map RegistryOperation.types) : isLive history pair = false := by
  rw [← Bool.not_eq_true]
  intro hlive
  obtain ⟨conversion, hconversion⟩ := Option.isSome_iff_exists.mp hlive
  exact hnot (List.mem_map_of_mem (register_mem_of_live hconversion))

/-- Conversions for pairs that differ from each other, and from those before, are registered
without replacing anything: all that happens to the program is that types are identified. -/
theorem Follows.registerAll_relates {relation : Machine → Machine → Prop}
    (hcomposes : Composes relation)
    (hidentify : ∀ type machine, relation machine (Machine.identify type machine).2)
    (hfollows : registry.Follows machine history) (builtIns : List BuiltIn)
    (hdistinct : (history.map RegistryOperation.types ++
      builtIns.map fun builtIn => (builtIn.source, builtIn.dest)).Nodup) :
    relation machine ((builtIns.foldlM (fun registry builtIn => registry.register builtIn.source
      builtIn.dest builtIn.rule.conversion) registry : StateM Machine Registry) machine).2 := by
  induction builtIns generalizing registry machine history with
  | nil => exact hcomposes.refl machine
  | cons builtIn rest ih =>
      rw [List.map_cons, List.append_cons] at hdistinct
      have hnew : (builtIn.source, builtIn.dest) ∉ history.map RegistryOperation.types :=
        fun hmem => (List.nodup_append.mp hdistinct.of_append_left).2.2 _ hmem _
          (List.mem_singleton_self _) rfl
      have hfirst : relation machine
          (registry.register builtIn.source builtIn.dest builtIn.rule.conversion machine).2 := by
        rw [hfollows.register_state, isLive_of_not_mem hnew, if_neg Bool.false_ne_true]
        exact hcomposes.trans (hidentify _ _) (hidentify _ _)
      exact hcomposes.trans hfirst
        (ih (hfollows.register builtIn.rule.conversion).1 (by rwa [List.map_append]))

/-- A registry with the built-in conversions has as many conversions as there are. -/
theorem Follows.size_of_builtIns (hfollows : registry.Follows machine BuiltIn.registrations) :
    registry.size = BuiltIn.all.length := by
  have hperm : (registry.entries.map fun entry => (entry.source, entry.dest)).Perm
      (BuiltIn.registrations.map RegistryOperation.types) := by
    rw [List.perm_ext_iff_of_nodup hfollows.types_nodup BuiltIn.types_nodup]
    intro pair
    constructor
    · intro hmem
      obtain ⟨entry, hentry, rfl⟩ := List.mem_map.mp hmem
      exact List.mem_map_of_mem (register_mem_of_live (hfollows.sound entry hentry))
    · intro hmem
      obtain ⟨operation, hoperation, rfl⟩ := List.mem_map.mp hmem
      obtain ⟨builtIn, hbuiltIn, rfl⟩ := List.mem_map.mp hoperation
      have hlive := BuiltIn.liveConversion?_eq hbuiltIn
      obtain ⟨entry, hentry, hsource, hdest⟩ := hfollows.complete builtIn.source builtIn.dest (by
        rw [hlive]
        rfl)
      exact List.mem_map.mpr ⟨entry, hentry, Prod.ext hsource hdest⟩
  have hlength := hperm.length_eq
  rwa [List.length_map, List.length_map, BuiltIn.registrations, List.length_map] at hlength

/-- The types of the built-in conversions have identities when a registry has got these. -/
theorem Follows.knows_builtIns (hfollows : registry.Follows machine BuiltIn.registrations)
    {type : ValueType} {number : Nat} (hneeded : type ∈ (LogLine.registryReady number).needs) :
    (machine.identity? type).isSome := by
  obtain ⟨builtIn, hmem, htype⟩ := List.mem_flatMap.mp hneeded
  have hlive : isLive BuiltIn.registrations (builtIn.source, builtIn.dest) := by
    unfold isLive
    rw [BuiltIn.liveConversion?_eq hmem]
    rfl
  obtain ⟨hsource, hdest⟩ := hfollows.showsHistory.known _ _ hlive
  rcases List.mem_cons.mp htype with rfl | htype
  · exact hsource
  · rw [List.mem_singleton.mp htype]
    exact hdest

/-- If the live conversion between two types asks for no other ones, it converts among any types
that these two belong to. -/
theorem Follows.convertsAmong (hfollows : registry.Follows machine history)
    {types : ValueType → Prop} (hsource : types source) (hdest : types dest)
    (hasks : ∀ conversion, liveConversion? history source dest = some conversion → ∀ value,
      (conversion value).AsksOnly types (fun given wanted => given = source ∧ wanted = dest)
        registry.CanAnswer ⟨source, value⟩) :
    registry.ConvertsAmong types (some source) dest := by
  refine ⟨hdest, fun given wanted => given = source ∧ wanted = dest, ⟨?_, ?_⟩, ?_⟩
  · rintro given wanted ⟨rfl, rfl⟩
    exact ⟨hsource, hdest⟩
  · rintro entry hmem ⟨rfl, rfl⟩ value
    exact hasks _ (hfollows.sound entry hmem) value
  · rintro given hgiven
    cases hgiven
    exact ⟨rfl, rfl⟩

/-- Making a registry with the built-in conversions identifies types, and then writes that the
registry is ready. -/
theorem withBuiltIns_state (hcoherent : machine.Coherent) {relation : Machine → Machine → Prop}
    (hcomposes : Composes relation)
    (hidentify : ∀ type machine, relation machine (Machine.identify type machine).2) :
    ∃ registry registered, relation machine registered ∧
      registry.Follows registered BuiltIn.registrations ∧
      withBuiltIns machine =
        (registry, (Machine.writeLog (.registryReady BuiltIn.all.length) registered).2) := by
  have hfollows := (Follows.empty hcoherent).registerAll BuiltIn.all
  have hrelated := (Follows.empty hcoherent).registerAll_relates hcomposes hidentify BuiltIn.all
    BuiltIn.types_nodup
  dsimp only at hfollows
  unfold withBuiltIns
  rw [Action.bind_apply]
  generalize (BuiltIn.all.foldlM (fun registry builtIn => registry.register builtIn.source
    builtIn.dest builtIn.rule.conversion) empty : StateM Machine Registry) machine = registered
    at hfollows hrelated
  obtain ⟨registry, made⟩ := registered
  have hbuiltIns : registry.Follows made BuiltIn.registrations := hfollows
  refine ⟨registry, made, hrelated, hbuiltIns, ?_⟩
  rw [← hbuiltIns.size_of_builtIns]
  rfl

theorem withBuiltIns_logsTo (hcoherent : machine.Coherent) (record : RegistryRecord) :
    machine.LogsTo (withBuiltIns machine).2 record
      (record.noting (.registryReady BuiltIn.all.length)) := by
  obtain ⟨registry, registered, hlogs, hfollows, hmade⟩ :=
    withBuiltIns_state hcoherent Machine.composes_logsOn Machine.identify_logsOn
  rw [hmade]
  refine (hlogs record).trans (.writeLog _ rfl rfl
    (fun _ type hneeded => hfollows.knows_builtIns hneeded) ?_)
  intro number heq
  exact (LogLine.registryReady.inj heq).symm

/-- The lines of an installation report identities that are handed out, but for the last one, which
reports that the registry is ready. -/
theorem withBuiltIns_log (hcoherent : machine.Coherent) :
    ∃ installation, (∀ line ∈ installation, line.allocated?.isSome) ∧
      (withBuiltIns machine).2.log =
        machine.log ++ installation ++ [.registryReady BuiltIn.all.length] := by
  have hcomposes : Composes fun machine after : Machine =>
      ∃ lines, (∀ line ∈ lines, line.allocated?.isSome) ∧ after.log = machine.log ++ lines := by
    refine ⟨fun machine => ⟨[], by simp, (List.append_nil _).symm⟩, ?_⟩
    rintro first second third ⟨lines, hlines, hsecond⟩ ⟨rest, hrest, hthird⟩
    refine ⟨lines ++ rest, fun line hmem => ?_, by rw [hthird, hsecond, List.append_assoc]⟩
    exact (List.mem_append.mp hmem).elim (hlines line) (hrest line)
  obtain ⟨registry, registered, ⟨lines, hlines, hlog⟩, -, hmade⟩ :=
    withBuiltIns_state hcoherent hcomposes fun type machine => by
      cases hfound : machine.identity? type with
      | some identity =>
          rw [Machine.identify_of_some hfound]
          exact hcomposes.refl machine
      | none =>
          rw [Machine.identify_of_none hfound]
          exact ⟨_, by simp [LogLine.allocated?], rfl⟩
  refine ⟨lines, hlines, ?_⟩
  rw [hmade, ← hlog]
  rfl

end Registry

namespace Machine

variable {machine : Machine} {lines : List LogLine} {record : RegistryRecord}

/-- A registry that is put in place of the global one, or made as the global one. -/
theorem HasLogged.withGlobal (hlogged : machine.HasLogged lines record) {registry : Registry}
    {history : List RegistryOperation} (hfollows : registry.Follows machine history)
    {installations : Nat} (hready : lines.countP LogLine.isReady = installations + 1) :
    Machine.HasLogged { machine with global? := some registry } lines
      { record with global := history, installations := installations } where
  coherent := hlogged.coherent.congr rfl rfl
  allocated := hlogged.allocated
  built := hlogged.built
  behind := hlogged.behind
  ready := hready
  conversions := hlogged.conversions
  replaced := hlogged.replaced
  unused hnone := by cases hnone
  global other hmem := by
    rw [← Option.some.inj hmem]
    exact hfollows.mono ⟨List.prefix_rfl, List.prefix_rfl⟩ (hlogged.coherent.congr rfl rfl)

/-- The named registries are of no matter to the program. -/
theorem HasLogged.withNamed (hlogged : machine.HasLogged lines record)
    (named : Directory (List RegistryOperation)) :
    machine.HasLogged lines { record with named := named } where
  coherent := hlogged.coherent
  allocated := hlogged.allocated
  built := hlogged.built
  behind := hlogged.behind
  ready := hlogged.ready
  conversions := hlogged.conversions
  replaced := hlogged.replaced
  unused := hlogged.unused
  global := hlogged.global

/-- The global registry is there when it has been used. -/
theorem global?_globalRegistry (machine : Machine) :
    (globalRegistry machine).2.global? = some (globalRegistry machine).1 := by
  cases hglobal : machine.global? with
  | some registry =>
      rw [globalRegistry_of_some hglobal]
      exact hglobal
  | none => rw [globalRegistry_of_none hglobal]

/-- The line about the making of the global registry is the only one that no command asks for. -/
theorem globalRegistry_logsOn (machine : Machine) :
    machine.LogsOn (globalRegistry machine).2 := by
  cases hglobal : machine.global? with
  | some registry =>
      rw [globalRegistry_of_some hglobal]
      exact composes_logsOn.refl machine
  | none =>
      intro record earlier hlogged
      have hfollows := Registry.Follows.withBuiltIns hlogged.coherent
      have hmade := Registry.withBuiltIns_logsTo hlogged.coherent record earlier hlogged
      have hlearns := (OnlyLearns.withBuiltIns machine hlogged.coherent).1
      rw [globalRegistry_of_none hglobal]
      generalize Registry.withBuiltIns machine = made at hfollows hmade hlearns
      obtain ⟨registry, after⟩ := made
      have hready := hmade.1.ready
      rw [hlearns.global?, hglobal] at hready
      have hafter := hmade.1.withGlobal hfollows hready
      rw [← hlogged.unused hglobal] at hafter
      exact ⟨hafter, hmade.2.identities, hmade.2.tables⟩

/-- Whatever uses a program without changing its registries lets its log go on. -/
theorem logsOn_allowsUse : AllowsUse LogsOn where
  toComposes := composes_logsOn
  advance machine heap created destroyed events _ := .of_same rfl rfl rfl rfl
  identify type machine _ := identify_logsOn type machine
  tableFor type machine _ := tableFor_logsOn type machine
  report machine event := .of_same rfl rfl rfl rfl
  globalRegistry := globalRegistry_logsOn
  loading machine name functions _ := .writeLog _ rfl rfl (by simp [LogLine.needs]) (by simp)

end Machine

end DynamicValue
