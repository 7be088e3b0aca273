/-
# What a registry contains

The contents of a registry are determined by the operations that led to it: for each pair of types
the last of them decides. The registry itself is a table of entries under pairs of identities; as
identities are handed out by the program, which goes on between two operations, a registry is
compared with its history in a program that knows the identities of all its entries.
-/

import DynamicValue.Proofs.Cell.Observation
import DynamicValue.Proofs.Registry.Settling

namespace DynamicValue

/-- A change to a registry. -/
inductive RegistryOperation
  | register (source dest : ValueType) (conversion : Conversion source dest)
  | unregister (source dest : ValueType)

namespace RegistryOperation

/-- The types of the pair that an operation is about. -/
def types : RegistryOperation → ValueType × ValueType
  | register source dest _ => (source, dest)
  | unregister source dest => (source, dest)

/-- The registry after an operation. -/
def apply (registry : Registry) : RegistryOperation → StateM Machine Registry
  | register source dest conversion => registry.register source dest conversion
  | unregister source dest => do return (← registry.unregister source dest).2

/-- What an operation leaves for a pair of types, if it is about this pair: a conversion or none. -/
def verdict? (source dest : ValueType) :
    RegistryOperation → Option (Option (Conversion source dest))
  | register source' dest' conversion =>
    if h : source' = source ∧ dest' = dest then some (some (h.1 ▸ h.2 ▸ conversion)) else none
  | unregister source' dest' => if source' = source ∧ dest' = dest then some none else none

variable {operation : RegistryOperation} {source dest : ValueType}

@[simp] theorem verdict?_register_self (conversion : Conversion source dest) :
    (register source dest conversion).verdict? source dest = some (some conversion) := by
  simp [verdict?]

@[simp] theorem verdict?_unregister_self :
    (unregister source dest).verdict? source dest = some none := by
  simp [verdict?]

/-- An operation says nothing about other pairs than its own. -/
theorem verdict?_of_ne (hne : operation.types ≠ (source, dest)) :
    operation.verdict? source dest = none := by
  have hpair : ¬ (operation.types.1 = source ∧ operation.types.2 = dest) := fun h =>
    hne (Prod.ext h.1 h.2)
  cases operation with
  | register source' dest' conversion => exact dif_neg hpair
  | unregister source' dest' => exact if_neg hpair

/-- Only the registration of a conversion for a pair leaves it there. -/
theorem eq_register_of_verdict? {conversion : Conversion source dest}
    (hverdict : operation.verdict? source dest = some (some conversion)) :
    operation = .register source dest conversion := by
  by_cases htypes : operation.types = (source, dest)
  · cases operation with
    | register source' dest' registered =>
        obtain ⟨rfl, rfl⟩ := Prod.mk.inj htypes
        rw [verdict?_register_self] at hverdict
        rw [Option.some.inj (Option.some.inj hverdict)]
    | unregister source' dest' =>
        obtain ⟨rfl, rfl⟩ := Prod.mk.inj htypes
        rw [verdict?_unregister_self] at hverdict
        cases hverdict
  · rw [verdict?_of_ne htypes] at hverdict
    cases hverdict

end RegistryOperation

/-- The conversion that is live for a pair of types after some operations: that of the last
operation on the pair, if it was a registration. -/
def liveConversion? (history : List RegistryOperation) (source dest : ValueType) :
    Option (Conversion source dest) :=
  (history.reverse.findSome? (RegistryOperation.verdict? source dest)).join

/-- Whether a conversion is live for a pair of types. -/
def isLive (history : List RegistryOperation) (pair : ValueType × ValueType) : Bool :=
  (liveConversion? history pair.1 pair.2).isSome

/-- The entry that a history asks for under a pair of identities. -/
def liveEntry (history : List RegistryOperation) (source dest : TypeIdentity) :
    Option RegistryEntry :=
  source.type?.bind fun sourceType => dest.type?.bind fun destType =>
    (liveConversion? history sourceType destType).map
      fun conversion => ⟨sourceType, destType, source, dest, conversion⟩

/-- The registrations of the built-in conversions. -/
def BuiltIn.registrations : List RegistryOperation :=
  all.map fun builtIn => .register builtIn.source builtIn.dest builtIn.rule.conversion

section Live

variable {history : List RegistryOperation} {source dest : ValueType}

theorem liveConversion?_append (operation : RegistryOperation) :
    liveConversion? (history ++ [operation]) source dest =
      (operation.verdict? source dest).getD (liveConversion? history source dest) := by
  unfold liveConversion?
  rw [List.reverse_append, List.reverse_singleton, List.singleton_append, List.findSome?_cons]
  cases operation.verdict? source dest <;> rfl

theorem liveConversion?_register_self (conversion : Conversion source dest) :
    liveConversion? (history ++ [.register source dest conversion]) source dest =
      some conversion := by
  rw [liveConversion?_append, RegistryOperation.verdict?_register_self, Option.getD_some]

theorem liveConversion?_unregister_self :
    liveConversion? (history ++ [.unregister source dest]) source dest = none := by
  rw [liveConversion?_append, RegistryOperation.verdict?_unregister_self, Option.getD_some]

/-- An operation changes nothing for other pairs than its own. -/
theorem liveConversion?_append_of_ne (operation : RegistryOperation)
    (hne : operation.types ≠ (source, dest)) :
    liveConversion? (history ++ [operation]) source dest = liveConversion? history source dest := by
  rw [liveConversion?_append, RegistryOperation.verdict?_of_ne hne, Option.getD_none]

/-- A live conversion was registered for its pair of types. -/
theorem register_mem_of_live {conversion : Conversion source dest}
    (hlive : liveConversion? history source dest = some conversion) :
    .register source dest conversion ∈ history := by
  obtain ⟨operation, hmem, hverdict⟩ :=
    List.exists_of_findSome?_eq_some (Option.join_eq_some_iff.mp hlive)
  rw [← RegistryOperation.eq_register_of_verdict? hverdict]
  exact List.mem_reverse.mp hmem

theorem liveEntry_of_types {sourceIdentity destIdentity : TypeIdentity}
    (hsource : sourceIdentity.type? = some source) (hdest : destIdentity.type? = some dest) :
    liveEntry history sourceIdentity destIdentity =
      (liveConversion? history source dest).map
        fun conversion => ⟨source, dest, sourceIdentity, destIdentity, conversion⟩ := by
  unfold liveEntry
  rw [hsource, hdest]
  rfl

end Live

/-- An identity that a program has handed out, or that of the empty value. -/
def Machine.Knows (machine : Machine) (identity : TypeIdentity) : Prop :=
  identity = .null ∨ identity ∈ machine.identities

namespace Machine

variable {machine after : Machine} {identity : TypeIdentity} {type : ValueType}

theorem Knows.of_identity? (hidentity : machine.identity? type = some identity) :
    machine.Knows identity :=
  Or.inr (List.mem_of_find?_eq_some hidentity)

/-- A known identity of a type is the identity of the type. -/
theorem Knows.identity?_eq (hknows : machine.Knows identity) (hcoherent : machine.Coherent)
    (htype : identity.type? = some type) : machine.identity? type = some identity := by
  rcases hknows with rfl | hmem
  · cases htype
  · exact hcoherent.identity?_eq_some_iff.mpr ⟨hmem, htype⟩

/-- The identity of a type is the same as a known one if and only if the known one is of this
type. -/
theorem Coherent.same_iff_of_knows (hcoherent : machine.Coherent) {known : TypeIdentity}
    (hidentity : machine.identity? type = some identity) (hknows : machine.Knows known) :
    identity.same known ↔ known.type? = some type := by
  obtain ⟨hmem, htype⟩ := hcoherent.identity?_eq_some_iff.mp hidentity
  rcases hknows with rfl | hknown
  · have hnull := hcoherent.isNull_eq_false hmem
    rw [show identity.same .null = identity.isNull from rfl, hnull]
    simp [TypeIdentity.null]
  · constructor
    · intro hsame
      rw [← hcoherent.eq_of_same hmem hknown hsame, htype]
    · intro hknown'
      rw [hcoherent.eq_of_type_eq hmem hknown (htype.trans hknown'.symm)]
      simp [TypeIdentity.same]

end Machine

namespace Registry

/-- A registry contains what its history says: its entries are the live conversions, kept under the
identities of their types. -/
structure Follows (registry : Registry) (machine : Machine) (history : List RegistryOperation) :
    Prop where
  coherent : machine.Coherent
  source : ∀ entry ∈ registry.entries, machine.identity? entry.source = some entry.sourceIdentity
  dest : ∀ entry ∈ registry.entries, machine.identity? entry.dest = some entry.destIdentity
  sound : ∀ entry ∈ registry.entries,
    liveConversion? history entry.source entry.dest = some entry.conversion
  complete : ∀ source dest, (liveConversion? history source dest).isSome →
    ∃ entry ∈ registry.entries, entry.source = source ∧ entry.dest = dest

namespace Follows

variable {registry : Registry} {machine after : Machine} {history : List RegistryOperation}
  {entry : RegistryEntry} {source dest : TypeIdentity}

theorem empty (hcoherent : machine.Coherent) : Registry.empty.Follows machine [] where
  coherent := hcoherent
  source := by simp [Registry.empty]
  dest := by simp [Registry.empty]
  sound := by simp [Registry.empty]
  complete source dest hlive := by cases hlive

/-- A registry that stays as it is still follows its history when the program knows more. -/
theorem mono (hfollows : registry.Follows machine history) (hextends : machine.Extends after)
    (hafter : after.Coherent) : registry.Follows after history where
  coherent := hafter
  source entry hmem :=
    hfollows.coherent.identity?_of_extends hafter hextends (hfollows.source entry hmem)
  dest entry hmem :=
    hfollows.coherent.identity?_of_extends hafter hextends (hfollows.dest entry hmem)
  sound := hfollows.sound
  complete := hfollows.complete

/-- An entry is kept under the known identities of its types, and under no other ones. -/
theorem isFor_iff (hfollows : registry.Follows machine history) (hmem : entry ∈ registry.entries)
    (hsource : machine.Knows source) (hdest : machine.Knows dest) :
    entry.isFor source dest ↔ source.type? = some entry.source ∧ dest.type? = some entry.dest := by
  unfold RegistryEntry.isFor
  rw [Bool.and_eq_true, hfollows.coherent.same_iff_of_knows (hfollows.source entry hmem) hsource,
    hfollows.coherent.same_iff_of_knows (hfollows.dest entry hmem) hdest]

/-- A registry finds what its history asks for, under any pair of known identities. -/
theorem lookup_eq (hfollows : registry.Follows machine history) (hsource : machine.Knows source)
    (hdest : machine.Knows dest) : registry.lookup source dest = liveEntry history source dest := by
  unfold lookup
  cases hfound : registry.entries.find? fun entry => entry.isFor source dest with
  | some entry =>
      have hmem := List.mem_of_find?_eq_some hfound
      have hfor : entry.isFor source dest := by simpa using List.find?_some hfound
      obtain ⟨hsourceType, hdestType⟩ := (hfollows.isFor_iff hmem hsource hdest).mp hfor
      have hsourceKey := hfollows.source entry hmem
      have hdestKey := hfollows.dest entry hmem
      rw [hsource.identity?_eq hfollows.coherent hsourceType] at hsourceKey
      rw [hdest.identity?_eq hfollows.coherent hdestType] at hdestKey
      rw [liveEntry_of_types hsourceType hdestType, hfollows.sound entry hmem,
        Option.some.inj hsourceKey, Option.some.inj hdestKey]
      rfl
  | none =>
      have hnone := List.find?_eq_none.mp hfound
      symm
      rw [Option.eq_none_iff_forall_not_mem]
      intro entry hentry
      cases hsourceType : source.type? with
      | none => simp [liveEntry, hsourceType] at hentry
      | some sourceType =>
          cases hdestType : dest.type? with
          | none => simp [liveEntry, hsourceType, hdestType] at hentry
          | some destType =>
              rw [liveEntry_of_types hsourceType hdestType] at hentry
              obtain ⟨conversion, hlive, -⟩ := Option.map_eq_some_iff.mp hentry
              obtain ⟨kept, hmem, rfl, rfl⟩ :=
                hfollows.complete sourceType destType (by rw [hlive]; rfl)
              exact hnone kept hmem
                ((hfollows.isFor_iff hmem hsource hdest).mpr ⟨hsourceType, hdestType⟩)

/-- Under the identities of a pair of types there is a conversion if and only if one is live. -/
theorem contains_eq (hfollows : registry.Follows machine history) {sourceType destType : ValueType}
    (hsource : machine.identity? sourceType = some source)
    (hdest : machine.identity? destType = some dest) :
    registry.contains source dest = isLive history (sourceType, destType) := by
  have hsourceType := (hfollows.coherent.identity?_eq_some_iff.mp hsource).2
  have hdestType := (hfollows.coherent.identity?_eq_some_iff.mp hdest).2
  unfold contains isLive
  rw [hfollows.lookup_eq (.of_identity? hsource) (.of_identity? hdest),
    liveEntry_of_types hsourceType hdestType, Option.isSome_map]

/-! ## Operations -/

/-- What is left when the conversion between two types is taken out. -/
theorem mem_erase_iff (hfollows : registry.Follows machine history)
    {sourceType destType : ValueType}
    (hsource : machine.identity? sourceType = some source)
    (hdest : machine.identity? destType = some dest) :
    entry ∈ (registry.erase source dest).entries ↔
      entry ∈ registry.entries ∧ (sourceType, destType) ≠ (entry.source, entry.dest) := by
  have hsourceType := (hfollows.coherent.identity?_eq_some_iff.mp hsource).2
  have hdestType := (hfollows.coherent.identity?_eq_some_iff.mp hdest).2
  unfold erase
  rw [List.mem_filter]
  refine and_congr_right fun hmem => ?_
  have hfor := hfollows.isFor_iff hmem (.of_identity? hsource) (.of_identity? hdest)
  rw [hsourceType, hdestType, Option.some_inj, Option.some_inj] at hfor
  rw [Bool.not_eq_true', ← Bool.not_eq_true, hfor, ne_eq, Prod.mk.injEq]

theorem erase (hfollows : registry.Follows machine history) {sourceType destType : ValueType}
    (hsource : machine.identity? sourceType = some source)
    (hdest : machine.identity? destType = some dest) :
    (registry.erase source dest).Follows machine
      (history ++ [.unregister sourceType destType]) where
  coherent := hfollows.coherent
  source entry hmem := hfollows.source entry ((hfollows.mem_erase_iff hsource hdest).mp hmem).1
  dest entry hmem := hfollows.dest entry ((hfollows.mem_erase_iff hsource hdest).mp hmem).1
  sound entry hmem := by
    obtain ⟨hkept, hne⟩ := (hfollows.mem_erase_iff hsource hdest).mp hmem
    rw [liveConversion?_append_of_ne (.unregister sourceType destType) hne]
    exact hfollows.sound entry hkept
  complete source' dest' hlive := by
    have hne : (sourceType, destType) ≠ (source', dest') := by
      intro heq
      obtain ⟨rfl, rfl⟩ := Prod.mk.inj heq
      rw [liveConversion?_unregister_self] at hlive
      cases hlive
    rw [liveConversion?_append_of_ne (.unregister sourceType destType) hne] at hlive
    obtain ⟨entry, hmem, rfl, rfl⟩ := hfollows.complete source' dest' hlive
    exact ⟨entry, (hfollows.mem_erase_iff hsource hdest).mpr ⟨hmem, hne⟩, rfl, rfl⟩

theorem insert (hfollows : registry.Follows machine history) {sourceType destType : ValueType}
    (hsource : machine.identity? sourceType = some source)
    (hdest : machine.identity? destType = some dest) (conversion : Conversion sourceType destType) :
    (registry.insert ⟨sourceType, destType, source, dest, conversion⟩).Follows machine
      (history ++ [.register sourceType destType conversion]) where
  coherent := hfollows.coherent
  source entry hmem := by
    rcases List.mem_cons.mp hmem with rfl | hmem
    · exact hsource
    · exact hfollows.source entry ((hfollows.mem_erase_iff hsource hdest).mp hmem).1
  dest entry hmem := by
    rcases List.mem_cons.mp hmem with rfl | hmem
    · exact hdest
    · exact hfollows.dest entry ((hfollows.mem_erase_iff hsource hdest).mp hmem).1
  sound entry hmem := by
    rcases List.mem_cons.mp hmem with rfl | hmem
    · exact liveConversion?_register_self conversion
    · obtain ⟨hkept, hne⟩ := (hfollows.mem_erase_iff hsource hdest).mp hmem
      rw [liveConversion?_append_of_ne (.register sourceType destType conversion) hne]
      exact hfollows.sound entry hkept
  complete source' dest' hlive := by
    by_cases heq : (sourceType, destType) = (source', dest')
    · obtain ⟨rfl, rfl⟩ := Prod.mk.inj heq
      exact ⟨_, List.mem_cons_self, rfl, rfl⟩
    · rw [liveConversion?_append_of_ne (.register sourceType destType conversion) heq] at hlive
      obtain ⟨entry, hmem, rfl, rfl⟩ := hfollows.complete source' dest' hlive
      have hkept := (hfollows.mem_erase_iff hsource hdest).mpr ⟨hmem, heq⟩
      exact ⟨entry, List.mem_cons_of_mem _ hkept, rfl, rfl⟩

end Follows

/-! ## Registries in their programs -/

section Operations

variable {machine : Machine} {history : List RegistryOperation} {registry : Registry}
  {source dest : ValueType}

/-- Two types get their identities one after the other. -/
theorem identify_both (hcoherent : machine.Coherent) (source dest : ValueType) :
    ∃ sourceIdentity destIdentity known middle,
      Machine.identify source machine = (sourceIdentity, middle) ∧
      Machine.identify dest middle = (destIdentity, known) ∧
      machine.Learns known ∧ known.Coherent ∧
      known.identity? source = some sourceIdentity ∧ known.identity? dest = some destIdentity := by
  have hmiddle := Machine.identify_coherent hcoherent source
  have hknown := Machine.identify_coherent hmiddle dest
  have hlearns := Machine.identify_learns dest (Machine.identify source machine).2
  refine ⟨_, _, _, _, rfl, rfl, (Machine.identify_learns source machine).trans hlearns, hknown, ?_,
    Machine.identity?_identify hmiddle dest⟩
  exact hmiddle.identity?_of_extends hknown hlearns.toExtends
    (Machine.identity?_identify hcoherent source)

/-- Registering a conversion puts an entry under the identities of its types. -/
theorem register_apply (hcoherent : machine.Coherent) (registry : Registry)
    (conversion : Conversion source dest) :
    ∃ sourceIdentity destIdentity known after,
      registry.register source dest conversion machine =
        (registry.insert ⟨source, dest, sourceIdentity, destIdentity, conversion⟩, after) ∧
      machine.Learns known ∧ known.Coherent ∧ known.Extends after ∧ after.Coherent ∧
      known.identity? source = some sourceIdentity ∧ known.identity? dest = some destIdentity := by
  obtain ⟨sourceIdentity, destIdentity, known, middle, hsource, hdest, hlearns, hknown, hkeys⟩ :=
    identify_both hcoherent source dest
  have hrun : registry.register source dest conversion machine = (do
      if registry.contains sourceIdentity destIdentity then
        Machine.writeLog (.replaced source dest)
      return registry.insert ⟨source, dest, sourceIdentity, destIdentity, conversion⟩ :
        StateM Machine Registry) known := by
    unfold register
    rw [Action.bind_apply, hsource, Action.bind_apply, hdest]
  rw [hrun]
  by_cases hcontains : registry.contains sourceIdentity destIdentity
  · rw [if_pos hcontains]
    obtain ⟨hlog, hafter⟩ := Machine.OnlyLearns.writeLog (.replaced source dest) known hknown
    exact ⟨_, _, known, _, rfl, hlearns, hknown, hlog.toExtends, hafter, hkeys⟩
  · rw [if_neg hcontains]
    exact ⟨_, _, known, known, rfl, hlearns, hknown, .refl known, hknown, hkeys⟩

/-- Unregistering a pair tells whether it was there and takes it out. -/
theorem unregister_apply (hcoherent : machine.Coherent) (registry : Registry)
    (source dest : ValueType) :
    ∃ sourceIdentity destIdentity known,
      registry.unregister source dest machine =
        ((registry.contains sourceIdentity destIdentity,
          registry.erase sourceIdentity destIdentity), known) ∧
      machine.Learns known ∧ known.Coherent ∧
      known.identity? source = some sourceIdentity ∧ known.identity? dest = some destIdentity := by
  obtain ⟨sourceIdentity, destIdentity, known, middle, hsource, hdest, hlearns, hknown, hkeys⟩ :=
    identify_both hcoherent source dest
  refine ⟨sourceIdentity, destIdentity, known, ?_, hlearns, hknown, hkeys⟩
  unfold unregister
  rw [Action.bind_apply, hsource, Action.bind_apply, hdest]
  rfl

theorem Follows.register (hfollows : registry.Follows machine history)
    (conversion : Conversion source dest) :
    (registry.register source dest conversion machine).1.Follows
        (registry.register source dest conversion machine).2
        (history ++ [.register source dest conversion]) ∧
      machine.Extends (registry.register source dest conversion machine).2 := by
  obtain ⟨sourceIdentity, destIdentity, known, after, hrun, hlearns, hknown, hextends, hafter,
    hsource, hdest⟩ := register_apply hfollows.coherent registry conversion
  rw [hrun]
  have hthere := hfollows.mono hlearns.toExtends hknown
  exact ⟨(hthere.insert hsource hdest conversion).mono hextends hafter,
    hlearns.toExtends.trans hextends⟩

/-- A registry follows its history through every operation. -/
theorem Follows.apply (hfollows : registry.Follows machine history)
    (operation : RegistryOperation) :
    (operation.apply registry machine).1.Follows (operation.apply registry machine).2
        (history ++ [operation]) ∧
      machine.Extends (operation.apply registry machine).2 := by
  cases operation with
  | register source dest conversion => exact hfollows.register conversion
  | unregister source dest =>
      obtain ⟨sourceIdentity, destIdentity, known, hrun, hlearns, hknown, hsource, hdest⟩ :=
        unregister_apply hfollows.coherent registry source dest
      have happly : (RegistryOperation.unregister source dest).apply registry machine =
          (registry.erase sourceIdentity destIdentity, known) := by
        change (registry.unregister source dest >>= fun result => pure result.2) machine = _
        rw [Action.bind_apply, hrun]
        rfl
      rw [happly]
      have hthere := hfollows.mono hlearns.toExtends hknown
      exact ⟨hthere.erase hsource hdest, hlearns.toExtends⟩

/-- Built-in conversions are registered one after the other. -/
theorem Follows.registerAll (hfollows : registry.Follows machine history)
    (builtIns : List BuiltIn) :
    let registering : StateM Machine Registry := builtIns.foldlM (fun registry builtIn =>
      registry.register builtIn.source builtIn.dest builtIn.rule.conversion) registry
    (registering machine).1.Follows (registering machine).2
      (history ++ builtIns.map fun builtIn =>
        .register builtIn.source builtIn.dest builtIn.rule.conversion) := by
  induction builtIns generalizing registry machine history with
  | nil =>
      rw [List.map_nil, List.append_nil]
      exact hfollows
  | cons builtIn rest ih =>
      have hfirst := (hfollows.register builtIn.rule.conversion).1
      have hrest := ih hfirst
      rw [List.append_assoc, List.singleton_append] at hrest
      exact hrest

/-- A registry with the built-in conversions contains these. -/
theorem Follows.withBuiltIns (hcoherent : machine.Coherent) :
    (Registry.withBuiltIns machine).1.Follows (Registry.withBuiltIns machine).2
      BuiltIn.registrations := by
  unfold Registry.withBuiltIns BuiltIn.registrations
  generalize BuiltIn.all = builtIns
  have hall := (Follows.empty hcoherent).registerAll builtIns
  rw [List.nil_append] at hall
  obtain ⟨hlog, hafter⟩ := Machine.OnlyLearns.writeLog (.registryReady _) _ hall.coherent
  exact hall.mono hlog.toExtends hafter

end Operations

/-- A registry that some operations lead to in a program, from an empty registry or from one with
the built-in conversions, whose registrations come first then. Between two operations the program
may go on and learn further types. -/
inductive Reached : List RegistryOperation → Machine → Registry → Prop
  | empty {machine : Machine} (hcoherent : machine.Coherent) : Reached [] machine .empty
  | builtIns {machine : Machine} (hcoherent : machine.Coherent) :
      Reached BuiltIn.registrations (withBuiltIns machine).2 (withBuiltIns machine).1
  | operate {history : List RegistryOperation} {machine : Machine} {registry : Registry}
      (operation : RegistryOperation) (hreached : Reached history machine registry) :
      Reached (history ++ [operation]) (operation.apply registry machine).2
        (operation.apply registry machine).1
  | elsewhere {history : List RegistryOperation} {machine after : Machine} {registry : Registry}
      (hreached : Reached history machine registry) (hextends : machine.Extends after)
      (hafter : after.Coherent) : Reached history after registry

section Reached

variable {machine : Machine} {history : List RegistryOperation} {registry : Registry}

/-- However a registry was reached, it follows its history. -/
theorem Reached.follows (hreached : Reached history machine registry) :
    registry.Follows machine history := by
  induction hreached with
  | empty hcoherent => exact .empty hcoherent
  | builtIns hcoherent => exact .withBuiltIns hcoherent
  | operate operation _ ih => exact (ih.apply operation).1
  | elsewhere _ hextends hafter ih => exact ih.mono hextends hafter

/-! ## The number of conversions -/

/-- No two entries of a registry are for the same pair of types. -/
theorem Follows.types_nodup (hfollows : registry.Follows machine history) :
    (registry.entries.map fun entry => (entry.source, entry.dest)).Nodup := by
  rw [List.Nodup, List.pairwise_map]
  refine registry.distinct.imp_of_mem fun {first second} hfirst hsecond hdistinct heq => ?_
  obtain ⟨hsource, hdest⟩ := Prod.mk.inj heq
  have hsourceKey := hfollows.source second hsecond
  have hdestKey := hfollows.dest second hsecond
  have hfor := hfollows.isFor_iff hfirst (.of_identity? hsourceKey) (.of_identity? hdestKey)
  rw [(hfollows.coherent.identity?_eq_some_iff.mp hsourceKey).2,
    (hfollows.coherent.identity?_eq_some_iff.mp hdestKey).2, hsource, hdest, hdistinct] at hfor
  exact absurd (hfor.mpr ⟨rfl, rfl⟩) Bool.false_ne_true

/-- The pairs of types between which a registry has a conversion are the live ones. -/
theorem Follows.types_perm (hfollows : registry.Follows machine history) :
    (registry.entries.map fun entry => (entry.source, entry.dest)).Perm
      ((ValueType.all ×ˢ ValueType.all).filter (isLive history)) := by
  have hall : ValueType.all.Nodup := ValueType.names_nodup.of_map
  rw [List.perm_ext_iff_of_nodup hfollows.types_nodup ((hall.product hall).filter _)]
  rintro ⟨source, dest⟩
  rw [List.mem_map, List.mem_filter]
  constructor
  · rintro ⟨entry, hmem, hpair⟩
    obtain ⟨rfl, rfl⟩ := Prod.mk.inj hpair
    refine ⟨List.pair_mem_product.mpr ⟨ValueType.mem_all _, ValueType.mem_all _⟩, ?_⟩
    unfold isLive
    rw [hfollows.sound entry hmem]
    rfl
  · rintro ⟨-, hlive⟩
    obtain ⟨entry, hmem, rfl, rfl⟩ := hfollows.complete source dest hlive
    exact ⟨entry, hmem, rfl⟩

/-- A registry has as many conversions as there are live pairs. -/
theorem Follows.size_eq (hfollows : registry.Follows machine history) :
    registry.size = (ValueType.all ×ˢ ValueType.all).countP (isLive history) := by
  rw [List.countP_eq_length_filter, ← hfollows.types_perm.length_eq, List.length_map]
  rfl

theorem Follows.isEmpty_eq (hfollows : registry.Follows machine history) :
    registry.isEmpty = !(ValueType.all ×ˢ ValueType.all).any (isLive history) := by
  have hempty : registry.isEmpty = decide (registry.size = 0) := by
    unfold isEmpty size
    cases registry.entries <;> rfl
  rw [hempty, hfollows.size_eq, Bool.eq_iff_iff]
  simp [List.countP_eq_zero]

/-! ## What a registry shows of itself -/

/-- What a registry shows of itself is what its history says: a conversion is found if it is live,
there are as many as are live, taking one out tells whether it was live, and an operation on a pair
of types changes nothing for any other pair. -/
structure ShowsHistory (registry : Registry) (machine : Machine)
    (history : List RegistryOperation) : Prop where
  known : ∀ source dest, isLive history (source, dest) →
    (machine.identity? source).isSome ∧ (machine.identity? dest).isSome
  lookup : ∀ source dest, machine.Knows source → machine.Knows dest →
    registry.lookup source dest = liveEntry history source dest
  contains : ∀ source dest, machine.Knows source → machine.Knows dest →
    (registry.contains source dest ↔ ∃ sourceType destType,
      source.type? = some sourceType ∧ dest.type? = some destType ∧
        isLive history (sourceType, destType))
  size : registry.size = (ValueType.all ×ˢ ValueType.all).countP (isLive history)
  isEmpty : registry.isEmpty = !(ValueType.all ×ˢ ValueType.all).any (isLive history)
  unregister : ∀ source dest,
    (registry.unregister source dest machine).1.1 = isLive history (source, dest)
  others : ∀ operation : RegistryOperation, ∀ sourceType destType,
    operation.types ≠ (sourceType, destType) → ∀ source dest,
      let changed := operation.apply registry machine
      changed.2.identity? sourceType = some source → changed.2.identity? destType = some dest →
        changed.1.lookup source dest = registry.lookup source dest

theorem Follows.unregister_eq (hfollows : registry.Follows machine history)
    (source dest : ValueType) :
    (registry.unregister source dest machine).1.1 = isLive history (source, dest) := by
  obtain ⟨sourceIdentity, destIdentity, known, hrun, hlearns, hknown, hsource, hdest⟩ :=
    unregister_apply hfollows.coherent registry source dest
  rw [hrun]
  exact (hfollows.mono hlearns.toExtends hknown).contains_eq hsource hdest

theorem Follows.lookup_apply_of_ne (hfollows : registry.Follows machine history)
    {operation : RegistryOperation} {sourceType destType : ValueType}
    (hne : operation.types ≠ (sourceType, destType)) {source dest : TypeIdentity}
    (hsource : (operation.apply registry machine).2.identity? sourceType = some source)
    (hdest : (operation.apply registry machine).2.identity? destType = some dest) :
    (operation.apply registry machine).1.lookup source dest = registry.lookup source dest := by
  obtain ⟨hafter, hextends⟩ := hfollows.apply operation
  have hbefore := hfollows.mono hextends hafter.coherent
  have hsourceType := (hafter.coherent.identity?_eq_some_iff.mp hsource).2
  have hdestType := (hafter.coherent.identity?_eq_some_iff.mp hdest).2
  rw [hafter.lookup_eq (.of_identity? hsource) (.of_identity? hdest),
    hbefore.lookup_eq (.of_identity? hsource) (.of_identity? hdest),
    liveEntry_of_types hsourceType hdestType, liveEntry_of_types hsourceType hdestType,
    liveConversion?_append_of_ne operation hne]

theorem Follows.showsHistory (hfollows : registry.Follows machine history) :
    registry.ShowsHistory machine history where
  known source dest hlive := by
    obtain ⟨entry, hmem, rfl, rfl⟩ := hfollows.complete source dest hlive
    rw [hfollows.source entry hmem, hfollows.dest entry hmem]
    exact ⟨rfl, rfl⟩
  lookup source dest hsource hdest := hfollows.lookup_eq hsource hdest
  contains source dest hsource hdest := by
    constructor
    · intro hcontains
      unfold Registry.contains at hcontains
      rw [hfollows.lookup_eq hsource hdest] at hcontains
      obtain ⟨entry, hentry⟩ := Option.isSome_iff_exists.mp hcontains
      obtain ⟨sourceType, hsourceType, hrest⟩ := Option.bind_eq_some_iff.mp hentry
      obtain ⟨destType, hdestType, hfound⟩ := Option.bind_eq_some_iff.mp hrest
      obtain ⟨conversion, hlive, -⟩ := Option.map_eq_some_iff.mp hfound
      refine ⟨sourceType, destType, hsourceType, hdestType, ?_⟩
      unfold isLive
      rw [hlive]
      rfl
    · rintro ⟨sourceType, destType, hsourceType, hdestType, hlive⟩
      rw [hfollows.contains_eq (hsource.identity?_eq hfollows.coherent hsourceType)
        (hdest.identity?_eq hfollows.coherent hdestType)]
      exact hlive
  size := hfollows.size_eq
  isEmpty := hfollows.isEmpty_eq
  unregister := hfollows.unregister_eq
  others operation _ _ hne _ _ hsource hdest := hfollows.lookup_apply_of_ne hne hsource hdest

end Reached

end Registry

end DynamicValue
