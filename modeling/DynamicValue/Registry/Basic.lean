/-
# Registries

A registry holds at most one conversion for each pair of type identities. Each entry remembers the
types that its conversion was registered with, which is what the values it is called with are
checked against.
-/

import DynamicValue.Conversion.Plan

namespace DynamicValue

/-- A registered conversion with the types it was registered with and their identities then. -/
structure RegistryEntry where
  source : ValueType
  dest : ValueType
  sourceIdentity : TypeIdentity
  destIdentity : TypeIdentity
  conversion : Conversion source dest

namespace RegistryEntry

/-- Whether an entry is kept under a pair of identities. -/
def isFor (entry : RegistryEntry) (source dest : TypeIdentity) : Bool :=
  entry.sourceIdentity.same source && entry.destIdentity.same dest

/-- Whether two entries are kept under the same pair does not depend on their order. -/
theorem isFor_comm (first second : RegistryEntry) :
    first.isFor second.sourceIdentity second.destIdentity =
      second.isFor first.sourceIdentity first.destIdentity := by
  simp only [isFor, TypeIdentity.same, eq_comm]

/-- Two entries that are kept under the same pair are kept under the same pairs altogether. -/
theorem isFor_congr {first second : RegistryEntry}
    (hsame : first.isFor second.sourceIdentity second.destIdentity) (source dest : TypeIdentity) :
    first.isFor source dest = second.isFor source dest := by
  simp only [isFor, TypeIdentity.same, Bool.and_eq_true, decide_eq_true_eq] at hsame ⊢
  rw [hsame.1, hsame.2]

end RegistryEntry

/-- A table of conversions, at most one under each pair of identities. -/
structure Registry where
  entries : List RegistryEntry
  distinct : entries.Pairwise fun first second =>
    first.isFor second.sourceIdentity second.destIdentity = false

namespace Registry

/-- The registry without conversions. -/
def empty : Registry := ⟨[], .nil⟩

/-- The conversion that is kept under a pair of identities. -/
def lookup (registry : Registry) (source dest : TypeIdentity) : Option RegistryEntry :=
  registry.entries.find? fun entry => entry.isFor source dest

/-- Whether a conversion is kept under a pair of identities. -/
def contains (registry : Registry) (source dest : TypeIdentity) : Bool :=
  (registry.lookup source dest).isSome

/-- The registry without the conversion that is kept under a pair of identities. -/
def erase (registry : Registry) (source dest : TypeIdentity) : Registry :=
  ⟨registry.entries.filter fun entry => !entry.isFor source dest, registry.distinct.filter _⟩

/-- The registry with an entry, in place of the one that was kept under its pair. -/
def insert (registry : Registry) (entry : RegistryEntry) : Registry where
  entries := entry :: (registry.erase entry.sourceIdentity entry.destIdentity).entries
  distinct := by
    refine List.pairwise_cons.mpr ⟨fun other hmem => ?_, (registry.erase _ _).distinct⟩
    rw [RegistryEntry.isFor_comm]
    simpa using (List.mem_filter.mp hmem).2

/-- The number of conversions. -/
def size (registry : Registry) : Nat := registry.entries.length

/-- Whether there are no conversions. -/
def isEmpty (registry : Registry) : Bool := registry.entries.isEmpty

/-- How deep conversions may ask for each other before the stack is used up. Conversions that never
ask for a pair that is already being converted stay below the number of pairs. What comes of a
coercion that does not use the stack up is the same with any larger stack. -/
def nestingLimit (registry : Registry) : Nat := registry.size + 1000

@[simp] theorem lookup_empty (source dest : TypeIdentity) : empty.lookup source dest = none := rfl

/-- An entry that was put in is found under its pair. -/
theorem lookup_insert_of_isFor (registry : Registry) {entry : RegistryEntry}
    {source dest : TypeIdentity} (hfor : entry.isFor source dest) :
    (registry.insert entry).lookup source dest = some entry := by
  simp [lookup, insert, hfor]

/-- What is found under other pairs stays. -/
theorem lookup_insert_of_not_isFor (registry : Registry) {entry : RegistryEntry}
    {source dest : TypeIdentity} (hnot : entry.isFor source dest = false) :
    (registry.insert entry).lookup source dest = registry.lookup source dest := by
  simp only [lookup, insert, erase, List.find?_cons, hnot, List.find?_filter]
  congr 1
  funext other
  by_cases hother : other.isFor entry.sourceIdentity entry.destIdentity
  · simp [RegistryEntry.isFor_congr hother, hnot]
  · simp [hother]

/-- Nothing is found under a pair whose conversion was taken out. -/
theorem lookup_erase_self (registry : Registry) (source dest : TypeIdentity) :
    (registry.erase source dest).lookup source dest = none := by
  simp [lookup, erase]

end Registry

end DynamicValue
