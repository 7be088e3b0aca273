/-
# Directories entry by entry

A directory is determined by what is found under each name. Its entries as a whole are the entry of
a name together with the entries of all other names, so a statement about all entries only has to
look at the one that is put in or taken out.
-/

import DynamicValue.Directory
import Mathlib.Data.List.Perm.Basic
import Mathlib.Data.List.Nodup

namespace DynamicValue.Directory

variable {α β : Type} {directory second : Directory α} {name other : String} {value : α}

/-! ## One name at a time -/

/-- The names of different entries are different. -/
theorem names_nodup (directory : Directory α) : directory.names.Nodup :=
  List.pairwise_map.mpr (directory.ascending.imp fun hless => String.ne_of_lt hless)

/-- The entries are what is found under their names. -/
theorem mem_entries_iff : (name, value) ∈ directory.entries ↔ directory.get? name = some value := by
  constructor
  · intro hmem
    obtain ⟨before, after, hentries⟩ := List.append_of_mem hmem
    have hnodup := directory.names_nodup
    rw [names, hentries, List.map_append, List.nodup_append] at hnodup
    have hbefore : before.find? (fun entry => entry.1 = name) = none := by
      refine List.find?_eq_none.mpr fun entry hentry => ?_
      have hne := hnodup.2.2 entry.1 (List.mem_map_of_mem hentry) name (by simp)
      simpa using hne
    rw [get?, hentries, List.find?_append, hbefore]
    simp
  · intro hget
    obtain ⟨entry, hfind, rfl⟩ := Option.map_eq_some_iff.mp hget
    have hname : entry.1 = name := by simpa using List.find?_some hfind
    exact hname ▸ List.mem_of_find?_eq_some hfind

/-- Directories with the same entries under all names are equal. -/
theorem ext_get? (hget : ∀ name, directory.get? name = second.get? name) : directory = second := by
  have hmem : ∀ entry, entry ∈ directory.entries ↔ entry ∈ second.entries := by
    rintro ⟨name, value⟩
    rw [mem_entries_iff, mem_entries_iff, hget]
  have hperm : directory.entries.Perm second.entries :=
    (List.perm_ext_iff_of_nodup (.of_map Prod.fst directory.names_nodup)
      (.of_map Prod.fst second.names_nodup)).mpr hmem
  refine Directory.ext (hperm.eq_of_pairwise ?_ directory.ascending second.ascending)
  intro first last _ _ hless hgreater
  exact absurd (String.lt_trans hless hgreater) (String.lt_irrefl _)

theorem get?_insert (directory : Directory α) (name other : String) (value : α) :
    (directory.insert name value).get? other =
      if other = name then some value else directory.get? other := by
  split
  · rename_i hname
    rw [hname, get?_insert_self]
  · rename_i hname
    rw [get?_insert_of_ne _ _ hname]

theorem get?_erase (directory : Directory α) (name other : String) :
    (directory.erase name).get? other = if other = name then none else directory.get? other := by
  split
  · rename_i hname
    rw [hname, get?_erase_self]
  · rename_i hname
    rw [get?_erase_of_ne _ hname]

/-- There is nothing to take out under a name without an entry. -/
theorem erase_eq_self (hget : directory.get? name = none) : directory.erase name = directory := by
  refine ext_get? fun other => ?_
  rw [get?_erase]
  split
  · rename_i hname
    rw [hname, hget]
  · rfl

/-- Putting an entry in again does not change anything. -/
theorem insert_eq_self (hget : directory.get? name = some value) :
    directory.insert name value = directory := by
  refine ext_get? fun other => ?_
  rw [get?_insert]
  split
  · rename_i hname
    rw [hname, hget]
  · rfl

/-- The last entry that is put in under a name stays. -/
theorem insert_insert_self (directory : Directory α) (name : String) (value second : α) :
    (directory.insert name value).insert name second = directory.insert name second := by
  refine ext_get? fun other => ?_
  simp only [get?_insert]
  split <;> rfl

/-- An entry that is put in and taken out again leaves the other names. -/
theorem erase_insert_self (directory : Directory α) (name : String) (value : α) :
    (directory.insert name value).erase name = directory.erase name := by
  refine ext_get? fun other => ?_
  simp only [get?_insert, get?_erase]
  split <;> rfl

/-- Taking a name out does not matter to an entry that is put in under another one. -/
theorem erase_insert_of_ne (directory : Directory α) (value : α) (hother : other ≠ name) :
    (directory.insert name value).erase other = (directory.erase other).insert name value := by
  refine ext_get? fun third => ?_
  simp only [get?_insert, get?_erase]
  by_cases hthird : third = other
  · simp [hthird, hother]
  · simp [hthird]

/-- Two names can be taken out in any order. -/
theorem erase_comm (directory : Directory α) (name other : String) :
    (directory.erase name).erase other = (directory.erase other).erase name := by
  refine ext_get? fun third => ?_
  simp only [get?_erase]
  split <;> split <;> rfl

/-! ## Applying a function to the entries -/

/-- The directory with a function applied to all its entries. -/
def map (change : α → β) (directory : Directory α) : Directory β where
  entries := directory.entries.map fun entry => (entry.1, change entry.2)
  ascending := List.pairwise_map.mpr directory.ascending

@[simp] theorem get?_map (change : α → β) (directory : Directory α) (name : String) :
    (directory.map change).get? name = (directory.get? name).map change := by
  simp only [get?, map, List.find?_map, Option.map_map]
  rfl

theorem values_map (change : α → β) (directory : Directory α) :
    (directory.map change).values = directory.values.map change := by
  simp only [values, map, List.map_map]
  rfl

theorem map_insert (change : α → β) (directory : Directory α) (name : String) (value : α) :
    (directory.insert name value).map change =
      (directory.map change).insert name (change value) := by
  refine ext_get? fun other => ?_
  simp only [get?_map, get?_insert]
  split <;> rfl

theorem map_erase (change : α → β) (directory : Directory α) (name : String) :
    (directory.erase name).map change = (directory.map change).erase name := by
  refine ext_get? fun other => ?_
  simp only [get?_map, get?_erase]
  split <;> rfl

/-! ## All entries -/

/-- Entries that correspond under each name correspond in their order. -/
theorem forall₂_entries {relation : α → β → Prop} {counterpart : Directory β}
    (hentries : ∀ name, Option.Rel relation (directory.get? name) (counterpart.get? name)) :
    List.Forall₂ (fun entry entry' => entry.1 = entry'.1 ∧ relation entry.2 entry'.2)
      directory.entries counterpart.entries := by
  have hblank : directory.map (fun _ => ()) = counterpart.map fun _ => () := by
    refine ext_get? fun name => ?_
    rw [get?_map, get?_map]
    have hfound := hentries name
    generalize directory.get? name = found? at hfound ⊢
    generalize counterpart.get? name = found'? at hfound ⊢
    cases hfound <;> rfl
  have hnames : directory.entries.map Prod.fst = counterpart.entries.map Prod.fst := by
    have hmapped := congrArg (fun blank => blank.entries.map Prod.fst) hblank
    simp only [map, List.map_map] at hmapped
    exact hmapped
  refine List.forall₂_iff_get.mpr ⟨?_, fun index hindex hindex' => ?_⟩
  · simpa using congrArg List.length hnames
  · have hname : directory.entries[index].1 = counterpart.entries[index].1 := by
      have hthere := congrArg (·[index]?) hnames
      simpa [hindex, hindex'] using hthere
    have hfound := hentries directory.entries[index].1
    have hvalue : directory.get? directory.entries[index].1 = some directory.entries[index].2 :=
      mem_entries_iff.mp (List.getElem_mem hindex)
    have hvalue' : counterpart.get? counterpart.entries[index].1 =
        some counterpart.entries[index].2 := mem_entries_iff.mp (List.getElem_mem hindex')
    rw [hvalue, hname, hvalue'] at hfound
    cases hfound with
    | some hvalues => exact ⟨hname, hvalues⟩

/-- All entries are the one of a name and those of the other names. -/
theorem values_perm (hget : directory.get? name = some value) :
    directory.values.Perm (value :: (directory.erase name).values) := by
  obtain ⟨before, after, hentries⟩ := List.append_of_mem (mem_entries_iff.mpr hget)
  have hnodup := directory.names_nodup
  rw [names, hentries, List.map_append, List.nodup_append, List.map_cons, List.nodup_cons] at hnodup
  have hbefore : before.filter (fun entry => entry.1 ≠ name) = before := by
    refine List.filter_eq_self.mpr fun entry hmem => ?_
    simpa using hnodup.2.2 entry.1 (List.mem_map_of_mem hmem) name List.mem_cons_self
  have hafter : after.filter (fun entry => entry.1 ≠ name) = after := by
    refine List.filter_eq_self.mpr fun entry hmem => ?_
    have hne : entry.1 ≠ name := by
      intro heq
      have hthere := List.mem_map_of_mem (f := Prod.fst) hmem
      exact hnodup.2.1.1 (heq ▸ hthere)
    simpa using hne
  have herase : (directory.erase name).entries = before ++ after := by
    change directory.entries.filter _ = _
    rw [hentries, List.filter_append, List.filter_cons, hbefore, hafter]
    simp
  rw [values, values, herase, hentries, List.map_append, List.map_append]
  exact List.perm_middle

theorem values_insert_perm (directory : Directory α) (name : String) (value : α) :
    (directory.insert name value).values.Perm (value :: (directory.erase name).values) := by
  have hperm := values_perm (get?_insert_self directory name value)
  rwa [erase_insert_self] at hperm

/-- Taking the first entry out leaves the rest. -/
theorem entries_erase_of_cons {rest : List (String × α)}
    (hentries : directory.entries = (name, value) :: rest) :
    (directory.erase name).entries = rest := by
  have hnodup := directory.names_nodup
  rw [names, hentries, List.map_cons, List.nodup_cons] at hnodup
  have hrest : rest.filter (fun entry => entry.1 ≠ name) = rest := by
    refine List.filter_eq_self.mpr fun entry hmem => ?_
    have hne : entry.1 ≠ name := by
      intro heq
      have hthere := List.mem_map_of_mem (f := Prod.fst) hmem
      exact hnodup.1 (heq ▸ hthere)
    simpa using hne
  change directory.entries.filter _ = _
  rw [hentries, List.filter_cons, hrest]
  simp

/-- A directory without entries has nothing under any name. -/
theorem eq_empty_iff : directory = empty ↔ ∀ name, directory.get? name = none := by
  constructor
  · rintro rfl name
    rfl
  · intro hget
    exact ext_get? fun name => (hget name).trans (get?_empty name).symm

/-- Exchanging the entries of two names does not change the entries as a whole. -/
theorem values_exchange_perm {first second : String} {value other : α} (hne : first ≠ second)
    (hfirst : directory.get? first = some value) (hsecond : directory.get? second = some other) :
    ((directory.insert first other).insert second value).values.Perm directory.values := by
  have hrest : (directory.erase first).get? second = some other := by
    rw [get?_erase_of_ne _ hne.symm, hsecond]
  refine (values_insert_perm _ _ _).trans ?_
  rw [erase_insert_of_ne _ _ hne.symm]
  refine ((values_insert_perm _ _ _).cons _).trans ?_
  rw [erase_comm]
  exact ((values_perm hrest).symm.cons _).trans (values_perm hfirst).symm

end DynamicValue.Directory
