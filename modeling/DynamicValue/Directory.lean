/-
# Directories

A directory keeps one entry for each of its names, in the ascending order of the names. The order is
part of the type, so two directories with the same entries are equal. Looking a name up after an
entry was put in or taken out is described by the four lemmas at the end.
-/

namespace DynamicValue

/-- A table of entries by name. -/
@[ext] structure Directory (α : Type) where
  entries : List (String × α)
  ascending : entries.Pairwise fun first second => first.1 < second.1

namespace Directory

variable {α : Type}

/-- The directory without entries. -/
def empty : Directory α := ⟨[], .nil⟩

/-- The entry of a name. -/
def get? (directory : Directory α) (name : String) : Option α :=
  (directory.entries.find? fun entry => entry.1 = name).map Prod.snd

/-- Puts an entry in its place among the others. -/
def insertInto (name : String) (value : α) : List (String × α) → List (String × α)
  | [] => [(name, value)]
  | entry :: rest =>
    if name < entry.1 then (name, value) :: entry :: rest
    else if entry.1 = name then (name, value) :: rest
    else entry :: insertInto name value rest

/-- What is among the entries afterwards was there before or is the entry put in. -/
theorem mem_insertInto {name : String} {value : α} {entries : List (String × α)}
    {entry : String × α} (hmem : entry ∈ insertInto name value entries) :
    entry = (name, value) ∨ entry ∈ entries := by
  induction entries with
  | nil => exact Or.inl (List.mem_singleton.mp hmem)
  | cons first rest ih =>
    unfold insertInto at hmem
    split at hmem
    · exact List.mem_cons.mp hmem
    · split at hmem
      · exact (List.mem_cons.mp hmem).imp_right (List.mem_cons_of_mem first)
      · rcases List.mem_cons.mp hmem with hfirst | hrest
        · exact Or.inr (hfirst ▸ List.mem_cons_self)
        · exact (ih hrest).imp_right (List.mem_cons_of_mem first)

/-- Putting an entry in its place keeps the order. -/
theorem insertInto_ascending (name : String) (value : α) {entries : List (String × α)}
    (hentries : entries.Pairwise fun first second => first.1 < second.1) :
    (insertInto name value entries).Pairwise fun first second => first.1 < second.1 := by
  induction entries with
  | nil => exact List.pairwise_singleton _ _
  | cons first rest ih =>
    have hcons := List.pairwise_cons.mp hentries
    unfold insertInto
    split
    · rename_i hless
      refine List.pairwise_cons.mpr ⟨fun entry hmem => ?_, hentries⟩
      rcases List.mem_cons.mp hmem with hfirst | hrest
      · exact hfirst ▸ hless
      · exact String.lt_trans hless (hcons.1 entry hrest)
    · split
      · rename_i hname
        exact List.pairwise_cons.mpr ⟨fun entry hmem => hname ▸ hcons.1 entry hmem, hcons.2⟩
      · rename_i hless hname
        refine List.pairwise_cons.mpr ⟨fun entry hmem => ?_, ih hcons.2⟩
        rcases mem_insertInto hmem with hentry | hrest
        · rw [hentry]
          exact Std.lt_of_le_of_ne (String.not_lt.mp hless) hname
        · exact hcons.1 entry hrest

/-- The directory with an entry for a name, in place of the one that the name had. -/
def insert (directory : Directory α) (name : String) (value : α) : Directory α :=
  ⟨insertInto name value directory.entries, insertInto_ascending name value directory.ascending⟩

/-- The directory without the entry of a name. -/
def erase (directory : Directory α) (name : String) : Directory α :=
  ⟨directory.entries.filter fun entry => entry.1 ≠ name, directory.ascending.filter _⟩

/-- The names, in ascending order. -/
def names (directory : Directory α) : List String := directory.entries.map Prod.fst

/-- The entries in the order of their names. -/
def values (directory : Directory α) : List α := directory.entries.map Prod.snd

/-- The number of entries. -/
def size (directory : Directory α) : Nat := directory.entries.length

/-- Whether there are no entries. -/
def isEmpty (directory : Directory α) : Bool := directory.entries.isEmpty

@[simp] theorem get?_empty (name : String) : (empty : Directory α).get? name = none := rfl

theorem find?_insertInto_self (name : String) (value : α) (entries : List (String × α)) :
    (insertInto name value entries).find? (fun entry => entry.1 = name) = some (name, value) := by
  induction entries with
  | nil => simp [insertInto]
  | cons first rest ih =>
    unfold insertInto
    split
    · simp
    · split
      · simp
      · rename_i hname
        simp [hname, ih]

theorem find?_insertInto_of_ne {name other : String} (value : α) (entries : List (String × α))
    (hother : other ≠ name) :
    (insertInto name value entries).find? (fun entry => entry.1 = other) =
      entries.find? fun entry => entry.1 = other := by
  induction entries with
  | nil => simp [insertInto, hother.symm]
  | cons first rest ih =>
    unfold insertInto
    split
    · simp [hother.symm]
    · split
      · rename_i hname
        simp [hname, hother.symm]
      · simp only [List.find?_cons, ih]

@[simp] theorem get?_insert_self (directory : Directory α) (name : String) (value : α) :
    (directory.insert name value).get? name = some value := by
  simp [get?, insert, find?_insertInto_self]

@[simp] theorem get?_insert_of_ne (directory : Directory α) {name other : String} (value : α)
    (hother : other ≠ name) :
    (directory.insert name value).get? other = directory.get? other := by
  simp [get?, insert, find?_insertInto_of_ne value directory.entries hother]

@[simp] theorem get?_erase_self (directory : Directory α) (name : String) :
    (directory.erase name).get? name = none := by
  simp [get?, erase]

@[simp] theorem get?_erase_of_ne (directory : Directory α) {name other : String}
    (hother : other ≠ name) : (directory.erase name).get? other = directory.get? other := by
  simp only [get?, erase, List.find?_filter]
  congr 2
  funext entry
  by_cases hentry : entry.1 = other
  · simp [hentry, hother]
  · simp [hentry]

end Directory

end DynamicValue
