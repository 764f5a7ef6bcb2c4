/-!
# Maps and sets keyed by names

A map from names to values keeps its entries in the order of the names, by code point, so two maps
with the same entries are equal and a listing of a map needs no sorting.
-/

namespace TextAdventure

/-- Values under distinct names, listed in the order of the names. -/
structure NameMap (α : Type) where
  entries : List (String × α)
  /-- Every name comes before the names that follow it. -/
  sorted : entries.Pairwise fun a b => a.1 < b.1
  deriving DecidableEq

namespace NameMap

variable {α : Type}

/-- The map without entries. -/
def empty : NameMap α := ⟨[], .nil⟩

instance : Inhabited (NameMap α) := ⟨empty⟩

/-- The names in order. -/
def names (m : NameMap α) : List String :=
  m.entries.map (·.1)

/-- The value under a name, if there is one. -/
def get? (m : NameMap α) (name : String) : Option α :=
  (m.entries.find? (·.1 == name)).map (·.2)

/-- A name has a value. -/
def contains (m : NameMap α) (name : String) : Bool :=
  (m.get? name).isSome

/-- Puts a value into a sorted list of entries, over the one that stands under its name. -/
def placed (name : String) (value : α) : List (String × α) → List (String × α)
  | [] => [(name, value)]
  | (other, old) :: rest =>
    if name < other then (name, value) :: (other, old) :: rest
    else if name = other then (name, value) :: rest
    else (other, old) :: placed name value rest

theorem mem_placed {name : String} {value : α} {entry : String × α}
    {entries : List (String × α)} (hentry : entry ∈ placed name value entries) :
    entry = (name, value) ∨ entry ∈ entries := by
  induction entries with
  | nil => simpa [placed] using hentry
  | cons first rest ih =>
      unfold placed at hentry
      split at hentry
      · simpa using hentry
      · split at hentry
        · rcases List.mem_cons.mp hentry with hplaced | hrest
          · exact Or.inl hplaced
          · exact Or.inr (List.mem_cons_of_mem _ hrest)
        · rcases List.mem_cons.mp hentry with rfl | hrest
          · exact Or.inr List.mem_cons_self
          · exact (ih hrest).imp_right (List.mem_cons_of_mem _)

theorem sorted_placed (name : String) (value : α) {entries : List (String × α)}
    (hsorted : entries.Pairwise fun a b => a.1 < b.1) :
    (placed name value entries).Pairwise fun a b => a.1 < b.1 := by
  induction entries with
  | nil => simp [placed]
  | cons first rest ih =>
      obtain ⟨hfirst, hrest⟩ := List.pairwise_cons.mp hsorted
      unfold placed
      split
      · rename_i hlt
        refine List.pairwise_cons.mpr ⟨?_, hsorted⟩
        intro entry hentry
        rcases List.mem_cons.mp hentry with rfl | hentry
        · exact hlt
        · exact String.lt_trans hlt (hfirst entry hentry)
      · split
        · rename_i heq
          refine List.pairwise_cons.mpr ⟨?_, hrest⟩
          intro entry hentry
          rw [heq]
          exact hfirst entry hentry
        · rename_i hlt hne
          refine List.pairwise_cons.mpr ⟨?_, ih hrest⟩
          intro entry hentry
          rcases mem_placed hentry with rfl | hentry
          · exact Decidable.by_contra fun hbefore =>
              hne (String.le_antisymm (String.not_lt.mp hbefore) (String.not_lt.mp hlt))
          · exact hfirst entry hentry

/-- Puts a value under a name, over the one that stands there. -/
def insert (m : NameMap α) (name : String) (value : α) : NameMap α :=
  ⟨placed name value m.entries, sorted_placed name value m.sorted⟩

/-- Takes a name out of the map. -/
def erase (m : NameMap α) (name : String) : NameMap α :=
  ⟨m.entries.filter (·.1 != name), m.sorted.filter _⟩

/-- The map of a list of entries; of two values under one name the later stays. -/
def ofList (entries : List (String × α)) : NameMap α :=
  entries.foldl (fun m e => m.insert e.1 e.2) empty

@[simp] theorem get?_empty (name : String) : (empty : NameMap α).get? name = none := rfl

theorem find?_placed (name : String) (value : α) (key : String) (entries : List (String × α)) :
    ((placed name value entries).find? (·.1 == key)).map (·.2) =
      if key = name then some value else (entries.find? (·.1 == key)).map (·.2) := by
  induction entries with
  | nil =>
      by_cases hkey : key = name
      · simp [placed, hkey]
      · simp [placed, hkey, Ne.symm hkey]
  | cons entry rest ih =>
      unfold placed
      split
      · by_cases hkey : key = name
        · simp [hkey]
        · simp [hkey, Ne.symm hkey]
      · split
        · rename_i heq
          by_cases hkey : key = name
          · simp [hkey]
          · simp [hkey, Ne.symm hkey, ← heq]
        · rename_i hne
          by_cases hentry : entry.1 = key
          · have hkey : key ≠ name := fun hname => hne (by rw [← hname, ← hentry])
            simp [hentry, hkey]
          · simp [hentry, ih]

/-- The inserted name has the new value, and every other name keeps its own. -/
theorem get?_insert (m : NameMap α) (name : String) (value : α) (key : String) :
    (m.insert name value).get? key = if key = name then some value else m.get? key :=
  find?_placed name value key m.entries

theorem find?_filter_ne (name key : String) (entries : List (String × α)) :
    (entries.filter (·.1 != name)).find? (·.1 == key) =
      if key = name then none else entries.find? (·.1 == key) := by
  induction entries with
  | nil => simp
  | cons entry rest ih =>
      by_cases hname : entry.1 = name <;> by_cases hkey : entry.1 = key <;> grind

/-- The erased name has no value, and every other name keeps its own. -/
theorem get?_erase (m : NameMap α) (name key : String) :
    (m.erase name).get? key = if key = name then none else m.get? key := by
  simp only [get?, erase, find?_filter_ne]
  split <;> rfl

end NameMap

/-- A set of names, listed in their order. -/
structure NameSet where
  members : NameMap Unit
  deriving DecidableEq

namespace NameSet

/-- The set without names. -/
def empty : NameSet := ⟨.empty⟩

instance : Inhabited NameSet := ⟨empty⟩

/-- A name belongs to the set. -/
def contains (s : NameSet) (name : String) : Bool :=
  s.members.contains name

/-- Adds a name. -/
def insert (s : NameSet) (name : String) : NameSet :=
  ⟨s.members.insert name ()⟩

/-- Takes a name away. -/
def erase (s : NameSet) (name : String) : NameSet :=
  ⟨s.members.erase name⟩

/-- The names in order. -/
def toList (s : NameSet) : List String :=
  s.members.names

/-- The set of the names in a list. -/
def ofList (names : List String) : NameSet :=
  names.foldl insert empty

@[simp] theorem contains_insert (s : NameSet) (name key : String) :
    (s.insert name).contains key = (key == name || s.contains key) := by
  simp only [contains, insert, NameMap.contains, NameMap.get?_insert]
  by_cases hkey : key = name <;> simp [hkey]

@[simp] theorem contains_erase (s : NameSet) (name key : String) :
    (s.erase name).contains key = (key != name && s.contains key) := by
  simp only [contains, erase, NameMap.contains, NameMap.get?_erase]
  by_cases hkey : key = name <;> simp [hkey]

end NameSet

end TextAdventure
