import TextAdventure.Inventory
import Mathlib.Data.List.Count

/-!
# How often an item is held

Inventories that come from outside may list an item more than once.  Adding and removing are
therefore told by how often an inventory lists an item: adding makes this at least one, and removing
takes one away.
-/

namespace TextAdventure

namespace ItemList

theorem count_add_self (list : ItemList) (item : String) :
    (list.add item).count item = max 1 (list.count item) := by
  by_cases hmem : item ∈ list
  · have hpos : 0 < list.count item := List.count_pos_iff.mpr hmem
    simp only [add, List.contains_eq_mem, hmem, decide_true, if_true]
    omega
  · have hzero : list.count item = 0 := List.count_eq_zero.mpr hmem
    simp [add, hmem, hzero]

theorem count_add_of_ne (list : ItemList) {item other : String} (hother : other ≠ item) :
    (list.add item).count other = list.count other := by
  by_cases hmem : item ∈ list
  · simp [add, hmem]
  · simp [add, hmem, Ne.symm hother]

theorem count_remove_self (list : ItemList) (item : String) :
    (list.remove item).count item = list.count item - 1 :=
  List.count_erase_self

theorem count_remove_of_ne (list : ItemList) {item other : String} (hother : other ≠ item) :
    (list.remove item).count other = list.count other :=
  List.count_erase_of_ne hother

end ItemList

namespace Inventories

/-- How often an inventory lists an item.  An inventory that does not exist lists nothing. -/
def count (inventories : Inventories) (name item : String) : ℕ :=
  ((inventories.get? name).getD []).count item

theorem holds_iff_count_pos (inventories : Inventories) (name item : String) :
    inventories.holds name item = true ↔ 0 < inventories.count name item := by
  cases hlist : inventories.get? name with
  | none => simp [holds, count, hlist]
  | some items => simp [holds, count, hlist, ItemList.has, List.count_pos_iff]

theorem holds_eq_of_count_eq {first second : Inventories} {name item : String}
    (hcount : first.count name item = second.count name item) :
    first.holds name item = second.holds name item := by
  rw [Bool.eq_iff_iff, holds_iff_count_pos, holds_iff_count_pos, hcount]

theorem count_modify_self (inventories : Inventories) (name : String)
    (change : ItemList → ItemList) (item : String) :
    (inventories.modify name change).count name item =
      (change ((inventories.get? name).getD [])).count item := by
  simp [count, get?_modify]

/-- A change of one item in its inventory leaves every other item as it was, also those of other
inventories. -/
theorem count_modify_of_ne (inventories : Inventories) {name item other key : String}
    {change : ItemList → ItemList}
    (hchange : ∀ list : ItemList, key ≠ item → (change list).count key = list.count key)
    (hother : (other, key) ≠ (name, item)) :
    (inventories.modify name change).count other key = inventories.count other key := by
  by_cases hname : other = name
  · subst hname
    have hkey : key ≠ item := by
      rintro rfl
      exact hother rfl
    rw [count_modify_self, hchange _ hkey, count]
  · simp [count, get?_modify, hname]

theorem count_add_self (inventories : Inventories) (name item : String) :
    (inventories.add name item).count name item = max 1 (inventories.count name item) := by
  rw [add, count_modify_self, ItemList.count_add_self, count]

theorem count_add_of_ne (inventories : Inventories) {name item other key : String}
    (hother : (other, key) ≠ (name, item)) :
    (inventories.add name item).count other key = inventories.count other key :=
  inventories.count_modify_of_ne (fun list => list.count_add_of_ne) hother

theorem count_remove_self (inventories : Inventories) (name item : String) :
    (inventories.remove name item).count name item = inventories.count name item - 1 := by
  rw [remove, count_modify_self, ItemList.count_remove_self, count]

theorem count_remove_of_ne (inventories : Inventories) {name item other key : String}
    (hother : (other, key) ≠ (name, item)) :
    (inventories.remove name item).count other key = inventories.count other key :=
  inventories.count_modify_of_ne (fun list => list.count_remove_of_ne) hother

/-- What is held after adding is what was added or was held before. -/
theorem holds_of_holds_add {inventories : Inventories} {name item other key : String}
    (hheld : (inventories.add name item).holds other key = true) :
    (other, key) = (name, item) ∨ inventories.holds other key = true := by
  by_cases hsame : (other, key) = (name, item)
  · exact Or.inl hsame
  · right
    rwa [holds_iff_count_pos, inventories.count_add_of_ne hsame, ← holds_iff_count_pos] at hheld

theorem holds_of_holds_remove {inventories : Inventories} {name item other key : String}
    (hheld : (inventories.remove name item).holds other key = true) :
    inventories.holds other key = true := by
  rw [holds_iff_count_pos] at hheld ⊢
  by_cases hsame : (other, key) = (name, item)
  · obtain ⟨rfl, rfl⟩ := Prod.mk.inj hsame
    rw [count_remove_self] at hheld
    omega
  · rwa [inventories.count_remove_of_ne hsame] at hheld

end Inventories

end TextAdventure
