import TextAdventure.NameMap
import TextAdventure.Text.Quoted

/-!
# Inventories

What is held, and where: a family of named inventories, each listing its items in the order in which
they were added.  Adding a held item changes nothing, and removing an item keeps the inventory.
-/

namespace TextAdventure

/-- The items of one inventory in the order in which they were added. -/
abbrev ItemList := List String

namespace ItemList

/-- The item is in the list. -/
def has (list : ItemList) (item : String) : Bool :=
  list.contains item

/-- Puts an item at the end, unless it is in the list. -/
def add (list : ItemList) (item : String) : ItemList :=
  if list.contains item then list else list ++ [item]

/-- Takes the first occurrence of an item out of the list. -/
def remove (list : ItemList) (item : String) : ItemList :=
  list.erase item

/-- The list that results from adding items one by one. -/
def ofItems (items : List String) : ItemList :=
  items.foldl add []

/-- The list as a reader sees it, each item in quotes. -/
def listing (list : ItemList) : String :=
  Text.quotedList list

end ItemList

/-- A family of named inventories. -/
structure Inventories where
  /-- The items of every inventory that exists. -/
  lists : NameMap ItemList
  deriving DecidableEq

namespace Inventories

/-- No inventory exists. -/
def empty : Inventories := ⟨.empty⟩

instance : Inhabited Inventories := ⟨empty⟩

/-- The inventory of a name, if it exists. -/
def get? (inventories : Inventories) (name : String) : Option ItemList :=
  inventories.lists.get? name

/-- The inventory of a name exists and has the item. -/
def holds (inventories : Inventories) (name item : String) : Bool :=
  (inventories.get? name).any (ItemList.has · item)

/-- Changes one inventory, which is created empty if it does not exist. -/
def modify (inventories : Inventories) (name : String) (change : ItemList → ItemList) :
    Inventories :=
  ⟨inventories.lists.insert name (change ((inventories.get? name).getD []))⟩

/-- Adds an item to an inventory. -/
def add (inventories : Inventories) (name item : String) : Inventories :=
  inventories.modify name (ItemList.add · item)

/-- Removes an item from an inventory. -/
def remove (inventories : Inventories) (name item : String) : Inventories :=
  inventories.modify name (ItemList.remove · item)

/-- Makes sure that an inventory exists. -/
def touch (inventories : Inventories) (name : String) : Inventories :=
  inventories.modify name id

/-- The changed inventory has its new items, and every other inventory is as it was. -/
theorem get?_modify (inventories : Inventories) (name : String)
    (change : ItemList → ItemList) (key : String) :
    (inventories.modify name change).get? key =
      if key = name then some (change ((inventories.get? name).getD []))
      else inventories.get? key :=
  NameMap.get?_insert _ _ _ _

end Inventories

end TextAdventure
