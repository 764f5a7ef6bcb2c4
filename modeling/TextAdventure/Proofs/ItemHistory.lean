import Mathlib.Data.List.Induction
import Mathlib.Data.List.Nodup
import TextAdventure.Inventory

/-!
# Histories of inventories

What inventories list after a history of acts is told by the history alone.  An item is present if
it was added after it was last removed, and the items of an inventory stand in the order of the
times at which they were last made present.  What is not named in the history of an inventory has no
part in it: each inventory is the same as after the acts on it alone.
-/

namespace TextAdventure

/-- An act on one inventory, which exists afterwards. -/
inductive InventoryAct where
  | add (inventory item : String)
  | remove (inventory item : String)
  | touch (inventory : String)
  deriving DecidableEq, Repr

namespace InventoryAct

/-- The inventory that the act names. -/
def inventory : InventoryAct → String
  | add inventory _ => inventory
  | remove inventory _ => inventory
  | touch inventory => inventory

/-- The act adds the item to the inventory or removes it from there. -/
def concerns (inventory item : String) (act : InventoryAct) : Bool :=
  act == .add inventory item || act == .remove inventory item

/-- What the act does to the items of its inventory. -/
def change (act : InventoryAct) (list : ItemList) : ItemList :=
  match act with
  | add _ item => list.add item
  | remove _ item => list.remove item
  | touch _ => list

end InventoryAct

/-- The acts on inventories, the first one first. -/
abbrev InventoryHistory := List InventoryAct

namespace Inventories

/-! ## Acts on inventories -/

/-- The inventories after an act. -/
def act (inventories : Inventories) : InventoryAct → Inventories
  | .add inventory item => inventories.add inventory item
  | .remove inventory item => inventories.remove inventory item
  | .touch inventory => inventories.touch inventory

/-- The inventories after a history, at whose beginning none exists. -/
def ofHistory (history : InventoryHistory) : Inventories :=
  history.foldl act empty

theorem ofHistory_append (history : InventoryHistory) (act : InventoryAct) :
    ofHistory (history ++ [act]) = (ofHistory history).act act := by
  rw [ofHistory, List.foldl_append]
  rfl

/-- The items of an inventory, of which there are none if it does not exist. -/
def items (inventories : Inventories) (name : String) : ItemList :=
  (inventories.get? name).getD []

theorem get?_act (inventories : Inventories) (act : InventoryAct) (name : String) :
    (inventories.act act).get? name =
      if name = act.inventory then some (act.change (inventories.items name))
      else inventories.get? name := by
  have hmodify : inventories.act act = inventories.modify act.inventory act.change := by
    cases act with
    | add | remove | touch => rfl
  rw [hmodify, get?_modify, items]
  split
  · rename_i hname
    rw [hname]
  · rfl

theorem items_act (inventories : Inventories) (act : InventoryAct) (name : String) :
    (inventories.act act).items name =
      if name = act.inventory then act.change (inventories.items name)
      else inventories.items name := by
  rw [items, get?_act]
  split <;> rfl

theorem holds_iff_mem_items (inventories : Inventories) (name item : String) :
    inventories.holds name item = true ↔ item ∈ inventories.items name := by
  cases hlist : inventories.get? name with
  | none => simp [holds, items, hlist]
  | some list => simp [holds, items, hlist, ItemList.has]

end Inventories

namespace InventoryHistory

variable {history : InventoryHistory} {act : InventoryAct} {inventory item : String} {time : Nat}

/-! ## What a history says of an item -/

/-- The last act that adds the item to the inventory or removes it from there adds it. -/
def IsPresent (history : InventoryHistory) (inventory item : String) : Prop :=
  (history.filter (·.concerns inventory item)).getLast? = some (.add inventory item)

instance : Decidable (IsPresent history inventory item) :=
  inferInstanceAs (Decidable (_ = _))

/-- At this time the item is added to the inventory, where it is not present before. -/
def EntersAt (history : InventoryHistory) (inventory item : String) (time : Nat) : Prop :=
  history[time]? = some (.add inventory item) ∧ ¬IsPresent (history.take time) inventory item

/-- The time at which the item was last made present. -/
structure EnteredAt (history : InventoryHistory) (inventory item : String) (time : Nat) : Prop where
  enters : EntersAt history inventory item time
  last : ∀ other, EntersAt history inventory item other → other ≤ time

/-- The first item was last made present before the second one was. -/
def Precedes (history : InventoryHistory) (inventory first second : String) : Prop :=
  ∃ early late, EnteredAt history inventory first early ∧
    EnteredAt history inventory second late ∧ early < late

theorem isPresent_append_iff :
    IsPresent (history ++ [act]) inventory item ↔
      act = .add inventory item ∨
        act ≠ .remove inventory item ∧ IsPresent history inventory item := by
  by_cases hconcerns : act.concerns inventory item = true
  · have hact : act = .add inventory item ∨ act = .remove inventory item := by
      simpa [InventoryAct.concerns] using hconcerns
    rcases hact with rfl | rfl <;> simp [IsPresent, hconcerns]
  · have hact : act ≠ .add inventory item ∧ act ≠ .remove inventory item := by
      simpa [InventoryAct.concerns] using hconcerns
    simp [IsPresent, hconcerns, hact]

theorem isPresent_append_of_ne (hother : act.inventory ≠ inventory) :
    IsPresent (history ++ [act]) inventory item ↔ IsPresent history inventory item := by
  have hadd : act ≠ .add inventory item := by
    rintro rfl
    exact hother rfl
  have hremove : act ≠ .remove inventory item := by
    rintro rfl
    exact hother rfl
  simp [isPresent_append_iff, hadd, hremove]

/-- The times are those of the history before, unless the last act makes the item present. -/
theorem entersAt_append_iff :
    EntersAt (history ++ [act]) inventory item time ↔
      EntersAt history inventory item time ∨
        time = history.length ∧ act = .add inventory item ∧
          ¬IsPresent history inventory item := by
  rcases Nat.lt_trichotomy time history.length with hbefore | rfl | hafter
  · simp [EntersAt, List.getElem?_append_left hbefore,
      List.take_append_of_le_length (Nat.le_of_lt hbefore), Nat.ne_of_lt hbefore]
  · simp [EntersAt]
  · have hnone : (history ++ [act])[time]? = none :=
      List.getElem?_eq_none (by rw [List.length_append]; exact hafter)
    simp [EntersAt, hnone, List.getElem?_eq_none (Nat.le_of_lt hafter), Nat.ne_of_gt hafter]

theorem EntersAt.lt_length (henters : EntersAt history inventory item time) :
    time < history.length :=
  (List.getElem?_eq_some_iff.mp henters.1).1

theorem EnteredAt.unique {other : Nat} (htime : EnteredAt history inventory item time)
    (hother : EnteredAt history inventory item other) : time = other :=
  Nat.le_antisymm (hother.last time htime.enters) (htime.last other hother.enters)

/-- An item that is present keeps its time whatever follows. -/
theorem EnteredAt.append (htime : EnteredAt history inventory item time)
    (hpresent : IsPresent history inventory item) (act : InventoryAct) :
    EnteredAt (history ++ [act]) inventory item time := by
  refine ⟨entersAt_append_iff.mpr (Or.inl htime.enters), ?_⟩
  intro other hother
  rcases entersAt_append_iff.mp hother with hold | ⟨-, -, habsent⟩
  · exact htime.last other hold
  · exact absurd hpresent habsent

/-- An item that is not present is made present by the act that adds it. -/
theorem enteredAt_length (habsent : ¬IsPresent history inventory item) :
    EnteredAt (history ++ [.add inventory item]) inventory item history.length := by
  refine ⟨entersAt_append_iff.mpr (Or.inr ⟨rfl, rfl, habsent⟩), ?_⟩
  intro other hother
  rcases entersAt_append_iff.mp hother with hold | ⟨hnow, -, -⟩
  · exact Nat.le_of_lt hold.lt_length
  · exact Nat.le_of_eq hnow

theorem Precedes.append {first second : String}
    (hprecedes : Precedes history inventory first second)
    (hfirst : IsPresent history inventory first) (hsecond : IsPresent history inventory second)
    (act : InventoryAct) : Precedes (history ++ [act]) inventory first second := by
  obtain ⟨early, late, hearly, hlate, hlt⟩ := hprecedes
  exact ⟨early, late, hearly.append hfirst act, hlate.append hsecond act, hlt⟩

theorem Precedes.ne {first second : String}
    (hprecedes : Precedes history inventory first second) : first ≠ second := by
  obtain ⟨early, late, hearly, hlate, hlt⟩ := hprecedes
  rintro rfl
  exact Nat.ne_of_lt hlt (hearly.unique hlate)

/-! ## What a history leaves in an inventory -/

/-- The list has the items that are present, each of which was made present at some time, in the
order of these times. -/
structure Leaves (history : InventoryHistory) (inventory : String) (list : ItemList) : Prop where
  mem_iff : ∀ item, item ∈ list ↔ IsPresent history inventory item
  entered : ∀ item ∈ list, ∃ time, EnteredAt history inventory item time
  ordered : list.Pairwise (Precedes history inventory)

variable {list : ItemList}

theorem leaves_nil (inventory : String) : Leaves [] inventory [] where
  mem_iff := by simp [IsPresent]
  entered := by simp
  ordered := .nil

theorem Leaves.nodup (hleaves : Leaves history inventory list) : list.Nodup :=
  hleaves.ordered.imp Precedes.ne

/-- Items that stay present stay in their order. -/
theorem Leaves.append_of_sublist (hleaves : Leaves history inventory list) {kept : ItemList}
    (hkept : kept.Sublist list)
    (hmem : ∀ item, item ∈ kept ↔ IsPresent (history ++ [act]) inventory item) :
    Leaves (history ++ [act]) inventory kept := by
  have hpresent : ∀ item ∈ kept, IsPresent history inventory item := fun item hitem =>
    (hleaves.mem_iff item).mp (hkept.subset hitem)
  refine ⟨hmem, ?_, ?_⟩
  · intro item hitem
    obtain ⟨time, htime⟩ := hleaves.entered item (hkept.subset hitem)
    exact ⟨time, htime.append (hpresent item hitem) act⟩
  · refine (hleaves.ordered.sublist hkept).imp_of_mem ?_
    intro first second hfirst hsecond hprecedes
    exact hprecedes.append (hpresent first hfirst) (hpresent second hsecond) act

/-- An item that is made present comes last. -/
theorem Leaves.append_add (hleaves : Leaves history inventory list) (habsent : item ∉ list) :
    Leaves (history ++ [.add inventory item]) inventory (list ++ [item]) := by
  rw [hleaves.mem_iff] at habsent
  have hnow := enteredAt_length habsent
  have hlasts : ∀ other ∈ list, ∃ time < history.length,
      EnteredAt (history ++ [.add inventory item]) inventory other time := by
    intro other hother
    obtain ⟨time, htime⟩ := hleaves.entered other hother
    exact ⟨time, htime.enters.lt_length,
      htime.append ((hleaves.mem_iff other).mp hother) _⟩
  refine ⟨?_, ?_, ?_⟩
  · intro other
    simp [isPresent_append_iff, hleaves.mem_iff, or_comm, eq_comm]
  · intro other hother
    rcases List.mem_append.mp hother with hold | hsame
    · obtain ⟨time, -, htime⟩ := hlasts other hold
      exact ⟨time, htime⟩
    · exact ⟨history.length, List.mem_singleton.mp hsame ▸ hnow⟩
  · rw [List.pairwise_append]
    refine ⟨?_, List.pairwise_singleton _ _, ?_⟩
    · refine hleaves.ordered.imp_of_mem ?_
      intro first second hfirst hsecond hprecedes
      exact hprecedes.append ((hleaves.mem_iff first).mp hfirst)
        ((hleaves.mem_iff second).mp hsecond) _
    · intro other hother last hlast
      obtain ⟨time, hearlier, htime⟩ := hlasts other hother
      exact ⟨time, history.length, htime, List.mem_singleton.mp hlast ▸ hnow, hearlier⟩

/-- An act on another inventory leaves the items as they are. -/
theorem Leaves.append_of_ne (hleaves : Leaves history inventory list)
    (hother : act.inventory ≠ inventory) : Leaves (history ++ [act]) inventory list :=
  hleaves.append_of_sublist (.refl list) fun item => by
    rw [hleaves.mem_iff, isPresent_append_of_ne hother]

/-- One act on the inventory. -/
theorem Leaves.append_change (hleaves : Leaves history act.inventory list) :
    Leaves (history ++ [act]) act.inventory (act.change list) := by
  cases act with
  | add inventory item =>
      by_cases hmem : item ∈ list
      · have hsame : list.add item = list := by simp [ItemList.add, hmem]
        have hpresent := (hleaves.mem_iff item).mp hmem
        rw [InventoryAct.change, hsame]
        refine hleaves.append_of_sublist (.refl list) fun other => ?_
        rw [hleaves.mem_iff, isPresent_append_iff]
        simp only [ne_eq, reduceCtorEq, not_false_eq_true, true_and]
        refine ⟨Or.inr, ?_⟩
        rintro (hadd | hold)
        · obtain ⟨-, rfl⟩ := InventoryAct.add.inj hadd
          exact hpresent
        · exact hold
      · have hlast : list.add item = list ++ [item] := by simp [ItemList.add, hmem]
        rw [InventoryAct.change, hlast]
        exact hleaves.append_add hmem
  | remove inventory item =>
      rw [InventoryAct.change, ItemList.remove]
      refine hleaves.append_of_sublist List.erase_sublist fun other => ?_
      rw [hleaves.nodup.mem_erase_iff, hleaves.mem_iff, isPresent_append_iff]
      simp [InventoryAct.inventory, eq_comm]
  | touch inventory =>
      rw [InventoryAct.change]
      refine hleaves.append_of_sublist (.refl list) fun other => ?_
      rw [hleaves.mem_iff, isPresent_append_iff]
      simp

theorem leaves_ofHistory (history : InventoryHistory) (inventory : String) :
    Leaves history inventory ((Inventories.ofHistory history).items inventory) := by
  induction history using List.reverseRecOn with
  | nil => exact leaves_nil inventory
  | append_singleton history act ih =>
      rw [Inventories.ofHistory_append, Inventories.items_act]
      split
      · rename_i hname
        rw [hname] at ih ⊢
        exact ih.append_change
      · rename_i hname
        exact ih.append_of_ne (Ne.symm hname)

end InventoryHistory

namespace Inventories

open InventoryHistory

/-! ## Inventories after a history -/

/-- An inventory exists once an act has named it. -/
theorem isSome_get?_ofHistory_iff (history : InventoryHistory) (name : String) :
    ((ofHistory history).get? name).isSome ↔ ∃ act ∈ history, act.inventory = name := by
  induction history using List.reverseRecOn with
  | nil => simp [ofHistory, empty, get?]
  | append_singleton history act ih =>
      rw [ofHistory_append, get?_act]
      by_cases hname : name = act.inventory
      · simp [hname]
      · simp [hname, Ne.symm hname, ih]

theorem get?_ofHistory_append_of_ne (history : InventoryHistory) {act : InventoryAct}
    {name : String} (hname : name ≠ act.inventory) :
    (ofHistory (history ++ [act])).get? name = (ofHistory history).get? name := by
  rw [ofHistory_append, get?_act, if_neg hname]

/-- An inventory is the same as after the acts on it alone. -/
theorem get?_ofHistory_filter (history : InventoryHistory) (name : String) :
    (ofHistory (history.filter (·.inventory == name))).get? name =
      (ofHistory history).get? name := by
  induction history using List.reverseRecOn with
  | nil => rfl
  | append_singleton history act ih =>
      rw [List.filter_append, ofHistory_append, get?_act]
      by_cases hname : name = act.inventory
      · have hself : [act].filter (·.inventory == name) = [act] := by simp [hname]
        rw [hself, ofHistory_append, get?_act, if_pos hname, if_pos hname, items, items, ih]
      · have hnone : [act].filter (·.inventory == name) = [] := by simp [Ne.symm hname]
        rw [hnone, List.append_nil, if_neg hname, ih]

section

variable {history : InventoryHistory} {name : String} {list : ItemList}
  (hlist : (ofHistory history).get? name = some list)

include hlist

theorem leaves_of_get? : history.Leaves name list := by
  have hleaves := leaves_ofHistory history name
  rwa [items, hlist, Option.getD_some] at hleaves

/-- Adding an item that is present leaves it in its place. -/
theorem get?_ofHistory_add_of_mem {item : String} (hitem : item ∈ list) :
    (ofHistory (history ++ [.add name item])).get? name = some list := by
  rw [ofHistory_append, get?_act, InventoryAct.inventory, if_pos rfl, items, hlist,
    Option.getD_some, InventoryAct.change]
  simp [ItemList.add, hitem]

/-- An item that is removed and added again comes last. -/
theorem get?_ofHistory_remove_add (item : String) :
    (ofHistory (history ++ [.remove name item, .add name item])).get? name =
      some (list.filter (· != item) ++ [item]) := by
  have hnodup := (leaves_of_get? hlist).nodup
  have hremoved : (ofHistory (history ++ [.remove name item])).items name =
      list.filter (· != item) := by
    rw [ofHistory_append, items_act, InventoryAct.inventory, if_pos rfl, items, hlist,
      Option.getD_some, InventoryAct.change, ItemList.remove, hnodup.erase_eq_filter]
  rw [List.append_cons, ofHistory_append, get?_act, InventoryAct.inventory, if_pos rfl, hremoved,
    InventoryAct.change]
  simp [ItemList.add]

end

/-- After any history of adding, removing and touching, an inventory exists if an act named it, and
it holds an item if the last act on the item added it.  Its items are listed once each, in the order
of the times at which they were last made present: adding an item that is present leaves it in its
place, and an item that is removed and added again comes last.  No inventory depends on acts on
another one. -/
theorem holds_ofHistory_iff_and_ordered (history : InventoryHistory) :
    (∀ name, ((ofHistory history).get? name).isSome ↔ ∃ act ∈ history, act.inventory = name) ∧
    (∀ name item, (ofHistory history).holds name item = true ↔ history.IsPresent name item) ∧
    (∀ name list, (ofHistory history).get? name = some list →
      list.Nodup ∧
      (∀ item ∈ list, ∃ time, history.EnteredAt name item time) ∧
      list.Pairwise (history.Precedes name) ∧
      (∀ item ∈ list, (ofHistory (history ++ [.add name item])).get? name = some list) ∧
      ∀ item, (ofHistory (history ++ [.remove name item, .add name item])).get? name =
        some (list.filter (· != item) ++ [item])) ∧
    (∀ name, (ofHistory (history.filter (·.inventory == name))).get? name =
      (ofHistory history).get? name) ∧
    ∀ act name, name ≠ act.inventory →
      (ofHistory (history ++ [act])).get? name = (ofHistory history).get? name := by
  refine ⟨isSome_get?_ofHistory_iff history, ?_, ?_, get?_ofHistory_filter history, ?_⟩
  · intro name item
    rw [holds_iff_mem_items, (leaves_ofHistory history name).mem_iff]
  · intro name list hlist
    have hleaves := leaves_of_get? hlist
    exact ⟨hleaves.nodup, hleaves.entered, hleaves.ordered,
      fun _ => get?_ofHistory_add_of_mem hlist, get?_ofHistory_remove_add hlist⟩
  · intro act name hname
    exact get?_ofHistory_append_of_ne history hname

/-- The key is put down and taken up again, and the rope is added twice. -/
def keyHistory : InventoryHistory :=
  [.add "bag" "key", .touch "shelf", .add "bag" "rope", .add "box" "key", .remove "bag" "key",
    .add "bag" "rope", .add "bag" "key", .remove "chest" "gem"]

theorem holds_ofHistory_iff_and_ordered_key :
    ((ofHistory keyHistory).get? "chest").isSome ∧
      (ofHistory keyHistory).holds "bag" "key" = true ∧
      (ofHistory keyHistory).get? "bag" = some ["rope", "key"] ∧
      keyHistory.Precedes "bag" "rope" "key" ∧ "box" ≠ InventoryAct.inventory (.touch "bag") ∧
      (ofHistory (keyHistory ++ [.touch "bag"])).get? "box" =
        (ofHistory keyHistory).get? "box" := by
  obtain ⟨hexists, hholds, hlists, -, hother⟩ := holds_ofHistory_iff_and_ordered keyHistory
  have hbag : (ofHistory keyHistory).get? "bag" = some ["rope", "key"] := by decide
  have hbox : "box" ≠ InventoryAct.inventory (.touch "bag") := by decide
  obtain ⟨-, -, hordered, -, -⟩ := hlists "bag" _ hbag
  exact ⟨(hexists "chest").mpr ⟨_, List.mem_of_getLast? rfl, rfl⟩,
    (hholds "bag" "key").mpr (by decide), hbag, List.rel_of_pairwise_cons hordered (by simp), hbox,
    hother _ _ hbox⟩

end Inventories

end TextAdventure
