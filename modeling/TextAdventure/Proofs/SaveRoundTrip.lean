import TextAdventure.Proofs.ReadingValues
import TextAdventure.Save

/-!
# Saves and their bytes

A save is read back from its bytes, whatever follows them.  The bytes hold maps within maps and
lists within them, so this is put together from the values that they are read as: texts, lists of
texts, and maps of these.  It is also read from the bytes of every other record of its fields.
-/

namespace TextAdventure

/-! ## Maps read back from their entries -/

namespace NameMap

variable {α : Type}

/-- A name that comes after all others is placed at the end. -/
theorem placed_of_forall_lt {entries : List (String × α)} {name : String} {value : α}
    (hlast : ∀ entry ∈ entries, entry.1 < name) :
    placed name value entries = entries ++ [(name, value)] := by
  induction entries with
  | nil => rfl
  | cons entry rest ih =>
      have hbefore : entry.1 < name := hlast entry (by simp)
      have hnotBefore : ¬name < entry.1 := String.lt_asymm hbefore
      have hne : name ≠ entry.1 := fun heq => String.lt_irrefl name (heq ▸ hbefore)
      have hrest := ih (fun other hother => hlast other (by simp [hother]))
      simp [placed, hnotBefore, hne, hrest]

/-- Entries that follow those of a map are put at its end one by one. -/
theorem entries_foldl_insert {entries : List (String × α)} (m : NameMap α)
    (hsorted : (m.entries ++ entries).Pairwise fun a b => a.1 < b.1) :
    (entries.foldl (fun m e => m.insert e.1 e.2) m).entries = m.entries ++ entries := by
  induction entries generalizing m with
  | nil => simp
  | cons entry rest ih =>
      have hlast : ∀ other ∈ m.entries, other.1 < entry.1 := by
        intro other hother
        exact (List.pairwise_append.mp hsorted).2.2 other hother entry (by simp)
      have hinsert : (m.insert entry.1 entry.2).entries = m.entries ++ [entry] :=
        placed_of_forall_lt hlast
      have hrest := ih (m.insert entry.1 entry.2) (by simpa [hinsert] using hsorted)
      simpa [hinsert] using hrest

/-- A map is the map of its entries. -/
theorem ofList_entries (m : NameMap α) : ofList m.entries = m := by
  have hentries := entries_foldl_insert empty m.sorted
  cases m with
  | mk entries sorted =>
      rw [mk.injEq]
      exact hentries

end NameMap

/-- A set is the set of the names in it. -/
theorem NameSet.ofList_toList (s : NameSet) : ofList s.toList = s := by
  -- A set is folded over names and its map over entries, so the two folds are compared first.
  have hfold : ∀ (entries : List (String × Unit)) (m : NameMap Unit),
      (entries.map (·.1)).foldl insert ⟨m⟩ = ⟨entries.foldl (fun m e => m.insert e.1 e.2) m⟩ := by
    intro entries
    induction entries with
    | nil => intro m; rfl
    | cons entry rest ih => intro m; exact ih (m.insert entry.1 entry.2)
  have hmembers := NameMap.ofList_entries s.members
  rw [ofList, toList, NameMap.names, empty, hfold]
  exact congrArg NameSet.mk hmembers

/-! ## Records -/

/-- A search that finds something for each thing finds all of it. -/
theorem mapM_map_eq_some {α β γ : Type} {find : β → Option γ} {thing : α → β} {found : α → γ}
    {entries : List α} (hfind : ∀ entry ∈ entries, find (thing entry) = some (found entry)) :
    (entries.map thing).mapM find = some (entries.map found) := by
  induction entries with
  | nil => rfl
  | cons entry rest ih =>
      have hfirst := hfind entry (by simp)
      have hrest := ih (fun other hother => hfind other (by simp [hother]))
      rw [List.map_cons, List.mapM_cons, hfirst, hrest]
      rfl

namespace MessagePack.Value

@[simp] theorem string?_ofText (s : String) : (ofText s).string? = some s :=
  Text.ofBytes?_toBytes s

@[simp] theorem strings?_ofTexts (items : List String) : (ofTexts items).strings? = some items := by
  have hitems : (items.map ofText).mapM string? = some (items.map id) := by
    apply mapM_map_eq_some
    intro item _
    exact string?_ofText item
  rw [ofTexts, strings?, hitems, List.map_id]

@[simp] theorem fieldName?_ofText (fields : List String) (s : String) :
    (ofText s).fieldName? fields = some ((some s).filter fields.contains) := by
  simp [ofText, fieldName?, Text.ofBytes?_toBytes]

/-- The value is a map with these fields, in any order and with other fields anywhere among them. -/
def IsRecord (fields : List (String × Value)) (value : Value) : Prop :=
  ∃ extras entries : List (String × Value),
    (∀ extra ∈ extras, extra.1 ∉ fields.map (·.1)) ∧ entries.Perm (fields ++ extras) ∧
      value = .map (entries.map fun entry => (.ofText entry.1, entry.2))

theorem isRecord_self (fields : List (String × Value)) :
    IsRecord fields (.map (fields.map fun entry => (.ofText entry.1, entry.2))) :=
  ⟨[], fields, by simp, by simp, rfl⟩

theorem filter_eq_nil {entries : List (String × Value)} {name : String}
    (habsent : name ∉ entries.map (·.1)) : entries.filter (·.1 = name) = [] := by
  rw [List.filter_eq_nil_iff]
  intro entry hentry hsame
  apply habsent
  rw [← of_decide_eq_true hsame]
  exact List.mem_map_of_mem hentry

/-- Where no name repeats, a field is the only entry under its name. -/
theorem filter_eq_singleton {fields : List (String × Value)} (hnames : (fields.map (·.1)).Nodup)
    {field : String × Value} (hfield : field ∈ fields) :
    fields.filter (·.1 = field.1) = [field] := by
  induction fields with
  | nil => cases hfield
  | cons first rest ih =>
      rw [List.map_cons, List.nodup_cons] at hnames
      rcases List.mem_cons.mp hfield with rfl | hrest
      · simp [filter_eq_nil hnames.1]
      · have hne : first.1 ≠ field.1 := by
          intro hsame
          apply hnames.1
          rw [hsame]
          exact List.mem_map_of_mem hrest
        simp [hne, ih hnames.2 hrest]

/-- A field is the only entry of a record under its name. -/
theorem filter_eq_singleton_of_perm {fields extras entries : List (String × Value)}
    (hnames : (fields.map (·.1)).Nodup) (hextras : ∀ extra ∈ extras, extra.1 ∉ fields.map (·.1))
    (hentries : entries.Perm (fields ++ extras)) {field : String × Value}
    (hfield : field ∈ fields) : entries.filter (·.1 = field.1) = [field] := by
  have hextra : extras.filter (·.1 = field.1) = [] := by
    apply filter_eq_nil
    intro hmem
    obtain ⟨extra, hextra, hsame⟩ := List.mem_map.mp hmem
    apply hextras extra hextra
    rw [hsame]
    exact List.mem_map_of_mem hfield
  have hperm := hentries.filter (·.1 = field.1)
  rw [List.filter_append, filter_eq_singleton hnames hfield, hextra, List.append_nil] at hperm
  exact List.perm_singleton.mp hperm

/-- An entry as a reader of these fields knows it: the name of another field is forgotten. -/
def known (fields : List String) (entry : String × Value) : Option String × Value :=
  ((some entry.1).filter fields.contains, entry.2)

theorem filter_known {fields : List String} {name : String} (hname : name ∈ fields)
    (entries : List (String × Value)) :
    (entries.map (known fields)).filter (·.1 = some name) =
      (entries.filter (·.1 = name)).map (known fields) := by
  have hsame : ∀ entry ∈ entries,
      decide ((known fields entry).1 = some name) = decide (entry.1 = name) := by
    intro entry _
    by_cases hentry : entry.1 = name
    · simp [known, hentry, hname]
    · simp [known, hentry]
  calc
    (entries.map (known fields)).filter (·.1 = some name) =
        (entries.filter fun entry => (known fields entry).1 = some name).map (known fields) :=
      List.filter_map
    _ = (entries.filter (·.1 = name)).map (known fields) := by rw [List.filter_congr hsame]

/-- The fields of a record are found, whatever stands among them. -/
theorem IsRecord.record?_eq {fields : List (String × Value)} {value : Value}
    (hrecord : IsRecord fields value) (hnames : (fields.map (·.1)).Nodup) :
    value.record? (fields.map (·.1)) = some (fields.map (·.2)) := by
  obtain ⟨extras, entries, hextras, hentries, rfl⟩ := hrecord
  have hknown : (entries.map fun entry => (Value.ofText entry.1, entry.2)).mapM
      (fun entry => (entry.1.fieldName? (fields.map (·.1))).map (·, entry.2)) =
        some (entries.map (known (fields.map (·.1)))) := by
    apply mapM_map_eq_some
    intro entry _
    simp [known]
  simp only [record?]
  rw [hknown]
  apply mapM_map_eq_some
  intro field hfield
  have hname : field.1 ∈ fields.map (·.1) := List.mem_map_of_mem hfield
  have honly := filter_eq_singleton_of_perm hnames hextras hentries hfield
  simp [filter_known hname, honly, known]

end MessagePack.Value

open MessagePack

namespace Inventories

/-- The value of the lists of a family of inventories. -/
def listsValue (inventories : Inventories) : Value :=
  .map (inventories.lists.entries.map fun entry => (.ofText entry.1, .ofTexts entry.2))

/-- The value that a family of inventories is read as. -/
def toValue (inventories : Inventories) : Value :=
  .map [(.ofText "lists", inventories.listsValue)]

/-- Four bytes can hold every size in the family of inventories. -/
structure Fits (inventories : Inventories) : Prop where
  size : inventories.lists.entries.length < 2 ^ 32
  names : ∀ entry ∈ inventories.lists.entries, TextFits entry.1
  items : ∀ entry ∈ inventories.lists.entries, TextsFit entry.2

instance (inventories : Inventories) : Decidable inventories.Fits :=
  decidable_of_iff (inventories.lists.entries.length < 2 ^ 32 ∧
      (∀ entry ∈ inventories.lists.entries, TextFits entry.1) ∧
        ∀ entry ∈ inventories.lists.entries, TextsFit entry.2)
    ⟨fun hfits => ⟨hfits.1, hfits.2.1, hfits.2.2⟩,
      fun hfits => ⟨hfits.size, hfits.names, hfits.items⟩⟩

theorem form_lists {inventories : Inventories} (hfits : inventories.Fits) (depth : ℕ) :
    Form (depth + 2) inventories.listsValue
      (writeMap (inventories.lists.entries.map fun entry => (entry.1, writeTexts entry.2))) := by
  have hitems : ∀ entry ∈ inventories.lists.entries,
      Form (depth + 1) (.ofTexts entry.2) (writeTexts entry.2) := by
    intro entry hentry
    exact form_writeTexts (hfits.items entry hentry) depth
  exact form_writeMap (·.1) (fun entry => writeTexts entry.2) (fun entry => .ofTexts entry.2)
    inventories.lists.entries hfits.size hfits.names hitems

theorem form_encode {inventories : Inventories} (hfits : inventories.Fits) (depth : ℕ) :
    Form (depth + 3) inventories.toValue inventories.encode := by
  have hlists := form_lists hfits depth
  have hname : TextFits "lists" := by decide
  exact form_writeMap (·.1) (·.2.1) (·.2.2) [("lists", _, inventories.listsValue)]
    (by simp) (by simpa using hname) (by simpa using hlists)

/-- The value is a record of the lists. -/
def DescribedBy (inventories : Inventories) (value : Value) : Prop :=
  value.IsRecord [("lists", inventories.listsValue)]

theorem describedBy_toValue (inventories : Inventories) :
    inventories.DescribedBy inventories.toValue :=
  Value.isRecord_self [("lists", inventories.listsValue)]

theorem ofValue?_of_describedBy {inventories : Inventories} {value : Value}
    (hvalue : inventories.DescribedBy value) : ofValue? value = some inventories := by
  have hfields : value.record? ["lists"] = some [inventories.listsValue] :=
    hvalue.record?_eq (by simp)
  have hentries : (inventories.lists.entries.map fun entry =>
      (Value.ofText entry.1, Value.ofTexts entry.2)).mapM
        (fun entry => entry.1.string?.bind fun name =>
          entry.2.strings?.bind fun items => some (name, items)) =
      some (inventories.lists.entries.map id) := by
    apply mapM_map_eq_some
    intro entry _
    simp
  rw [List.map_id] at hentries
  simp only [ofValue?, hfields, listsValue, Option.bind_eq_bind, Option.bind_some]
  rw [hentries, Option.bind_some, NameMap.ofList_entries]

end Inventories

namespace Save

/-- The value that a save is read as. -/
def toValue (save : Save) : Value :=
  .map [(.ofText "scene", .ofText save.scene), (.ofText "inventories", save.inventories.toValue),
    (.ofText "flags", .ofTexts save.flags.toList)]

/-- Four bytes can hold every size in the save. -/
structure Fits (save : Save) : Prop where
  scene : TextFits save.scene
  inventories : save.inventories.Fits
  flags : TextsFit save.flags.toList

instance (save : Save) : Decidable save.Fits :=
  decidable_of_iff (TextFits save.scene ∧ save.inventories.Fits ∧ TextsFit save.flags.toList)
    ⟨fun hfits => ⟨hfits.1, hfits.2.1, hfits.2.2⟩,
      fun hfits => ⟨hfits.scene, hfits.inventories, hfits.flags⟩⟩

theorem form_encode {save : Save} (hfits : save.Fits) (depth : ℕ) :
    Form (depth + 4) save.toValue save.encode := by
  have hscene := form_writeText hfits.scene (depth + 3)
  have hinventories := Inventories.form_encode hfits.inventories depth
  have hflags := form_writeTexts hfits.flags (depth + 2)
  have hnames : TextFits "scene" ∧ TextFits "inventories" ∧ TextFits "flags" := by decide
  exact form_writeMap (·.1) (·.2.1) (·.2.2)
    [("scene", _, .ofText save.scene), ("inventories", _, save.inventories.toValue),
      ("flags", _, .ofTexts save.flags.toList)]
    (by simp) (by simpa using hnames) (by simpa using And.intro hscene ⟨hinventories, hflags⟩)

/-- The value is a record of scene, inventories and flags, in which the inventories are a record of
their own. -/
def DescribedBy (save : Save) (value : Value) : Prop :=
  ∃ inventories, save.inventories.DescribedBy inventories ∧
    value.IsRecord [("scene", .ofText save.scene), ("inventories", inventories),
      ("flags", .ofTexts save.flags.toList)]

theorem describedBy_toValue (save : Save) : save.DescribedBy save.toValue :=
  ⟨save.inventories.toValue, save.inventories.describedBy_toValue,
    Value.isRecord_self [("scene", .ofText save.scene), ("inventories", save.inventories.toValue),
      ("flags", .ofTexts save.flags.toList)]⟩

theorem ofValue?_of_describedBy {save : Save} {value : Value} (hvalue : save.DescribedBy value) :
    ofValue? value = some save := by
  obtain ⟨inventories, hinventories, hrecord⟩ := hvalue
  have hfields : value.record? ["scene", "inventories", "flags"] =
      some [.ofText save.scene, inventories, .ofTexts save.flags.toList] :=
    hrecord.record?_eq (by simp)
  simp [ofValue?, hfields, Inventories.ofValue?_of_describedBy hinventories,
    NameSet.ofList_toList]

/-- A save is read back however it is described, and in whichever way the value is written. -/
theorem decode?_append_of_form {save : Save} {value : Value} {bytes : List UInt8}
    (hvalue : save.DescribedBy value) (hform : Form maxDepth value bytes) (rest : List UInt8) :
    decode? (bytes ++ rest) = some save := by
  simp [decode?, hform.reads rest, ofValue?_of_describedBy hvalue]

theorem form_encode_maxDepth {save : Save} (hfits : save.Fits) :
    Form maxDepth save.toValue save.encode := by
  -- A save is four values deep, so the limit is out of reach.
  have hdepth : maxDepth = 1019 + 4 := rfl
  rw [hdepth]
  exact form_encode hfits 1019

theorem takeValue_encode_append {save : Save} (hfits : save.Fits) (rest : List UInt8) :
    takeValue maxDepth (save.encode ++ rest) = some (save.toValue, rest) :=
  (form_encode_maxDepth hfits).reads rest

theorem decode?_encode_append {save : Save} (hfits : save.Fits) (rest : List UInt8) :
    decode? (save.encode ++ rest) = some save :=
  decode?_append_of_form save.describedBy_toValue (form_encode_maxDepth hfits) rest

/-- The bytes of a save tell where they end, so no save begins with the bytes of another. -/
theorem eq_of_encode_append_eq {first second : Save} (hfirst : first.Fits)
    (hsecond : second.Fits) {rest otherRest : List UInt8}
    (hsame : first.encode ++ rest = second.encode ++ otherRest) :
    first = second ∧ rest = otherRest := by
  have hsave := decode?_encode_append hfirst rest
  have hrest := takeValue_encode_append hfirst rest
  rw [hsame, decode?_encode_append hsecond] at hsave
  rw [hsame, takeValue_encode_append hsecond] at hrest
  simp only [Option.some.injEq, Prod.mk.injEq] at hsave hrest
  exact ⟨hsave.symm, hrest.2.symm⟩

/-- A save is read back from its bytes, whatever follows them: no two saves share their bytes, and
every inventory keeps its items in order. -/
theorem decode?_encode (save : Save) (hfits : save.Fits) :
    (∀ rest, decode? (save.encode ++ rest) = some save) ∧
      (∀ other : Save, other.Fits → other.encode = save.encode → other = save) ∧
      ∀ rest name items, save.inventories.get? name = some items →
        ∃ found, decode? (save.encode ++ rest) = some found ∧
          found.inventories.get? name = some items := by
  refine ⟨decode?_encode_append hfits, ?_, ?_⟩
  · intro other hother hsame
    have hsame : other.encode ++ [] = save.encode ++ [] := by rw [hsame]
    exact (eq_of_encode_append_eq hother hfits hsame).1
  · intro rest name items hitems
    exact ⟨save, decode?_encode_append hfits rest, hitems⟩

/-- A bag with a coin listed twice, empty pockets, and two flags. -/
def bagSave : Save where
  scene := "cellar"
  inventories := ⟨.ofList [("pockets", []), ("bag", ["coin", "rope", "coin"])]⟩
  flags := .ofList ["wet", "dark"]

theorem decode?_encode_bagSave :
    bagSave.Fits ∧ (∀ rest, decode? (bagSave.encode ++ rest) = some bagSave) ∧
      (∀ other : Save, other.Fits → other.encode = bagSave.encode → other = bagSave) ∧
      ∀ rest name items, bagSave.inventories.get? name = some items →
        ∃ found, decode? (bagSave.encode ++ rest) = some found ∧
          found.inventories.get? name = some items := by
  have hfits : bagSave.Fits := by decide
  exact ⟨hfits, decode?_encode bagSave hfits⟩

/-! ## Saves that are written otherwise -/

/-- A save is read from every map of its fields, in whichever order they stand, with any other
fields among them, and in whichever way the map is written.  The bytes of the save are one of these
ways. -/
theorem decode?_of_describedBy (save : Save) :
    (∀ value bytes, save.DescribedBy value → Form maxDepth value bytes →
      ∀ rest, decode? (bytes ++ rest) = some save) ∧
    (save.Fits → save.DescribedBy save.toValue ∧ Form maxDepth save.toValue save.encode) := by
  constructor
  · intro value bytes hvalue hform rest
    exact decode?_append_of_form hvalue hform rest
  · intro hfits
    exact ⟨save.describedBy_toValue, form_encode_maxDepth hfits⟩

/-- A list of nothing and of a number. -/
def noteValue : Value := .array [.nil, .signed (-2)]

/-- The bytes of the note.  Its headers take more of them than they need. -/
def noteBytes : List UInt8 := [0xDC, 0x00, 0x02, 0xC0, 0xD1, 0xFF, 0xFE]

theorem form_note (depth : ℕ) : Form (depth + 1) noteValue noteBytes := by
  have hnil : Form depth .nil [0xC0] := by
    cases depth <;> exact .nil
  have hnumber : Form depth (.signed (-2)) [0xD1, 0xFF, 0xFE] := by
    cases depth <;> exact @FormWithin.signed _ 0xD1 2 _ (by decide) (by decide) (by decide)
  have hhead : CountFormat.array.Writes [Value.nil, .signed (-2)].length [0xDC, 0x00, 0x02] :=
    @CountFormat.Writes.wide _ _ 0xDC 2 (by decide) (by decide)
  exact FormWithin.array rfl hhead (.cons hnil (.cons hnumber .nil))

/-- The bag from the last field to the first, behind a note, and with a note on the lists. -/
def notedValue : Value :=
  .map [(.ofText "note", noteValue), (.ofText "flags", .ofTexts bagSave.flags.toList),
    (.ofText "inventories",
      .map [(.ofText "note", noteValue), (.ofText "lists", bagSave.inventories.listsValue)]),
    (.ofText "scene", .ofText bagSave.scene)]

/-- The bytes of the bag with its notes. -/
def notedBytes : List UInt8 :=
  writeMap [("note", noteBytes), ("flags", writeTexts bagSave.flags.toList),
    ("inventories", writeMap [("note", noteBytes),
      ("lists", writeMap (bagSave.inventories.lists.entries.map fun entry =>
        (entry.1, writeTexts entry.2)))]),
    ("scene", writeText bagSave.scene)]

theorem form_noted (depth : ℕ) : Form (depth + 4) notedValue notedBytes := by
  have hfits : bagSave.Fits := by decide
  have hnote := form_note (depth + 1)
  have hlists := Inventories.form_lists hfits.inventories depth
  have hnames : TextFits "note" ∧ TextFits "lists" ∧ TextFits "flags" ∧
      TextFits "inventories" ∧ TextFits "scene" := by decide
  have hinventories := form_writeMap (·.1) (·.2.1) (·.2.2)
    [("note", _, noteValue), ("lists", _, bagSave.inventories.listsValue)]
    (by simp) (by simp [hnames]) (by simpa using And.intro hnote hlists)
  have hscene := form_writeText hfits.scene (depth + 3)
  have hflags := form_writeTexts hfits.flags (depth + 2)
  exact form_writeMap (·.1) (·.2.1) (·.2.2)
    [("note", _, noteValue), ("flags", _, .ofTexts bagSave.flags.toList),
      ("inventories", _, _), ("scene", _, .ofText bagSave.scene)]
    (by simp) (by simp [hnames])
    (by simpa using And.intro (form_note (depth + 2)) ⟨hflags, hinventories, hscene⟩)

theorem decode?_of_describedBy_noted :
    bagSave.DescribedBy notedValue ∧ Form maxDepth notedValue notedBytes ∧
      decode? notedBytes = some bagSave := by
  have hvalue : bagSave.DescribedBy notedValue := by
    refine ⟨.map _, ⟨[("note", noteValue)], _, by simp, List.reverse_perm _, rfl⟩,
      [("note", noteValue)], _, by simp, List.reverse_perm _, rfl⟩
  have hform : Form maxDepth notedValue notedBytes := form_noted 1019
  have hdecode := (decode?_of_describedBy bagSave).1 _ _ hvalue hform []
  rw [List.append_nil] at hdecode
  exact ⟨hvalue, hform, hdecode⟩

end Save

end TextAdventure
