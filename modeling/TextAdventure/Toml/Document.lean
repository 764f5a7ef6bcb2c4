import TextAdventure.Toml.Value

/-!
# Assembling a TOML document

A document is a list of statements: headers open tables, and assignments put values under keys of
the table that was opened last.  A table is declared once; one that was only passed through may be
declared later, and one that dotted keys made may only be extended by dotted keys.
-/

namespace TextAdventure.Toml

/-- How a table came into being. -/
inductive Origin where
  /-- A header declares the table. -/
  | declared
  /-- Headers of tables inside it pass through the table. -/
  | passed
  /-- Dotted keys made the table. -/
  | dotted
  deriving DecidableEq

/-- A part of a document that is being assembled. -/
inductive Item where
  | value (value : Value)
  | table (origin : Origin) (entries : List (String × Item))
  /-- A list of tables, each opened by a header. -/
  | tables (elements : List (List (String × Item)))

/-- The entries of a table that is being assembled. -/
abbrev Entries := List (String × Item)

/-- A statement of a document. -/
inductive Statement where
  | table (path : List String)
  /-- Opens a new table at the end of a list of tables. -/
  | element (path : List String)
  /-- Puts a value under a key, which may be dotted. -/
  | assign (path : List String) (value : Value)

namespace Entries

/-- Puts an item in the place of the one under its key. -/
def replace (entries : Entries) (key : String) (item : Item) : Entries :=
  entries.map fun entry => if entry.1 = key then (key, item) else entry

/-- Changes the table at the end of a path, passing through tables that need not exist yet and
through the last table of every list of tables. -/
def modifyAt (change : Entries → Option Entries) : List String → Entries → Option Entries
  | [], entries => change entries
  | key :: path, entries =>
    match entries.lookup key with
    | none => (modifyAt change path []).map fun inner => entries ++ [(key, .table .passed inner)]
    | some (.table origin inner) =>
      (modifyAt change path inner).map fun inner => entries.replace key (.table origin inner)
    | some (.tables elements) =>
      (modifyAt change path (elements.getLastD [])).map fun inner =>
        entries.replace key (.tables (elements.dropLast ++ [inner]))
    | some (.value _) => none

/-- Puts a value under a dotted key.  The tables on the way are made by dotted keys; the way may
lead on through tables that were only passed, but may not end there. -/
def assign (value : Value) : List String → Entries → Option Entries
  | [], _ => none
  | [key], entries =>
    if (entries.lookup key).isSome then none else some (entries ++ [(key, .value value)])
  | key :: path, entries =>
    match entries.lookup key with
    | none => (assign value path []).map fun inner => entries ++ [(key, .table .dotted inner)]
    | some (.table .dotted inner) =>
      (assign value path inner).map fun inner => entries.replace key (.table .dotted inner)
    | some (.table .passed inner) =>
      if path.length = 1 then none
      else (assign value path inner).map fun inner => entries.replace key (.table .passed inner)
    | some (.tables elements) =>
      if path.length = 1 then none
      else (assign value path (elements.getLastD [])).map fun inner =>
        entries.replace key (.tables (elements.dropLast ++ [inner]))
    | some (.table .declared _) | some (.value _) => none

/-- Declares a table under a key. -/
def declare (key : String) (entries : Entries) : Option Entries :=
  match entries.lookup key with
  | none => some (entries ++ [(key, .table .declared [])])
  | some (.table .passed inner) => some (entries.replace key (.table .declared inner))
  | _ => none

/-- Opens a new table at the end of the list of tables under a key. -/
def extend (key : String) (entries : Entries) : Option Entries :=
  match entries.lookup key with
  | none => some (entries ++ [(key, .tables [[]])])
  | some (.tables elements) => some (entries.replace key (.tables (elements ++ [[]])))
  | _ => none

end Entries

mutual

/-- The value of an assembled part. -/
def Item.toValue : Item → Value
  | .value value => value
  | .table _ entries => .table (entryValues entries)
  | .tables elements => .array (tableValues elements)

/-- The values of assembled entries. -/
def entryValues : List (String × Item) → List (String × Value)
  | [] => []
  | (key, item) :: rest => (key, item.toValue) :: entryValues rest

/-- The values of assembled tables. -/
def tableValues : List (List (String × Item)) → List Value
  | [] => []
  | entries :: rest => .table (entryValues entries) :: tableValues rest

end

/-- A document that is being assembled: its entries, and the path of the open table. -/
structure Draft where
  /-- The entries of the whole document. -/
  entries : Entries := []
  /-- The path of the table that was opened last. -/
  position : List String := []

namespace Draft

/-- Adds a statement to a document. -/
def add (draft : Draft) : Statement → Option Draft
  | .table path => do
    let key ← path.getLast?
    some ⟨← draft.entries.modifyAt (Entries.declare key) path.dropLast, path⟩
  | .element path => do
    let key ← path.getLast?
    some ⟨← draft.entries.modifyAt (Entries.extend key) path.dropLast, path⟩
  | .assign path value => do
    some { draft with
      entries := ← draft.entries.modifyAt (Entries.assign value path) draft.position }

end Draft

/-- The table that a list of statements describes. -/
def ofStatements? (statements : List Statement) : Option (List (String × Value)) := do
  let draft ← statements.foldlM Draft.add {}
  some (entryValues draft.entries)

/-- The inline table of these assignments. -/
def inlineTable? (assignments : List (List String × Value)) : Option Value := do
  let entries ← assignments.foldlM (fun entries (path, value) => Entries.assign value path entries)
    ([] : Entries)
  some (.table (entryValues entries))

end TextAdventure.Toml
