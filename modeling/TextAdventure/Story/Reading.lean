import TextAdventure.Story.Check
import TextAdventure.Toml.Grammar

/-!
# Reading a story

A story is a TOML document.  What a story does not know is passed over, and what may be left out has
a default.  A record is a table, or a list of its fields in order; a date stands for a record in
which every field is left out.
-/

namespace TextAdventure

namespace Toml.Value

/-- How a record is looked up by the names of its fields, if a value is one.  A list may go on
behind the last field only where `mayGoOn` says so. -/
def fields? (names : List String) (mayGoOn : Bool) : Value → Option (String → Option Value)
  | table entries => some fun name => entries.lookup name
  | datetime _ => some fun _ => none
  | array items =>
    if mayGoOn || items.length ≤ names.length then some fun name => (names.zip items).lookup name
    else none
  | _ => none

end Toml.Value

namespace Story

open Toml

/-- A field that has to be there. -/
def need {α : Type} (read : Value → Option α) (field : Option Value) : Option α :=
  field.bind read

/-- A field that may be left out. -/
def orElse {α : Type} (read : Value → Option α) (default : α) : Option Value → Option α
  | none => some default
  | some value => read value

/-- A field that may be left out and has no default. -/
def optional {α : Type} (read : Value → Option α) : Option Value → Option (Option α)
  | none => some none
  | some value => (read value).map some

/-- A list of things of one kind. -/
def listOf {α : Type} (read : Value → Option α) (value : Value) : Option (List α) :=
  value.items?.bind (·.mapM read)

/-- Reads what taking a subject does. -/
def readTake (value : Value) : Option Take := do
  let field ← value.fields? ["enabled", "description", "disabled_description", "inventory"] false
  let default : Take := {}
  some {
    enabled := ← orElse Value.boolean? default.enabled (field "enabled")
    description := ← orElse Value.string? default.description (field "description")
    disabledDescription :=
      ← orElse Value.string? default.disabledDescription (field "disabled_description")
    inventory := ← optional Value.string? (field "inventory") }

/-- Reads what remembering a subject does. -/
def readRemember (value : Value) : Option Remember := do
  let field ← value.fields? ["description", "inventory", "on_trigger"] false
  let default : Remember := {}
  some {
    description := ← orElse Value.string? default.description (field "description")
    inventory := ← optional Value.string? (field "inventory")
    trigger := ← optional Value.string? (field "on_trigger") }

/-- Reads with what a subject can be used. -/
def readPairing (value : Value) : Option Pairing := do
  let field ← value.fields? ["partner", "description", "on_trigger"] false
  let plain : Pairing := { partner := ← need Value.string? (field "partner") }
  some { plain with
    description := ← orElse Value.string? plain.description (field "description")
    trigger := ← optional Value.string? (field "on_trigger") }

/-- Reads an action of a subject's own. -/
def readCustomAction (value : Value) : Option CustomAction := do
  let field ← value.fields? ["keywords", "description", "on_trigger"] false
  let plain : CustomAction := { verbs := ← need (listOf Value.string?) (field "keywords") }
  some { plain with
    description := ← orElse Value.string? plain.description (field "description")
    trigger := ← optional Value.string? (field "on_trigger") }

/-- Reads a subject in a scene, which is always a table. -/
def readPlacement (value : Value) : Option Placement := do
  let entries ← value.entries?
  let field (name : String) := entries.lookup name
  some {
    subject := {
      name := ← need Value.string? (field "name")
      keywords := ← orElse (listOf Value.string?) [] (field "keywords")
      secret := ← orElse Value.boolean? false (field "secret")
      go := ← optional Value.string? (field "go")
      look := ← optional Value.string? (field "look")
      take := ← optional readTake (field "take")
      remember := ← optional readRemember (field "remember")
      uses := ← orElse (listOf readPairing) [] (field "uses")
      customActions := ← orElse (listOf readCustomAction) [] (field "custom_actions") }
    requiresFlag := ← optional Value.string? (field "requires_flag")
    unlessFlag := ← optional Value.string? (field "unless_flag")
    hiddenWhenHeld := ← orElse Value.boolean? false (field "hidden_when_held") }

/-- Reads a scene. -/
def readScene (value : Value) : Option Scene := do
  let field ← value.fields? ["id", "text", "subjects"] true
  some {
    id := ← need Value.string? (field "id")
    text := ← orElse Value.string? "" (field "text")
    placements := ← orElse (listOf readPlacement) [] (field "subjects") }

/-- Reads an inventory and an item, as a record without other fields. -/
def readItem (value : Value) : Option (String × String) := do
  let field ← value.fields? ["inventory", "item"] true
  let inventory ← need Value.string? (field "inventory")
  let item ← need Value.string? (field "item")
  match value with
  | .table entries => if entries.length = 2 then some (inventory, item) else none
  | _ => some (inventory, item)

/-- Reads one thing that a callback does, a table with one key. -/
def readEffect (value : Value) : Option Effect :=
  match value with
  | .table [("say", value)] => value.string?.map .say
  | .table [("set_flag", value)] => value.string?.map .setFlag
  | .table [("clear_flag", value)] => value.string?.map .clearFlag
  | .table [("goto", value)] => value.string?.map .goto
  | .table [("give", value)] => (readItem value).map fun (inventory, item) => .give inventory item
  | .table [("discard", value)] =>
    (readItem value).map fun (inventory, item) => .discard inventory item
  | _ => none

/-- Reads what a callback does. -/
def readCallback (value : Value) : Option (List Effect) := do
  let field ← value.fields? ["effects"] true
  orElse (listOf readEffect) [] (field "effects")

/-- Reads the callbacks of a story. -/
def readCallbacks (value : Value) : Option (NameMap (List Effect)) := do
  let callbacks ← (← value.entries?).mapM fun (id, value) => (readCallback value).map (id, ·)
  some (.ofList callbacks)

/-- Reads a story from the entries of a document. -/
def ofEntries? (entries : List (String × Value)) : Option Story := do
  let field (name : String) := entries.lookup name
  some {
    title := ← orElse Value.string? "" (field "title")
    start := ← need Value.string? (field "start")
    scenes := ← orElse (listOf readScene) [] (field "scenes")
    callbacks := ← orElse readCallbacks .empty (field "callbacks") }

/-- Reads a story from a text and checks it. -/
def ofText (text : String) : Except Fault Story :=
  match (Toml.read? text).bind ofEntries? with
  | none => .error { kind := .malformedStory }
  | some story => story.check.map fun _ => story

end Story

end TextAdventure
