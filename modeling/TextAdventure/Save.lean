import TextAdventure.Inventory
import TextAdventure.MessagePack.Value
import TextAdventure.MessagePack.Writing

/-!
# Saved progress

The progress of a player, and its form as bytes.  It is written as a map of its three fields; it is
read from a map with these fields in any order among others, or from a list of the three values.
-/

namespace TextAdventure

/-- The progress of a player. -/
structure Save where
  /-- The id of the current scene. -/
  scene : String
  inventories : Inventories
  flags : NameSet
  deriving DecidableEq

namespace MessagePack.Value

/-- The string of a text or a byte string. -/
def string? : Value → Option String
  | text bytes | binary bytes => Text.ofBytes? bytes
  | _ => none

/-- The strings of a list.  A byte string is a list of numbers, so there are only strings in it when
it is empty. -/
def strings? : Value → Option (List String)
  | array items => items.mapM string?
  | binary [] => some []
  | _ => none

/-- The field that a key of a map stands for, by name or by position; `none` within stands for a
field that is not known.  Only texts, byte strings and unsigned numbers can be keys. -/
def fieldName? (fields : List String) : Value → Option (Option String)
  | text bytes | binary bytes =>
    some ((Text.ofBytes? bytes).filter fields.contains)
  | unsigned position => some fields[position]?
  | _ => none

/-- The values of the fields of a record, in the order of the fields.  In a map every field stands
exactly once, and other fields are passed over; a list has the fields and nothing else. -/
def record? (fields : List String) : Value → Option (List Value)
  | array items => if items.length = fields.length then some items else none
  | map entries => do
    let named ← entries.mapM fun (key, value) => (key.fieldName? fields).map (·, value)
    fields.mapM fun field =>
      match named.filter (·.1 = some field) with
      | [(_, value)] => some value
      | _ => none
  | _ => none

end MessagePack.Value

namespace Inventories

open MessagePack

/-- The bytes of a family of inventories. -/
def encode (inventories : Inventories) : List UInt8 :=
  writeMap [("lists",
    writeMap (inventories.lists.entries.map fun (name, items) => (name, writeTexts items)))]

/-- The family of inventories that a value describes; of two under one name the later stays. -/
def ofValue? (value : Value) : Option Inventories := do
  let [.map entries] ← value.record? ["lists"] | none
  let lists ← entries.mapM fun (name, items) => do
    some (← name.string?, ← items.strings?)
  some ⟨NameMap.ofList lists⟩

end Inventories

namespace Save

open MessagePack

/-- The bytes of a save. -/
def encode (save : Save) : List UInt8 :=
  writeMap [("scene", writeText save.scene), ("inventories", save.inventories.encode),
    ("flags", writeTexts save.flags.toList)]

/-- The save that a value describes. -/
def ofValue? (value : Value) : Option Save := do
  let [scene, inventories, flags] ← value.record? ["scene", "inventories", "flags"] | none
  some {
    scene := ← scene.string?
    inventories := ← Inventories.ofValue? inventories
    flags := NameSet.ofList (← flags.strings?) }

/-- The save at the front of a byte sequence; what follows it does not matter. -/
def decode? (bytes : List UInt8) : Option Save := do
  let (value, _) ← takeValue maxDepth bytes
  ofValue? value

end Save

end TextAdventure
