/-!
# MessagePack values

A tree of values with the distinctions that its bytes make: texts and byte strings are kept apart,
and so are unsigned and signed numbers.  Reading takes one value off the front of a byte sequence;
no more than a fixed number of containers may be nested.
-/

namespace TextAdventure.MessagePack

/-- A value as its bytes describe it.  A text need not be the encoding of a string. -/
inductive Value where
  | nil
  | bool (value : Bool)
  /-- A number written as an unsigned one. -/
  | unsigned (value : Nat)
  /-- A number written as a signed one. -/
  | signed (value : Int)
  /-- A floating-point number, four or eight bytes long. -/
  | float (bytes : List UInt8)
  | text (bytes : List UInt8)
  | binary (bytes : List UInt8)
  | array (items : List Value)
  /-- A list of keys with their values. -/
  | map (entries : List (Value × Value))
  /-- Bytes of a type that an application defines. -/
  | extension (tag : UInt8) (bytes : List UInt8)

/-- What the first bytes of a value announce. -/
inductive Header where
  /-- The whole value. -/
  | whole (value : Value)
  /-- A floating-point number of so many bytes. -/
  | float (size : Nat)
  /-- A text of so many bytes. -/
  | text (size : Nat)
  /-- A byte string of so many bytes. -/
  | binary (size : Nat)
  /-- A list of so many values. -/
  | array (size : Nat)
  /-- So many keys with their values. -/
  | map (size : Nat)
  /-- A type, and so many bytes. -/
  | extension (size : Nat)

/-- The number whose digits in base 256 are these bytes, the highest first. -/
def bigEndian (bytes : List UInt8) : Nat :=
  bytes.foldl (fun n b => n * 256 + b.toNat) 0

/-- Takes exactly `n` bytes off the front. -/
def takeChunk (n : Nat) (bytes : List UInt8) : Option (List UInt8 × List UInt8) :=
  if n ≤ bytes.length then some (bytes.take n, bytes.drop n) else none

/-- Takes a number of `width` bytes off the front. -/
def takeNumber (width : Nat) (bytes : List UInt8) : Option (Nat × List UInt8) :=
  (takeChunk width bytes).map fun (chunk, rest) => (bigEndian chunk, rest)

/-- The number that `width` bytes stand for when the highest bit is a sign. -/
def asSigned (width n : Nat) : Int :=
  let bound := Nat.pow 256 width
  if n < bound / 2 then n else (n : Int) - bound

/-- Takes the first bytes of a value off the front.  One first byte is not in use. -/
def takeHeader : List UInt8 → Option (Header × List UInt8)
  | [] => none
  | first :: rest =>
    let n := first.toNat
    let counted (width : Nat) (header : Nat → Header) : Option (Header × List UInt8) :=
      (takeNumber width rest).map fun (size, rest) => (header size, rest)
    if n < 0x80 then some (.whole (.unsigned n), rest)
    else if n < 0x90 then some (.map (n - 0x80), rest)
    else if n < 0xA0 then some (.array (n - 0x90), rest)
    else if n < 0xC0 then some (.text (n - 0xA0), rest)
    else if 0xE0 ≤ n then some (.whole (.signed (asSigned 1 n)), rest)
    else
      match n with
      | 0xC0 => some (.whole .nil, rest)
      | 0xC2 => some (.whole (.bool false), rest)
      | 0xC3 => some (.whole (.bool true), rest)
      | 0xC4 => counted 1 .binary
      | 0xC5 => counted 2 .binary
      | 0xC6 => counted 4 .binary
      | 0xC7 => counted 1 .extension
      | 0xC8 => counted 2 .extension
      | 0xC9 => counted 4 .extension
      | 0xCA => some (.float 4, rest)
      | 0xCB => some (.float 8, rest)
      | 0xCC => counted 1 fun m => .whole (.unsigned m)
      | 0xCD => counted 2 fun m => .whole (.unsigned m)
      | 0xCE => counted 4 fun m => .whole (.unsigned m)
      | 0xCF => counted 8 fun m => .whole (.unsigned m)
      | 0xD0 => counted 1 fun m => .whole (.signed (asSigned 1 m))
      | 0xD1 => counted 2 fun m => .whole (.signed (asSigned 2 m))
      | 0xD2 => counted 4 fun m => .whole (.signed (asSigned 4 m))
      | 0xD3 => counted 8 fun m => .whole (.signed (asSigned 8 m))
      | 0xD4 => some (.extension 1, rest)
      | 0xD5 => some (.extension 2, rest)
      | 0xD6 => some (.extension 4, rest)
      | 0xD7 => some (.extension 8, rest)
      | 0xD8 => some (.extension 16, rest)
      | 0xD9 => counted 1 .text
      | 0xDA => counted 2 .text
      | 0xDB => counted 4 .text
      | 0xDC => counted 2 .array
      | 0xDD => counted 4 .array
      | 0xDE => counted 2 .map
      | 0xDF => counted 4 .map
      | _ => none

/-- Takes `n` things off the front, one after another. -/
def takeMany {α : Type} (take : List UInt8 → Option (α × List UInt8)) :
    Nat → List UInt8 → Option (List α × List UInt8)
  | 0, bytes => some ([], bytes)
  | n + 1, bytes => do
    let (first, rest) ← take bytes
    let (others, rest) ← takeMany take n rest
    some (first :: others, rest)

/-- Takes two things off the front. -/
def takePair {α : Type} (take : List UInt8 → Option (α × List UInt8)) (bytes : List UInt8) :
    Option ((α × α) × List UInt8) := do
  let (first, rest) ← take bytes
  let (second, rest) ← take rest
  some ((first, second), rest)

/-- Takes what a header announces off the front.  The values in a container are taken by `nested`,
if one more container may be nested. -/
def takeBody (nested : Option (List UInt8 → Option (Value × List UInt8))) :
    Header → List UInt8 → Option (Value × List UInt8)
  | .whole value, rest => some (value, rest)
  | .float size, rest => (takeChunk size rest).map fun (chunk, rest) => (.float chunk, rest)
  | .text size, rest => (takeChunk size rest).map fun (chunk, rest) => (.text chunk, rest)
  | .binary size, rest => (takeChunk size rest).map fun (chunk, rest) => (.binary chunk, rest)
  | .array size, rest => do
    let take ← nested
    (takeMany take size rest).map fun (items, rest) => (.array items, rest)
  | .map size, rest => do
    let take ← nested
    (takeMany (takePair take) size rest).map fun (entries, rest) => (.map entries, rest)
  | .extension size, rest => do
    let _ ← nested
    match takeChunk (size + 1) rest with
    | some (tag :: chunk, rest) => some (.extension tag chunk, rest)
    | _ => none

/-- Takes one value off the front, in which no more than so many containers are nested. -/
def takeValue : Nat → List UInt8 → Option (Value × List UInt8)
  | 0, bytes => do
    let (header, rest) ← takeHeader bytes
    takeBody none header rest
  | depth + 1, bytes => do
    let (header, rest) ← takeHeader bytes
    takeBody (some (takeValue depth)) header rest

/-- The number of containers that may be nested. -/
def maxDepth : Nat := 1023

end TextAdventure.MessagePack
