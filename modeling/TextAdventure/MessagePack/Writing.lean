import TextAdventure.Text.Utf8

/-!
# Writing MessagePack

Texts, lists and maps are written with the shortest header that holds their size.
-/

namespace TextAdventure.MessagePack

/-- The lowest `width` digits of a number in base 256, the highest first. -/
def toBigEndian : Nat → Nat → List UInt8
  | 0, _ => []
  | width + 1, n => toBigEndian width (n / 256) ++ [UInt8.ofNat n]

/-- The header of a text of so many bytes. -/
def textHeader (size : Nat) : List UInt8 :=
  if size < 32 then [UInt8.ofNat (0xA0 + size)]
  else if size < 0x100 then 0xD9 :: toBigEndian 1 size
  else if size < 0x10000 then 0xDA :: toBigEndian 2 size
  else 0xDB :: toBigEndian 4 size

/-- The header of a list of so many values. -/
def arrayHeader (size : Nat) : List UInt8 :=
  if size < 16 then [UInt8.ofNat (0x90 + size)]
  else if size < 0x10000 then 0xDC :: toBigEndian 2 size
  else 0xDD :: toBigEndian 4 size

/-- The header of a map of so many keys. -/
def mapHeader (size : Nat) : List UInt8 :=
  if size < 16 then [UInt8.ofNat (0x80 + size)]
  else if size < 0x10000 then 0xDE :: toBigEndian 2 size
  else 0xDF :: toBigEndian 4 size

/-- The bytes of a text. -/
def writeText (s : String) : List UInt8 :=
  let bytes := Text.toBytes s
  textHeader bytes.length ++ bytes

/-- The bytes of a list of texts. -/
def writeTexts (items : List String) : List UInt8 :=
  arrayHeader items.length ++ items.flatMap writeText

/-- The bytes of a map from texts to values that are written already. -/
def writeMap (entries : List (String × List UInt8)) : List UInt8 :=
  mapHeader entries.length ++ entries.flatMap fun (key, value) => writeText key ++ value

end TextAdventure.MessagePack
