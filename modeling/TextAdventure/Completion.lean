import TextAdventure.Text.Blank
import TextAdventure.Text.LowerCase
import TextAdventure.Text.Utf8

/-!
# Completing words

The word in front of the cursor is completed to every keyword that begins with its lower-case form.
Places in a line are counted in bytes of its encoding, as line editors count them.
-/

namespace TextAdventure

/-- What can stand for the word in front of the cursor. -/
structure Completion where
  /-- The byte at which the word begins. -/
  start : Nat
  /-- The keywords that begin with the word. -/
  candidates : List String
  deriving DecidableEq, Repr

namespace Completion

/-- The characters in front of a byte, if the byte begins a character or ends the text. -/
def takeBytes? : Nat → List Char → Option (List Char)
  | 0, _ => some []
  | _ + 1, [] => none
  | n + 1, c :: rest =>
    if c.utf8Size ≤ n + 1 then (takeBytes? (n + 1 - c.utf8Size) rest).map (c :: ·) else none

/-- The word at the end of a text: what follows its last blank.  The byte after the first byte of
that blank is where the word must begin, so a blank of several bytes leaves no place for it. -/
def lastWord? (before : List Char) : Option (Nat × List Char) :=
  let word := (before.reverse.takeWhile (! Text.isBlank ·)).reverse
  match before.reverse.dropWhile (! Text.isBlank ·) with
  | [] => some (0, word)
  | blank :: _ =>
    if blank.utf8Size = 1 then some (Text.byteCount before - Text.byteCount word, word) else none

/-- Completes the word that ends at byte `cursor` of the line, if a word can be cut out there. -/
def of? (keywords : List String) (line : String) (cursor : Nat) : Option Completion := do
  let before ← takeBytes? cursor line.toList
  let (start, word) ← lastWord? before
  let beginning := Text.lower word
  some ⟨start, keywords.filter fun keyword => beginning.isPrefixOf keyword.toList⟩

end Completion

end TextAdventure
