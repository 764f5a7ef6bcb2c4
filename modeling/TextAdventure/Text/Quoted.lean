import TextAdventure.Text.HiddenTable
import TextAdventure.Text.MarkTable

/-!
# Quoted text

A text in double quotes, as a listing shows it: quotes and backslashes are escaped, the common
controls have short names, and every other character that could not be seen, or that would be drawn
onto the one before it, is given by its number.
-/

namespace TextAdventure.Text

/-- The digits of a number in base sixteen, in small letters. -/
def hexDigits (n : Nat) : List Char :=
  Nat.toDigits 16 n

/-- A character that is given by its number. -/
def isHidden (c : Char) : Bool :=
  CodeRange.holds hiddenRanges c || CodeRange.holds markRanges c

/-- What stands for a character between double quotes. -/
def escapeChar (c : Char) : List Char :=
  match c with
  | '\x00' => ['\\', '0']
  | '\t' => ['\\', 't']
  | '\r' => ['\\', 'r']
  | '\n' => ['\\', 'n']
  | '"' => ['\\', '"']
  | '\\' => ['\\', '\\']
  | c =>
    if isHidden c then
      ['\\', 'u', '\x7b'] ++ hexDigits c.toNat ++ ['\x7d']
    else [c]

/-- A string in double quotes. -/
def quoted (s : String) : String :=
  String.ofList ('"' :: (s.toList.flatMap escapeChar ++ ['"']))

/-- A list of strings in square brackets, each quoted. -/
def quotedList (items : List String) : String :=
  "[" ++ ", ".intercalate (items.map quoted) ++ "]"

end TextAdventure.Text
