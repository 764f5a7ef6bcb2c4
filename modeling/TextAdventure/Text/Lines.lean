/-!
# Lines

A text is read line by line.  A line ends with a line feed, or with a carriage return and a line
feed; what follows the last line feed is a line of its own unless it is empty.
-/

namespace TextAdventure.Text

/-- The pieces of a text between the places where a character stands; there is always one more of
them than of these places. -/
def splitAt (mark : Char) : List Char → List (List Char)
  | [] => [[]]
  | c :: rest =>
    if c = mark then [] :: splitAt mark rest
    else
      match splitAt mark rest with
      | [] => [[c]]
      | piece :: pieces => (c :: piece) :: pieces

/-- Drops the carriage return in front of a line feed. -/
def stripReturn (line : List Char) : List Char :=
  if line.getLast? = some '\r' then line.dropLast else line

/-- The lines of a text, without their endings. -/
def lines (s : String) : List String :=
  let pieces := splitAt '\n' s.toList
  let last := pieces.getLastD []
  (pieces.dropLast.map stripReturn ++ if last.isEmpty then [] else [last]).map String.ofList

end TextAdventure.Text
