/-!
# Quoted text in TOML

Text stands between double quotes, where a backslash begins an escape, or between single quotes,
where it does not.  Three quotes enclose a text of many lines.  A text is read character by
character; the phase tells what the characters before have begun.
-/

namespace TextAdventure.Toml

/-- How a text is quoted. -/
structure Quoting where
  /-- The quote at both ends. -/
  quote : Char
  /-- Three quotes enclose the text, which may have many lines. -/
  manyLines : Bool
  /-- A backslash begins an escape. -/
  escapes : Bool

/-- What the characters before have begun. -/
inductive Phase where
  | plain
  /-- A run of quotes, which ends the text if there are three or more. -/
  | quotes (count : Nat)
  /-- A line ending, of which the carriage return was read. -/
  | lineEnding
  /-- An escape, of which the backslash was read. -/
  | escape
  /-- An escape that gives a character by its number, in so many more digits. -/
  | digits (missing : Nat) (value : Nat)
  /-- Blank space after a backslash, up to the end of the line. -/
  | lineRest
  /-- The line ending after a backslash, of which the carriage return was read. -/
  | lineRestEnding
  /-- Blank space and line endings after a backslash at the end of a line. -/
  | gap
  /-- A line ending in such a gap, of which the carriage return was read. -/
  | gapEnding

/-- A character may stand in a text as it is. -/
def isPlain (c : Char) : Bool :=
  c = '\t' || (' ' ≤ c && c ≠ '\x7f')

/-- The character that a letter after a backslash stands for. -/
def escaped? (c : Char) : Option Char :=
  [('b', '\x08'), ('t', '\t'), ('n', '\n'), ('f', '\x0c'), ('r', '\r'), ('"', '"'),
    ('\\', '\\')].lookup c

/-- The value of a digit in base sixteen. -/
def hexDigit? (c : Char) : Option Nat :=
  if '0' ≤ c && c ≤ '9' then some (c.toNat - '0'.toNat)
  else if 'a' ≤ c && c ≤ 'f' then some (c.toNat - 'a'.toNat + 10)
  else if 'A' ≤ c && c ≤ 'F' then some (c.toNat - 'A'.toNat + 10)
  else none

/-- The character of a code point, if the code point is one of a character. -/
def charOfCode? (code : Nat) : Option Char :=
  if code.isValidChar then some (Char.ofNat code) else none

/-- What one character does: text that it adds and the phase that it begins, or the end of the text
in front of it or behind it. -/
inductive Reading where
  | more (added : List Char) (phase : Phase)
  /-- The text has ended behind the character. -/
  | closed
  /-- The text has ended in front of the character, with quotes of its own at its end. -/
  | closedBefore (added : List Char)
  | refused

namespace Quoting

/-- Reads a character that nothing was begun before. -/
def readPlain (quoting : Quoting) (c : Char) : Reading :=
  if c = quoting.quote then
    if quoting.manyLines then .more [] (.quotes 1) else .closed
  else if quoting.escapes && c = '\\' then .more [] .escape
  else if quoting.manyLines && c = '\n' then .more ['\n'] .plain
  else if quoting.manyLines && c = '\r' then .more [] .lineEnding
  else if isPlain c then .more [c] .plain
  else .refused

/-- Puts text in front of what a reading adds. -/
def prepend (added : List Char) : Reading → Reading
  | .more more phase => .more (added ++ more) phase
  | reading => reading

/-- The quotes at the end of a text that a run of quotes closes: up to two beyond the three. -/
def closingQuotes? (quoting : Quoting) (count : Nat) : Option (List Char) :=
  if 3 ≤ count && count ≤ 5 then some (List.replicate (count - 3) quoting.quote) else none

/-- Reads a character in a phase. -/
def read (quoting : Quoting) (phase : Phase) (c : Char) : Reading :=
  match phase with
  | .plain => quoting.readPlain c
  | .quotes count =>
    if c = quoting.quote then .more [] (.quotes (count + 1))
    else if count < 3 then prepend (List.replicate count quoting.quote) (quoting.readPlain c)
    else
      match quoting.closingQuotes? count with
      | some added => .closedBefore added
      | none => .refused
  | .lineEnding => if c = '\n' then .more ['\n'] .plain else .refused
  | .escape =>
    match escaped? c with
    | some e => .more [e] .plain
    | none =>
      if c = 'u' then .more [] (.digits 4 0)
      else if c = 'U' then .more [] (.digits 8 0)
      else if ! quoting.manyLines then .refused
      else if c = ' ' || c = '\t' then .more [] .lineRest
      else if c = '\n' then .more [] .gap
      else if c = '\r' then .more [] .lineRestEnding
      else .refused
  | .digits missing value =>
    match hexDigit? c with
    | none => .refused
    | some digit =>
      if 1 < missing then .more [] (.digits (missing - 1) (value * 16 + digit))
      else
        match charOfCode? (value * 16 + digit) with
        | some e => .more [e] .plain
        | none => .refused
  | .lineRest =>
    if c = ' ' || c = '\t' then .more [] .lineRest
    else if c = '\n' then .more [] .gap
    else if c = '\r' then .more [] .lineRestEnding
    else .refused
  | .lineRestEnding => if c = '\n' then .more [] .gap else .refused
  | .gap =>
    if c = ' ' || c = '\t' || c = '\n' then .more [] .gap
    else if c = '\r' then .more [] .gapEnding
    else quoting.readPlain c
  | .gapEnding => if c = '\n' then .more [] .gap else .refused

/-- Takes a text and its closing quotes off the front. -/
def takeText (quoting : Quoting) : Phase → List Char → Option (List Char × List Char)
  | .quotes count, [] => (quoting.closingQuotes? count).map (·, [])
  | _, [] => none
  | phase, c :: rest =>
    match quoting.read phase c with
    | .more added phase =>
      (quoting.takeText phase rest).map fun (text, rest) => (added ++ text, rest)
    | .closed => some ([], rest)
    | .closedBefore added => some (added, c :: rest)
    | .refused => none

end Quoting

/-- Drops one line ending in front. -/
def dropLineEnding : List Char → List Char
  | '\n' :: rest => rest
  | '\r' :: '\n' :: rest => rest
  | cs => cs

/-- Takes a quoted text of a single line off the front. -/
def takeLineText : List Char → Option (String × List Char)
  | '"' :: rest => ((Quoting.mk '"' false true).takeText .plain rest).map fun (t, rest) =>
    (String.ofList t, rest)
  | '\'' :: rest => ((Quoting.mk '\'' false false).takeText .plain rest).map fun (t, rest) =>
    (String.ofList t, rest)
  | _ => none

/-- Takes a quoted text off the front.  A line ending right behind three quotes is not part of
it. -/
def takeQuoted : List Char → Option (String × List Char)
  | '"' :: '"' :: '"' :: rest =>
    ((Quoting.mk '"' true true).takeText .plain (dropLineEnding rest)).map fun (t, rest) =>
      (String.ofList t, rest)
  | '\'' :: '\'' :: '\'' :: rest =>
    ((Quoting.mk '\'' true false).takeText .plain (dropLineEnding rest)).map fun (t, rest) =>
      (String.ofList t, rest)
  | cs => takeLineText cs

end TextAdventure.Toml
