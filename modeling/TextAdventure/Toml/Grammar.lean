import TextAdventure.Toml.Document
import TextAdventure.Toml.Quoting
import TextAdventure.Toml.Scalar

/-!
# Reading TOML

A text is read statement by statement.  Every function takes what it reads off the front of the text
and gives back the rest.
-/

namespace TextAdventure.Toml

/-- Blank space within a line. -/
def isSpace (c : Char) : Bool :=
  c = ' ' || c = '\t'

/-- Drops blank space within a line. -/
def dropSpace (cs : List Char) : List Char :=
  cs.dropWhile isSpace

/-- Drops a comment, up to the end of its line. -/
def dropComment : List Char → List Char
  | '#' :: rest => rest.dropWhile isPlain
  | cs => cs

/-- Takes the end of a line, with a comment in front of it, or the end of the text. -/
def takeLineEnd (cs : List Char) : Option (List Char) :=
  match dropComment (dropSpace cs) with
  | [] => some []
  | '\n' :: rest => some rest
  | '\r' :: '\n' :: rest => some rest
  | _ => none

/-- Takes one thing after another, while there is one; each has to be shorter than the text. -/
def takeWhileSome {α : Type} (take : List Char → Option (α × List Char)) (cs : List Char) :
    List α × List Char :=
  match take cs with
  | none => ([], cs)
  | some (first, rest) =>
    if rest.length < cs.length then
      let (others, rest) := takeWhileSome take rest
      (first :: others, rest)
    else ([], cs)
termination_by cs.length

/-- Takes blank space, or a comment or nothing with the line ending behind it. -/
def takeGap : List Char → Option (Unit × List Char)
  | '\n' :: rest => some ((), rest)
  | '\r' :: '\n' :: rest => some ((), rest)
  | '#' :: rest => some ((), rest.dropWhile isPlain)
  | c :: rest => if isSpace c then some ((), rest) else none
  | [] => none

/-- Drops blank space, line endings and comments. -/
def dropGaps (cs : List Char) : List Char :=
  (takeWhileSome takeGap cs).2

/-- A character of a key that is not quoted. -/
def isKeyChar (c : Char) : Bool :=
  isDigit c || ('a' ≤ c && c ≤ 'z') || ('A' ≤ c && c ≤ 'Z') || c = '_' || c = '-'

/-- Takes a key without dots, and the blank space around it. -/
def takeSimpleKey (cs : List Char) : Option (String × List Char) :=
  let cs := dropSpace cs
  match takeLineText cs with
  | some (key, rest) => some (key, dropSpace rest)
  | none =>
    match cs.takeWhile isKeyChar with
    | [] => none
    | key => some (String.ofList key, dropSpace (cs.dropWhile isKeyChar))

/-- Takes a dot and a key behind it. -/
def takeDottedKey : List Char → Option (String × List Char)
  | '.' :: rest => takeSimpleKey rest
  | _ => none

/-- The greatest number of keys in a dotted key, and of lists and tables within each other. -/
def maxNesting : Nat := 79

/-- Takes a key, which may be dotted. -/
def takeKey (cs : List Char) : Option (List String × List Char) := do
  let (first, rest) ← takeSimpleKey cs
  let (others, rest) := takeWhileSome takeDottedKey rest
  if others.length < maxNesting then some (first :: others, rest) else none

/-- Takes the values of a list and the bracket behind them.  Line endings and comments may stand
between them, and a comma behind the last. -/
def takeItems (takeItem : List Char → Option (Value × List Char)) (cs : List Char) :
    Option (List Value × List Char) :=
  let first (cs : List Char) := takeItem (dropGaps cs)
  let next (cs : List Char) := match dropGaps cs with
    | ',' :: rest => first rest
    | _ => none
  let (items, rest) := match first cs with
    | none => ([], cs)
    | some (item, rest) =>
      let (items, rest) := takeWhileSome next rest
      (item :: items, rest)
  match items, dropGaps rest with
  | _, ']' :: rest => some (items, rest)
  | _ :: _, ',' :: rest =>
    match dropGaps rest with
    | ']' :: rest => some (items, rest)
    | _ => none
  | _, _ => none

/-- Takes a key, an equals sign and a value. -/
def takeAssignment (takeItem : List Char → Option (Value × List Char)) (cs : List Char) :
    Option ((List String × Value) × List Char) := do
  let (key, rest) ← takeKey cs
  let rest ← takeChar '=' rest
  let (value, rest) ← takeItem (dropSpace rest)
  some ((key, value), dropSpace rest)

/-- Takes the assignments of an inline table and the brace behind them, all within one line. -/
def takeAssignments (takeItem : List Char → Option (Value × List Char)) (cs : List Char) :
    Option (List (List String × Value) × List Char) := do
  let next (cs : List Char) := match cs with
    | ',' :: rest => takeAssignment takeItem rest
    | _ => none
  let (assignments, rest) := match takeAssignment takeItem cs with
    | none => ([], dropSpace cs)
    | some (first, rest) =>
      let (others, rest) := takeWhileSome next rest
      (first :: others, rest)
  some (assignments, ← takeChar '\x7d' rest)

/-- Takes a value in which lists and tables stand no deeper within each other than `depth`. -/
def takeValue (depth : Nat) (cs : List Char) : Option (Value × List Char) :=
  match cs, depth with
  | '"' :: _, _ | '\'' :: _, _ => (takeQuoted cs).map fun (text, rest) => (.string text, rest)
  | '[' :: rest, depth + 1 =>
    (takeItems (takeValue depth) rest).map fun (items, rest) => (.array items, rest)
  | '\x7b' :: rest, depth + 1 => do
    let (assignments, rest) ← takeAssignments (takeValue depth) rest
    some (← inlineTable? assignments, rest)
  | _, _ => do
    let (word, rest) := takeWord cs
    some (← scalar? word, rest)

/-- Takes a header: a key between brackets. -/
def takeHeader (closing : List Char) (cs : List Char) : Option (List String × List Char) := do
  let (key, rest) ← takeKey cs
  let rest ← closing.foldlM (fun rest c => takeChar c rest) rest
  some (key, rest)

/-- Takes a statement and the end of its line; the line may hold nothing but a comment. -/
def takeStatement (cs : List Char) : Option (Option Statement × List Char) :=
  match dropSpace cs with
  | '[' :: '[' :: rest => do
    let (path, rest) ← takeHeader [']', ']'] rest
    some (some (.element path), ← takeLineEnd rest)
  | '[' :: rest => do
    let (path, rest) ← takeHeader [']'] rest
    some (some (.table path), ← takeLineEnd rest)
  | cs =>
    match takeLineEnd cs with
    | some rest => some (none, rest)
    | none => do
      let ((key, value), rest) ← takeAssignment (takeValue maxNesting) cs
      some (some (.assign key value), ← takeLineEnd rest)

/-- The table that a text describes.  A byte-order mark in front of the text is passed over. -/
def read? (text : String) : Option (List (String × Value)) :=
  let cs := match text.toList with
    | '\ufeff' :: rest => rest
    | cs => cs
  match takeWhileSome takeStatement cs with
  | (statements, []) => ofStatements? (statements.filterMap id)
  | _ => none

end TextAdventure.Toml
