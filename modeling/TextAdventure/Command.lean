import TextAdventure.Action
import TextAdventure.Registry
import TextAdventure.Text.Blank

/-!
# Commands

A line of input becomes a verb and a remainder, both in lower case; the verb names an action and the
remainder mentions subjects.
-/

namespace TextAdventure

/-- A line of input, split into its first word and the rest. -/
structure Line where
  verb : String
  /-- What follows the first word, without blank space at its ends. -/
  remainder : String
  deriving DecidableEq, Repr

namespace Line

/-- Splits the lower-case form of a line. -/
def read (input : String) : Line :=
  let (verb, rest) := Text.cutAtBlank (Text.trim (Text.lower input.toList))
  ⟨String.ofList verb, String.ofList (Text.trimStart rest)⟩

/-- The action that the first word names. -/
def action (line : Line) : Action :=
  Action.ofVerb line.verb

end Line

/-- An action on the subjects that a line mentions. -/
structure Command where
  action : Action
  subjects : List Subject
  deriving DecidableEq, Repr

namespace Command

/-- The command that a line of input gives, with these subjects at hand. -/
def ofLine (registry : Registry) (input : String) : Command :=
  let line := Line.read input
  ⟨line.action, registry.mentioned line.remainder⟩

/-- The names of the subjects. -/
def names (command : Command) : List String :=
  command.subjects.map (·.name)

/-- The subject of a command that has just one. -/
def sole? (command : Command) : Option Subject :=
  match command.subjects with
  | [subject] => some subject
  | _ => none

/-- The subjects of a command that has just two. -/
def pair? (command : Command) : Option (Subject × Subject) :=
  match command.subjects with
  | [first, second] => some (first, second)
  | _ => none

end Command

end TextAdventure
