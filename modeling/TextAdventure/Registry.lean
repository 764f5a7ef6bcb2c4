import TextAdventure.Fault
import TextAdventure.Subject
import TextAdventure.Text.LowerCase
import TextAdventure.Text.Search

/-!
# The subjects at hand

A registry holds the subjects that commands can name at the moment, in the order of registration.
It finds subjects by name, by the words of a command, and lists what can be done with them.
-/

namespace TextAdventure

/-- The subjects at hand in the order of registration. -/
structure Registry where
  subjects : List Subject := []
  deriving DecidableEq, Repr

namespace Registry

/-- The registry without subjects. -/
def empty : Registry := {}

/-- The first subject of a name. -/
def get? (registry : Registry) (name : String) : Option Subject :=
  registry.subjects.find? (·.name == name)

/-- A subject of the name is registered. -/
def contains (registry : Registry) (name : String) : Bool :=
  (registry.get? name).isSome

/-- Registers a subject whose name is new. -/
def register (registry : Registry) (subject : Subject) : Except FaultKind Registry :=
  if registry.contains subject.name then .error (.duplicateSubject subject.name)
  else .ok ⟨registry.subjects ++ [subject]⟩

/-- Registers subjects one by one up to the first whose name is taken; those before it stay. -/
def registerAll (registry : Registry) : List Subject → Registry × Except Fault Unit
  | [] => (registry, .ok ())
  | subject :: rest =>
    match registry.register subject with
    | .ok next => next.registerAll rest
    | .error kind =>
      (registry, .error { kind, context := some { stack := ["subject " ++ subject.name] } })

/-- The words under which the subjects are shown, with or without the secret ones. -/
def displayNames (registry : Registry) (withSecret : Bool) : List String :=
  (registry.subjects.filter fun subject => withSecret || ! subject.secret).map (·.displayName)

/-- The verbs that some subject declares, each where it is declared first. -/
def availableVerbs (registry : Registry) : List String :=
  (registry.subjects.flatMap (·.declaredVerbs)).eraseDups

/-- Words in a row, or the word for none. -/
def enumerate (words : List String) : String :=
  if words.isEmpty then "Nothing." else ", ".intercalate words

/-- The help listing: the subjects that are shown, and the verbs. -/
def helpText (registry : Registry) : String :=
  "Known things to interact with: " ++ enumerate (registry.displayNames false) ++
    "\nValid commands: " ++ enumerate registry.availableVerbs

/-- The first action of a subject's own that a verb calls, looked up under the subject's name. -/
def customAction? (registry : Registry) (verb : String) (subject : Subject) :
    Option CustomAction :=
  (registry.get? subject.name).bind fun own => own.customActions.find? (·.verbs.contains verb)

end Registry

namespace Subject

/-- A keyword of the subject stands in the text, which is in lower case. -/
def isMentioned (subject : Subject) (text : List Char) : Bool :=
  subject.keywords.any fun keyword =>
    keyword != "" && Text.occursIn (Text.lower keyword.toList) text

end Subject

namespace Registry

/-- The subjects that a text mentions, in the order of registration. -/
def mentioned (registry : Registry) (text : String) : List Subject :=
  let small := Text.lower text.toList
  if small.isEmpty then [] else registry.subjects.filter (·.isMentioned small)

end Registry

end TextAdventure
