/-!
# Subjects

A subject is anything in a scene that a command can name: a thing, a person, a way out.  It declares
which actions it answers, and with what text.
-/

namespace TextAdventure

/-- What taking a subject does. -/
structure Take where
  /-- The subject can be taken; else the attempt only shows a text. -/
  enabled : Bool := false
  description : String := "You take it."
  disabledDescription : String := "You can't take it."
  /-- The inventory that receives the subject, if not the usual one. -/
  inventory : Option String := none
  deriving DecidableEq, Repr

/-- What remembering a subject does. -/
structure Remember where
  description : String := "You'll never forget it."
  /-- The memory bank that receives the subject, if not the usual one. -/
  inventory : Option String := none
  trigger : Option String := none
  deriving DecidableEq, Repr

/-- What using a subject together with another one does. -/
structure Pairing where
  /-- The name of the other subject. -/
  partner : String
  description : String := "You use the item on it."
  trigger : Option String := none
  deriving DecidableEq, Repr

/-- An action that a subject defines for itself. -/
structure CustomAction where
  verbs : List String
  description : String := "You do the thing."
  trigger : Option String := none
  deriving DecidableEq, Repr

/-- Anything in a scene that a command can name. -/
structure Subject where
  /-- The name, by which the story refers to the subject. -/
  name : String
  /-- The words by which a player refers to the subject; the first is shown. -/
  keywords : List String := []
  /-- The subject is not listed. -/
  secret : Bool := false
  /-- The scene to which the subject leads. -/
  go : Option String := none
  /-- The text shown when the subject is looked at. -/
  look : Option String := none
  /-- The subject answers attempts to take it. -/
  take : Option Take := none
  remember : Option Remember := none
  /-- The subjects with which this one can be used. -/
  uses : List Pairing := []
  customActions : List CustomAction := []
  deriving DecidableEq, Repr

namespace Subject

/-- The word under which the subject is shown: its first keyword, else its name. -/
def displayName (subject : Subject) : String :=
  subject.keywords.headD subject.name

/-- The verbs of the built-in actions that the subject declares, in a fixed order. -/
def builtinVerbs (subject : Subject) : List String :=
  [("go", subject.go.isSome), ("look", subject.look.isSome), ("take", subject.take.isSome),
   ("remember", subject.remember.isSome), ("use", ! subject.uses.isEmpty)].filterMap
    fun (verb, declared) => if declared then some verb else none

/-- The verbs that the subject declares: the built-in ones, then those of its own actions. -/
def declaredVerbs (subject : Subject) : List String :=
  subject.builtinVerbs ++ subject.customActions.flatMap (·.verbs)

/-- The entry of the first subject for the use with the second. -/
def pairingWith? (subject partner : Subject) : Option Pairing :=
  subject.uses.find? (·.partner == partner.name)

/-- The entry for the use of two subjects; one of the first subject wins. -/
def pairing? (first second : Subject) : Option Pairing :=
  (first.pairingWith? second).or (second.pairingWith? first)

/-- The callbacks that the subject's actions can run. -/
def triggers (subject : Subject) : List String :=
  (subject.remember.bind (·.trigger)).toList ++ subject.uses.filterMap (·.trigger) ++
    subject.customActions.filterMap (·.trigger)

end Subject

/-- What the player of a game may choose. -/
structure Settings where
  /-- The help listing is available. -/
  help : Bool := true
  /-- A refused command says why. -/
  verbose : Bool := false
  /-- The inventory for what is taken. -/
  takeInventory : String := "inventory"
  /-- The inventory for what is remembered. -/
  memoryBank : String := "memorybank"
  deriving DecidableEq, Repr

namespace Settings

/-- The inventory that receives a subject when it is taken. -/
def inventoryOf (settings : Settings) (subject : Subject) : String :=
  (subject.take.bind (·.inventory)).getD settings.takeInventory

/-- The memory bank that receives a subject when it is remembered. -/
def bankOf (settings : Settings) (subject : Subject) : String :=
  (subject.remember.bind (·.inventory)).getD settings.memoryBank

end Settings

end TextAdventure
