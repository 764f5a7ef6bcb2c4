/-!
# Actions

The first word of a command names an action.  Eight actions are built in, some under several verbs;
every other word is an action that a story may define.
-/

namespace TextAdventure

/-- What a command asks for. -/
inductive Action where
  | go
  | look
  | take
  | remember
  | drop
  | forget
  | use
  | help
  /-- An action of the story's own. -/
  | custom (verb : String)
  deriving DecidableEq, Repr

namespace Action

/-- The verbs that name built-in actions, in the order in which they are offered. -/
def verbTable : List (String × Action) :=
  [("go", go), ("look", look), ("take", take), ("remember", remember), ("drop", drop),
   ("forget", forget), ("use", use), ("help", help), ("pick", take), ("examine", look),
   ("check", look), ("see", look)]

/-- The verbs of the built-in actions. -/
def verbs : List String :=
  verbTable.map (·.1)

/-- The action that a verb names. -/
def ofVerb (verb : String) : Action :=
  (verbTable.lookup verb).getD (custom verb)

/-- The word by which an action is called wherever it is written. -/
def spelling : Action → String
  | go => "go"
  | look => "look"
  | take => "take"
  | remember => "remember"
  | drop => "drop"
  | forget => "forget"
  | use => "use"
  | help => "help"
  | custom verb => verb

/-- The action is one of the story's own. -/
def isCustom : Action → Bool
  | custom _ => true
  | _ => false

end Action

end TextAdventure
