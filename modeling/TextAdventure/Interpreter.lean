import TextAdventure.Command
import TextAdventure.Inventory
import TextAdventure.Outcome

/-!
# Interpreting commands

A command is judged first: the judgement is a refusal or the deed that the command stands for.  The
deed is then carried out on the inventories.  Only a subject that is held already can make a deed
fail that was judged possible.
-/

namespace TextAdventure

/-- What a command that is allowed does. -/
inductive Deed where
  | go
  | look
  | take
  | remember
  | drop
  | forget
  | use
  | help
  | custom
  deriving DecidableEq, Repr

/-- The subjects at hand, and the settings of the game. -/
structure Interpreter where
  registry : Registry := {}
  settings : Settings := {}
  deriving DecidableEq, Repr

namespace Subject

/-- The deed that an action is on a subject that declares it. -/
def declaredDeed? (subject : Subject) : Action → Option Deed
  | .go => subject.go.map fun _ => .go
  | .look => subject.look.map fun _ => .look
  | .take => subject.take.map fun _ => .take
  | .remember => subject.remember.map fun _ => .remember
  | _ => none

end Subject

namespace Command

/-- The command could not be carried out as judged. -/
def unresolved (command : Command) : Refusal :=
  .unresolved command.action.spelling (", ".intercalate command.names)

end Command

namespace Interpreter

/-- Judges a command with one subject: what the subject declares comes first, then an action of its
own, then what the inventories allow. -/
def judgeSole (interpreter : Interpreter) (inventories : Inventories) (action : Action)
    (subject : Subject) : Except Refusal Deed :=
  match subject.declaredDeed? action with
  | some deed => .ok deed
  | none =>
    if (interpreter.registry.customAction? action.spelling subject).isSome then .ok .custom
    else
      match action with
      | .drop =>
        if inventories.holds (interpreter.settings.inventoryOf subject) subject.name then .ok .drop
        else .error (.notInInventory subject.name)
      | .forget =>
        if inventories.holds (interpreter.settings.bankOf subject) subject.name then .ok .forget
        else .error (.notInMemoryBank subject.name)
      | .use => .error .useNeedsTwoSubjects
      | action => .error (.undefinedAction action.spelling subject.name)

/-- Judges a command: the deed that it stands for, or why it is refused. -/
def judge (interpreter : Interpreter) (inventories : Inventories) (command : Command) :
    Except Refusal Deed :=
  match command.action, command.subjects with
  | action, [subject] => interpreter.judgeSole inventories action subject
  | .use, [first, second] =>
    if (first.pairing? second).isSome then .ok .use
    else .error (.noUsePairing first.name second.name)
  | .help, [] => if interpreter.settings.help then .ok .help else .error .noValidSubject
  | _, _ => .error .noValidSubject

/-- Takes a subject: one that cannot be taken only shows a text, and one that is held is refused. -/
def performTake (interpreter : Interpreter) (inventories : Inventories) (outcome : Outcome)
    (subject : Subject) (take : Take) : Except Refusal (Outcome × Inventories) :=
  let inventory := interpreter.settings.inventoryOf subject
  if ! take.enabled then
    .ok ({ outcome with message := some take.disabledDescription }, inventories)
  else if inventories.holds inventory subject.name then
    .error (.alreadyHeld subject.name inventory)
  else
    .ok ({ outcome with
            message := some take.description
            scene := some .rerender
            change := some (.added inventory subject.name) },
         inventories.add inventory subject.name)

/-- Carries out a deed on one subject.  There is none if the subject does not declare it. -/
def performSole (interpreter : Interpreter) (inventories : Inventories) (deed : Deed)
    (command : Command) (subject : Subject) : Except Refusal (Outcome × Inventories) :=
  let outcome : Outcome := { action := command.action, subjects := command.names }
  let settings := interpreter.settings
  let missing := .error (.unresolved command.action.spelling subject.name)
  match deed with
  | .go =>
    match subject.go with
    | some target => .ok ({ outcome with scene := some (.transition target) }, inventories)
    | none => missing
  | .look =>
    match subject.look with
    | some text => .ok ({ outcome with message := some text }, inventories)
    | none => missing
  | .take =>
    match subject.take with
    | some take => interpreter.performTake inventories outcome subject take
    | none => missing
  | .remember =>
    match subject.remember with
    | some remember =>
      .ok ({ outcome with
              message := some remember.description
              callback := remember.trigger
              change := some (.added (settings.bankOf subject) subject.name) },
           inventories.add (settings.bankOf subject) subject.name)
    | none => missing
  | .drop =>
    .ok ({ outcome with
            message := some "You drop it."
            scene := some .rerender
            change := some (.removed (settings.inventoryOf subject) subject.name) },
         inventories.remove (settings.inventoryOf subject) subject.name)
  | .forget =>
    .ok ({ outcome with
            message := some "It's forgotten."
            change := some (.removed (settings.bankOf subject) subject.name) },
         inventories.remove (settings.bankOf subject) subject.name)
  | .custom =>
    match interpreter.registry.customAction? command.action.spelling subject with
    | some custom =>
      .ok ({ outcome with message := some custom.description, callback := custom.trigger },
           inventories)
    | none => missing
  | .use | .help => .error command.unresolved

/-- Carries out a deed.  The outcome comes with the inventories after it. -/
def perform (interpreter : Interpreter) (inventories : Inventories) (deed : Deed)
    (command : Command) : Except Refusal (Outcome × Inventories) :=
  let outcome : Outcome := { action := command.action, subjects := command.names }
  match deed with
  | .help => .ok ({ outcome with message := some interpreter.registry.helpText }, inventories)
  | .use =>
    match command.pair? with
    | none => .error command.unresolved
    | some (first, second) =>
      match first.pairing? second with
      | none => .error (.noUsePairing first.name second.name)
      | some entry =>
        .ok ({ outcome with message := some entry.description, callback := entry.trigger },
             inventories)
  | deed =>
    match command.sole? with
    | none => .error command.unresolved
    | some subject => interpreter.performSole inventories deed command subject

/-- The outcome of a refused command, which tells the reason if the settings ask for it. -/
def refuse (interpreter : Interpreter) (command : Command) (refusal : Refusal) : Outcome :=
  { action := command.action
    subjects := command.names
    verdict := .refused refusal
    message :=
      if interpreter.settings.verbose then some ("ERROR: " ++ refusal.message) else none }

/-- Judges a command and carries it out. -/
def run (interpreter : Interpreter) (inventories : Inventories) (command : Command) :
    Outcome × Inventories :=
  let result := do
    let deed ← interpreter.judge inventories command
    interpreter.perform inventories deed command
  match result with
  | .ok after => after
  | .error refusal => (interpreter.refuse command refusal, inventories)

/-- Reads a line as a command, judges it and carries it out. -/
def interpret (interpreter : Interpreter) (inventories : Inventories) (input : String) :
    Outcome × Inventories :=
  interpreter.run inventories (Command.ofLine interpreter.registry input)

/-- Forgets the subjects at hand. -/
def beginScene (interpreter : Interpreter) : Interpreter :=
  { interpreter with registry := .empty }

/-- Registers subjects up to the first whose name is taken. -/
def register (interpreter : Interpreter) (subjects : List Subject) :
    Interpreter × Except Fault Unit :=
  let (registry, result) := interpreter.registry.registerAll subjects
  ({ interpreter with registry }, result)

end Interpreter

end TextAdventure
