import TextAdventure.Session
import TextAdventure.Text.Backspace
import TextAdventure.Text.Blank

/-!
# Playing

A player answers lines of input one by one.  A line that begins with a colon is for the player
itself, and every other line is a command in the story.  Lines come from a line editor, event by
event, or from a script.
-/

namespace TextAdventure

/-- What is printed. -/
inductive Output where
  /-- A text for the reader, and the end of a line. -/
  | text (content : String)
  | fault (fault : Fault)
  deriving DecidableEq, Repr

/-- The answer to a line. -/
inductive Reply where
  /-- The game goes on, with something to tell or without. -/
  | answer (text : Option String)
  | quit
  deriving DecidableEq, Repr

/-- A line for the player itself. -/
inductive MetaCommand where
  | quit
  | look
  | inventory
  | save (path : String)
  | load (path : String)
  /-- A command that needs a path and has none. -/
  | lacksPath (name : String)
  | unknown (name : String)
  deriving DecidableEq, Repr

namespace MetaCommand

/-- Reads what stands behind the colon. -/
def read (cs : List Char) : MetaCommand :=
  let (name, rest) := Text.cutAtBlank cs
  let argument := String.ofList (Text.trim rest)
  match String.ofList name with
  | "quit" | "q" => quit
  | "look" | "l" => look
  | "inventory" | "i" => inventory
  | "save" => if argument = "" then lacksPath "save" else save argument
  | "load" => if argument = "" then lacksPath "load" else load argument
  | other => unknown other

end MetaCommand

namespace Session

/-- What stands for the text of a refused command that has none: a bell and a red question mark. -/
def refusalMark : String := "\x07\x1b[31m?\x1b[0m"

/-- The current scene in bold, and what is to be seen in it. -/
def describe (session : Session) : String :=
  "\x1b[1m" ++ session.sceneText ++ "\x1b[0m" ++
    if session.visible.isEmpty then ""
    else "\nYou notice: " ++ ", ".intercalate session.visible

/-- What is held, a line for every inventory that is not empty. -/
def describeInventories (session : Session) : String :=
  let lists := session.inventories.lists.entries.filter fun (_, items) => ! items.isEmpty
  if lists.isEmpty then "You carry nothing."
  else "\n".intercalate (lists.map fun (name, items) => name ++ ": " ++ ", ".intercalate items)

/-- The answer to a command in the story: its text, or a mark if it was refused without one, and
the description of the scene if that is another one now. -/
def answerCommand (session : Session) (line : String) : Session × Reply :=
  let (outcome, after) := session.submit line
  let (message, after) := after.takeMessage
  let text := message.getD ""
  let text := if outcome.isRefused && text = "" then refusalMark else text
  let text :=
    if after.scene = session.scene then text
    else (if text = "" then "" else text ++ "\n\n") ++ after.describe
  (after, .answer (if text = "" then none else some text))

section Files

variable {m : Type → Type} [Monad m] [Files m]

/-- The answer to a line for the player itself. -/
def answerMeta (session : Session) : MetaCommand → m (Session × Except Fault Reply)
  | .quit => return (session, .ok .quit)
  | .look => return (session, .ok (.answer (some session.describe)))
  | .inventory => return (session, .ok (.answer (some session.describeInventories)))
  | .save path => do
    let result ← session.save path
    return (session, result.map fun _ => .answer (some ("Saved to " ++ path ++ ".")))
  | .load path => do
    let (after, result) ← session.load path
    return (after, result.map fun _ => .answer (some after.describe))
  | .lacksPath name =>
    return (session, .error { kind := .internal (":" ++ name ++ " requires a path") })
  | .unknown name => return (session, .error { kind := .internal ("unknown command :" ++ name) })

/-- The answer to a line. -/
def respond (session : Session) (line : String) : m (Session × Except Fault Reply) :=
  match Text.trim line.toList with
  | ':' :: rest => session.answerMeta (MetaCommand.read rest)
  | trimmed =>
    let (after, reply) := session.answerCommand (String.ofList trimmed)
    return (after, .ok reply)

end Files

end Session

/-- What a line editor hands out. -/
inductive Event where
  | line (text : String)
  /-- The reader has interrupted the input of a line. -/
  | interrupt
  | endOfInput
  /-- Reading has failed, for the reason given. -/
  | failure (detail : String)
  deriving DecidableEq, Repr

namespace Event

/-- The events of input that no line editor has seen: its lines, as their backspaces leave them. -/
def ofInput (input : String) : List Event :=
  (Text.lines input).map fun text => line (Text.typed text)

end Event

/-- How the game goes on. -/
inductive Next where
  /-- With the next line. -/
  | goOn
  /-- It is over. -/
  | stop
  /-- It is broken off by a fault. -/
  | abort (fault : Fault)
  deriving DecidableEq, Repr

/-- What an answer prints, and how the game goes on. -/
def Reply.shown : Except Fault Reply → List Output × Next
  | .ok (.answer text) => ((text.map Output.text).toList, .goOn)
  | .ok .quit => ([], .stop)
  | .error fault => ([.fault fault], .goOn)

/-- What one event leads to. -/
structure Turn where
  session : Session
  output : List Output := []
  /-- The line that the editor is to remember. -/
  remembered : Option String := none
  next : Next := .goOn

/-- What playing leads to. -/
structure Transcript where
  session : Session
  output : List Output
  /-- The words that were offered for completion whenever a line was read. -/
  offered : List (List String) := []
  /-- The lines that the editor was to remember. -/
  remembered : List String := []
  /-- How many events were not read. -/
  unread : Nat := 0
  /-- Whether playing came to a regular end. -/
  result : Except Fault Unit := .ok ()

namespace Session

variable {m : Type → Type} [Monad m] [Files m]

/-- Meets an event.  Blank lines are passed over; the last words are printed when the game is
over. -/
def turn (session : Session) : Event → m Turn
  | .interrupt => return { session }
  | .endOfInput => return { session, output := [.text "\nGoodbye!"], next := .stop }
  | .failure detail => return { session, next := .abort { kind := .io detail } }
  | .line line => do
    if (Text.trim line.toList).isEmpty then return { session }
    else
      let (after, reply) ← session.respond line
      let (output, next) := Reply.shown reply
      let farewell := if next = .stop then [.text "\nGoodbye!"] else []
      return { session := after, output := output ++ farewell, remembered := some line, next }

/-- Plays while events come; when there are no more, the input has ended. -/
def play (session : Session) : List Event → m Transcript
  | [] => do
    let turn ← session.turn .endOfInput
    return { session := turn.session, output := turn.output, offered := [session.completions] }
  | event :: rest => do
    let turn ← session.turn event
    let offered := [session.completions]
    let remembered := turn.remembered.toList
    match turn.next with
    | .goOn =>
      let after ← turn.session.play rest
      return { after with
        output := turn.output ++ after.output
        offered := offered ++ after.offered
        remembered := remembered ++ after.remembered }
    | .stop =>
      return { session := turn.session, output := turn.output, offered, remembered
               unread := rest.length }
    | .abort fault =>
      return { session := turn.session, output := turn.output, offered, remembered
               unread := rest.length, result := .error fault }

/-- Plays the lines of a script, each printed behind the prompt, up to the end of the game.  Blank
lines and comments are passed over. -/
def playLines (session : Session) (prompt : String) : List String → m (Session × List Output)
  | [] => return (session, [])
  | line :: rest => do
    let trimmed := Text.trim line.toList
    if trimmed.isEmpty || trimmed.head? = some '#' then session.playLines prompt rest
    else
      let command := String.ofList trimmed
      let (after, reply) ← session.respond command
      let (output, next) := Reply.shown reply
      let output := .text (prompt ++ command) :: output
      if next = .stop then return (after, output)
      else
        let (final, more) ← after.playLines prompt rest
        return (final, output ++ more)

end Session

/-- A session, and how it is shown. -/
structure Player where
  session : Session
  /-- The title is shown at the beginning. -/
  banner : Bool := true
  /-- What stands in front of a line of input. -/
  prompt : String := "> "

namespace Player

/-- What is printed at the beginning: the title, if there is one, and the scene. -/
def opening (player : Player) : List Output :=
  let title := player.session.story.title
  (if player.banner && title != "" then [.text ("\x1b[1;36m" ++ title ++ "\x1b[0m\n")] else []) ++
    [.text player.session.describe]

variable {m : Type → Type} [Monad m] [Files m]

/-- Plays with a line editor. -/
def run (player : Player) (events : List Event) : m Transcript := do
  let transcript ← player.session.play events
  return { transcript with output := player.opening ++ transcript.output }

/-- Plays the script in a file. -/
def runScript (player : Player) (path : String) : m Transcript := do
  match ← Files.readText path with
  | none =>
    return { session := player.session, output := []
             result := .error { kind := .file .readScript path } }
  | some source =>
    let (session, output) ← player.session.playLines player.prompt (Text.lines source)
    return { session, output := .text player.session.describe :: output }

end Player

end TextAdventure
