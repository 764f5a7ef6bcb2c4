import TextAdventure.Player
import TextAdventure.Story.Reading

/-!
# The command line

The program is called with a story file and options.  What it is asked for is read off the words of
the call; it then shows its help or version, plays a script, or plays with whoever types.
-/

namespace TextAdventure

/-- What is wrong with a call of the program. -/
inductive UsageError where
  /-- An option lacks its file. -/
  | missingFile (option : String)
  | unknownOption (option : String)
  /-- A second story is given. -/
  | unexpectedArgument (argument : String)
  /-- No story is given. -/
  | noStory
  deriving DecidableEq, Repr

namespace UsageError

/-- The mistake in words. -/
def message : UsageError → String
  | missingFile option => option ++ " requires a file"
  | unknownOption option => "unknown option: " ++ option
  | unexpectedArgument argument => "unexpected argument: " ++ argument
  | noStory => "no story file given"

end UsageError

/-- An option that stands alone. -/
inductive Switch where
  | help
  | version
  | verboseErrors
  | noHelpCommand
  deriving DecidableEq, Repr

/-- An option that is followed by a file. -/
inductive FileOption where
  /-- Play the script in the file. -/
  | script
  /-- Load the progress in the file. -/
  | load
  deriving DecidableEq, Repr

/-- What the program is asked for. -/
structure Arguments where
  story : Option String := none
  script : Option String := none
  load : Option String := none
  verboseErrors : Bool := false
  noHelpCommand : Bool := false
  showHelp : Bool := false
  showVersion : Bool := false
  deriving DecidableEq, Repr

namespace Arguments

/-- The spellings of the options that stand alone. -/
def switches : List (String × Switch) :=
  [("-h", .help), ("--help", .help), ("-V", .version), ("--version", .version),
   ("--verbose-errors", .verboseErrors), ("--no-help-command", .noHelpCommand)]

/-- The spellings of the options that are followed by a file. -/
def fileOptions : List (String × FileOption) :=
  [("--script", .script), ("--load", .load)]

/-- Sets an option that stands alone. -/
def withSwitch (arguments : Arguments) : Switch → Arguments
  | .help => { arguments with showHelp := true }
  | .version => { arguments with showVersion := true }
  | .verboseErrors => { arguments with verboseErrors := true }
  | .noHelpCommand => { arguments with noHelpCommand := true }

/-- Sets an option that is followed by a file. -/
def withFile (arguments : Arguments) (file : String) : FileOption → Arguments
  | .script => { arguments with script := some file }
  | .load => { arguments with load := some file }

/-- Reads the words of a call from left to right.  An option that is followed by a file takes the
next word, whatever it is. -/
def readFrom (arguments : Arguments) : List String → Except UsageError Arguments
  | [] => .ok arguments
  | word :: rest =>
    match switches.lookup word with
    | some switch => readFrom (arguments.withSwitch switch) rest
    | none =>
      match fileOptions.lookup word, rest with
      | some option, file :: rest => readFrom (arguments.withFile file option) rest
      | some _, [] => .error (.missingFile word)
      | none, rest =>
        if word.toList.head? = some '-' then .error (.unknownOption word)
        else if arguments.story.isSome then .error (.unexpectedArgument word)
        else readFrom { arguments with story := some word } rest

/-- Reads the words of a call. -/
def read (words : List String) : Except UsageError Arguments :=
  readFrom {} words

/-- The settings of the game. -/
def settings (arguments : Arguments) : Settings :=
  { help := ! arguments.noHelpCommand, verbose := arguments.verboseErrors }

end Arguments

/-- Why the program fails. -/
inductive Failure where
  /-- It was called in a wrong way. -/
  | usage (error : UsageError)
  /-- Something went wrong outside the game. -/
  | fault (fault : Fault)
  deriving DecidableEq, Repr

/-- What the program prints, and whether it fails. -/
structure Report where
  output : List Output := []
  /-- Why the program fails, if it does. -/
  failure : Option Failure := none

/-- What is left to do once a call has been read. -/
inductive Task where
  /-- Nothing: this is what the program prints. -/
  | finished (report : Report)
  /-- Play with whoever types. -/
  | play (player : Player)

namespace CommandLine

/-- The help text of the program. -/
def helpText : String :=
  "\x1b[1mCommandbox\x1b[0m - Play scene-based interactive fiction

\x1b[1mUSAGE:\x1b[0m
    commandbox [OPTIONS] STORY

\x1b[1mARGUMENTS:\x1b[0m
    STORY                 Story file (TOML) to play

\x1b[1mOPTIONS:\x1b[0m
    -h, --help            Print help information
    -V, --version         Print version information
    --verbose-errors      Explain why a command was not understood
    --no-help-command     Disable the in-game help listing
    --script FILE         Feed commands from FILE and exit
    --load SAVE           Resume from a saved game

\x1b[1mEXAMPLES:\x1b[0m
    commandbox stories/cellar.toml
    commandbox --verbose-errors stories/cellar.toml
    commandbox --script walkthrough.txt stories/cellar.toml

\x1b[1mIN-GAME COMMANDS:\x1b[0m
    :look                 Describe the current scene
    :inventory            List what you carry and remember
    :save PATH            Save progress
    :load PATH            Load progress
    :quit                 Leave the game
    Ctrl+D                Leave the game

Set RUST_LOG=debug to trace how each command is interpreted."

/-- The name and version of the program. -/
def versionText : String := "commandbox 0.1.0"

variable {m : Type → Type} [Monad m] [Files m]

/-- Reads the story in a file. -/
def readStory (path : String) : m (Except Fault Story) := do
  match ← Files.readText path with
  | none => return .error { kind := .file .readStory path }
  | some text => return (Story.ofText text).mapError (·.inFile path)

/-- Starts the story in a file, at the progress of a save if one is given. -/
def openSession (arguments : Arguments) (path : String) : m (Except Fault Session) := do
  match (← readStory path).bind (Session.start · arguments.settings) with
  | .error fault => return .error fault
  | .ok session =>
    match arguments.load with
    | none => return .ok session
    | some save =>
      let (session, result) ← session.load save
      return result.map fun _ => session

/-- Does what a call asks for, short of playing with whoever types. -/
def start (words : List String) : m Task := do
  match Arguments.read words with
  | .error error => return .finished { failure := some (.usage error) }
  | .ok arguments =>
    if arguments.showHelp then return .finished { output := [.text helpText] }
    else if arguments.showVersion then return .finished { output := [.text versionText] }
    else
      match arguments.story with
      | none =>
        return .finished { output := [.text helpText], failure := some (.usage .noStory) }
      | some path =>
        match ← openSession arguments path with
        | .error fault => return .finished { failure := some (.fault fault) }
        | .ok session =>
          match arguments.script with
          | none => return .play { session, banner := arguments.load.isNone }
          | some script =>
            let transcript ← Player.runScript { session } script
            return .finished {
              output := transcript.output
              failure := match transcript.result with
                | .ok _ => none
                | .error fault => some (.fault fault) }

/-- Does what a call asks for, with these events from the line editor. -/
def run (words : List String) (events : List Event) : m Report := do
  match ← start words with
  | .finished report => return report
  | .play player =>
    let transcript ← player.run events
    return {
      output := transcript.output
      failure := match transcript.result with
        | .ok _ => none
        | .error fault => some (.fault fault) }

end CommandLine

end TextAdventure
