/-!
# Faults

What can go wrong outside the game: a story that contradicts itself, a save or a story file that
cannot be read, a command of the player program that does not exist.  A fault carries its cause, and
the place where it was found if one is known.
-/

namespace TextAdventure

/-- What was being done with a file when the file system refused. -/
inductive FileAct where
  | openSave
  | readSave
  | createSave
  | writeSave
  | flushSave
  | readStory
  | readScript
  deriving DecidableEq, Repr

/-- The cause of a fault. -/
inductive FaultKind where
  /-- Two subjects of one scene have this name. -/
  | duplicateSubject (name : String)
  | unknownScene (id : String)
  | unknownCallback (id : String)
  /-- A story breaks a rule that the detail names. -/
  | storyFormat (detail : String)
  | malformedStory
  /-- A save could not be written or read, for the reason given. -/
  | serialization (detail : String)
  | malformedSave
  /-- Input or output failed, for the reason given. -/
  | io (detail : String)
  /-- The file system refused an act on the file at a path. -/
  | file (act : FileAct) (path : String)
  /-- The player program was asked for something that it does not know. -/
  | internal (detail : String)
  deriving DecidableEq, Repr

namespace FileAct

/-- The path holds a null character, so it is the name of no file, whatever file system is asked. -/
def holdsNull (path : String) : Bool :=
  path.toList.contains '\x00'

/-- The act on a file, told as a failure.  The reason is told only where the path alone is to
blame. -/
def message (act : FileAct) (path : String) : String :=
  let failure := match act with
    | .openSave => "failed to open file '" ++ path ++ "'"
    | .readSave => "failed to read file '" ++ path ++ "'"
    | .createSave => "failed to create file '" ++ path ++ "'"
    | .writeSave => "failed to write to file '" ++ path ++ "'"
    | .flushSave => "failed to flush file '" ++ path ++ "'"
    | .readStory => "failed to read story '" ++ path ++ "'"
    | .readScript => "failed to read " ++ path
  if holdsNull path then failure ++ ": file name contained an unexpected NUL byte" else failure

end FileAct

namespace FaultKind

/-- The message that tells the cause. -/
def message : FaultKind → String
  | duplicateSubject name => "duplicate subject: " ++ name
  | unknownScene id => "unknown scene: " ++ id
  | unknownCallback id => "unknown callback: " ++ id
  | storyFormat detail => "story format error: " ++ detail
  | malformedStory => "story format error"
  | serialization detail => "serialization error: " ++ detail
  | malformedSave => "serialization error"
  | io detail => "io error: " ++ detail
  | file act path => "io error: " ++ act.message path
  | internal detail => "internal error: " ++ detail

end FaultKind

/-- Where a fault was found. -/
structure FaultContext where
  /-- The file that was read. -/
  source : Option String := none
  /-- The scene that was looked at. -/
  scene : Option String := none
  /-- The parts that enclose the place, the innermost last. -/
  stack : List String := []
  deriving DecidableEq, Repr

namespace FaultContext

/-- The place in words: file and scene on a line, then a line for every enclosing part. -/
def message (context : FaultContext) : String :=
  let source := (context.source.map ("at " ++ ·)).getD ""
  let gap := if context.source.isSome && context.scene.isSome then " " else ""
  let scene := (context.scene.map ("in scene " ++ ·)).getD ""
  let stack := String.join (context.stack.map fun frame => "  in " ++ frame ++ "\n")
  source ++ gap ++ scene ++ (if context.stack.isEmpty then "" else "\n" ++ stack)

end FaultContext

/-- A fault: its cause, and the place where it was found. -/
structure Fault where
  kind : FaultKind
  /-- The place, if it is known. -/
  context : Option FaultContext := none
  deriving DecidableEq, Repr

namespace Fault

/-- The message of a fault tells its cause alone. -/
def message (fault : Fault) : String :=
  fault.kind.message

/-- The fault, found at a place. -/
def within (fault : Fault) (context : FaultContext) : Fault :=
  { fault with context := some context }

/-- The fault, found in a file. -/
def inFile (fault : Fault) (path : String) : Fault :=
  fault.within { fault.context.getD {} with source := some path }

end Fault

end TextAdventure
