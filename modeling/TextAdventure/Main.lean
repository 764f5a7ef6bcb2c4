import TextAdventure.CommandLine

/-!
# The program

Reads lines from standard input, prints what playing leads to, and reports faults on standard error.
-/

namespace TextAdventure

instance : Files IO where
  readFile path := do
    if FileAct.holdsNull path then return .error .noFile
    match ← (IO.FS.Handle.mk path .read).toBaseIO with
    | .error _ => return .error .noFile
    | .ok handle =>
      match ← handle.readBinToEnd.toBaseIO with
      | .error _ => return .error .noContent
      | .ok bytes => return .ok bytes.data.toList
  writeFile path content := do
    if FileAct.holdsNull path then return .error .notCreated
    match ← (IO.FS.Handle.mk path .write).toBaseIO with
    | .error _ => return .error .notCreated
    | .ok handle =>
      match ← (handle.write ⟨content.toArray⟩).toBaseIO with
      | .error _ => return .error .notWritten
      | .ok _ =>
        match ← handle.flush.toBaseIO with
        | .error _ => return .error .notFlushed
        | .ok _ => return .ok ()

/-- Prints a message of failure in red. -/
def printFailure (message : String) : IO Unit := do
  (← IO.getStderr).putStr ("\x1b[31mError: " ++ message ++ "\x1b[0m\n")

/-- Prints texts and faults. -/
def printAll (output : List Output) : IO Unit := do
  for item in output do
    match item with
    | .text content => (← IO.getStdout).putStr (content ++ "\n")
    | .fault fault => printFailure fault.message
  (← IO.getStdout).flush

/-- Reads a line of input behind the prompt, which is shown where someone types. -/
def readEvent (prompt : String) : IO Event := do
  let input ← IO.getStdin
  if ← input.isTty then
    let output ← IO.getStdout
    output.putStr prompt
    output.flush
  match ← input.getLine.toBaseIO with
  | .error _ => return .failure "stream did not contain valid UTF-8"
  | .ok line => return (Event.ofInput line).headD .endOfInput

/-- Plays with whoever types. -/
partial def playLoop (prompt : String) (session : Session) : IO (Except Fault Unit) := do
  let turn ← session.turn (← readEvent prompt)
  printAll turn.output
  match turn.next with
  | .goOn => playLoop prompt turn.session
  | .stop => return .ok ()
  | .abort fault => return .error fault

/-- Does what a call asks for. -/
def runCall (words : List String) : IO (Option Failure) := do
  match ← CommandLine.start words with
  | .finished report =>
    printAll report.output
    return report.failure
  | .play player =>
    printAll player.opening
    match ← playLoop player.prompt player.session with
    | .ok _ => return none
    | .error fault => return some (.fault fault)

end TextAdventure

open TextAdventure in
/-- The exit code is one when the program fails. -/
def main (words : List String) : IO UInt32 := do
  match ← runCall words with
  | none => return 0
  | some (.usage error) => printFailure error.message; return 1
  | some (.fault fault) => printFailure fault.message; return 1
