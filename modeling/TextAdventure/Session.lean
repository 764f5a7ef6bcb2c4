import TextAdventure.Files
import TextAdventure.Interpreter
import TextAdventure.Save
import TextAdventure.Story.Check

/-!
# Sessions

A session is a story in play: the current scene with the subjects that are present, what is held,
and the flags that callbacks have set.  Entering a scene registers the subjects that are present in
it then; commands and callbacks may enter a scene or show the current one anew.
-/

namespace TextAdventure

/-- A story in play. -/
structure Session where
  story : Story
  /-- The interpreter, with the subjects at hand. -/
  interpreter : Interpreter
  /-- The id of the current scene. -/
  scene : String
  inventories : Inventories := .empty
  flags : NameSet := .empty
  /-- The text of the last command, until it is taken. -/
  message : Option String := none
  /-- How many commands were refused. -/
  refusals : Nat := 0
  deriving DecidableEq

namespace Session

/-- The description of the current scene. -/
def sceneText (session : Session) : String :=
  ((session.story.scene? session.scene).map (·.text)).getD ""

/-- The words under which the subjects at hand are shown. -/
def visible (session : Session) : List String :=
  session.interpreter.registry.displayNames false

/-- The words that are offered for completion. -/
def completions (session : Session) : List String :=
  Action.verbs ++ session.visible

/-- A subject is there, by its flags and by what is held. -/
def isPresent (session : Session) (placement : Placement) : Bool :=
  placement.requiresFlag.all session.flags.contains &&
    ! placement.unlessFlag.any session.flags.contains &&
    ! (placement.hiddenWhenHeld &&
      session.inventories.holds
        (session.interpreter.settings.inventoryOf placement.subject) placement.subject.name)

/-- The subjects of a scene that are there, in the order of the story. -/
def present (session : Session) (scene : Scene) : List Subject :=
  (scene.placements.filter session.isPresent).map (·.subject)

/-- Enters a scene.  The subjects at hand before are forgotten, and those that are there are
registered; the scene becomes the current one only if all could be registered. -/
def enter (session : Session) (id : String) : Session × Except Fault Unit :=
  match session.story.scene? id with
  | none => (session, .error { kind := .unknownScene id })
  | some scene =>
    let (interpreter, result) :=
      session.interpreter.beginScene.register (session.present scene)
    match result with
    | .ok _ => ({ session with interpreter, scene := id }, .ok ())
    | .error fault =>
      ({ session with interpreter }, .error (fault.within { scene := some id }))

/-- Starts a story at its first scene. -/
def start (story : Story) (settings : Settings) : Except Fault Session := do
  story.check
  let (session, result) :=
    enter { story, interpreter := { settings }, scene := story.start } story.start
  result.map fun _ => session

/-- Shows the current scene anew. -/
def render (session : Session) : Session :=
  (session.enter session.scene).1

/-- Enters a scene, if the story declares it. -/
def transition (session : Session) (target : String) : Session :=
  (session.enter target).1

end Session

/-- A callback that is being run. -/
structure CallbackRun where
  session : Session
  /-- An effect has asked for a scene. -/
  moved : Bool := false
  /-- An effect has changed the flags, or has touched an inventory. -/
  changed : Bool := false

namespace CallbackRun

/-- Does one effect. -/
def step (run : CallbackRun) (effect : Effect) : CallbackRun :=
  let session := run.session
  match effect with
  | .say text => { run with session := { session with message := some text } }
  | .setFlag flag =>
    { run with
      session := { session with flags := session.flags.insert flag }
      changed := run.changed || ! session.flags.contains flag }
  | .clearFlag flag =>
    { run with
      session := { session with flags := session.flags.erase flag }
      changed := run.changed || session.flags.contains flag }
  | .give inventory item =>
    { run with
      session := { session with inventories := session.inventories.add inventory item }
      changed := true }
  | .discard inventory item =>
    { run with
      session := { session with inventories := session.inventories.remove inventory item }
      changed := true }
  | .goto target => { run with session := session.transition target, moved := true }

/-- The session after the last effect: what changed is shown, unless a scene was asked for. -/
def finish (run : CallbackRun) : Session :=
  if run.changed && ! run.moved then run.session.render else run.session

end CallbackRun

namespace Session

/-- Runs a callback, if the story declares it. -/
def invoke (session : Session) (callback : String) : Session :=
  match session.story.callback? callback with
  | none => session
  | some effects => (effects.foldl CallbackRun.step { session }).finish

/-- Meets a request of a command. -/
def meet (session : Session) : HostRequest → Session
  | .invoke callback => session.invoke callback
  | .enter target => session.transition target
  | .render => session.render

/-- Interprets a line, keeps its text, counts a refusal, and meets the requests of the command. -/
def submit (session : Session) (line : String) : Outcome × Session :=
  let (outcome, inventories) := session.interpreter.interpret session.inventories line
  let after := { session with
    inventories
    message := outcome.message
    refusals := session.refusals + if outcome.isRefused then 1 else 0 }
  (outcome, outcome.requests.foldl meet after)

/-- Takes the text of the last command, so that it is shown only once. -/
def takeMessage (session : Session) : Option String × Session :=
  (session.message, { session with message := none })

/-- The progress made so far. -/
def snapshot (session : Session) : Save :=
  { scene := session.scene, inventories := session.inventories, flags := session.flags }

/-- Replaces the progress made so far, and enters the scene of the save. -/
def restore (session : Session) (save : Save) : Session × Except Fault Unit :=
  match session.story.scene? save.scene with
  | none => (session, .error { kind := .unknownScene save.scene })
  | some _ =>
    enter { session with inventories := save.inventories, flags := save.flags, message := none }
      save.scene

/-- Restores the progress that bytes describe. -/
def restoreBytes (session : Session) (bytes : List UInt8) : Session × Except Fault Unit :=
  match Save.decode? bytes with
  | none => (session, .error { kind := .malformedSave })
  | some save => session.restore save

section Files

variable {m : Type → Type} [Monad m] [Files m]

/-- Writes the progress made so far to a file. -/
def save (session : Session) (path : String) : m (Except Fault Unit) := do
  let result ← Files.writeFile path session.snapshot.encode
  return result.mapError fun refusal => { kind := .file refusal.act path }

/-- Restores the progress that a file holds. -/
def load (session : Session) (path : String) : m (Session × Except Fault Unit) := do
  match ← Files.readFile path with
  | .ok bytes => return session.restoreBytes bytes
  | .error .noFile => return (session, .error { kind := .file .openSave path })
  | .error .noContent => return (session, .error { kind := .file .readSave path })

end Files

end Session

end TextAdventure
