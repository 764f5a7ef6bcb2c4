import TextAdventure.Proofs.Callbacks

/-!
# Runs of a session

Everything that can be done to a session from outside is made of two things: entering a scene, and
changing what is held, the flags, the message and the count of refusals.  What survives these two
therefore survives every operation, and holds of every session that a run can reach.
-/

namespace TextAdventure

/-- What can be done to a session from outside. -/
inductive Operation where
  | submit (line : String)
  | restore (save : Save)
  | load (disk : Disk) (path : String)
  | takeMessage
  | invoke (callback : String)
  | transition (target : String)
  | render
  | touch (inventory : String)
  | add (inventory item : String)
  | remove (inventory item : String)
  deriving DecidableEq

namespace Session

/-- The session after an operation, whether the operation succeeded or not. -/
def perform (session : Session) : Operation → Session
  | .submit line => (session.submit line).2
  | .restore save => (session.restore save).1
  | .load disk path => ((session.load path : StateM Disk _).run disk).1.1
  | .takeMessage => session.takeMessage.2
  | .invoke callback => session.invoke callback
  | .transition target => session.transition target
  | .render => session.render
  | .touch inventory =>
    { session with inventories := session.inventories.touch inventory }
  | .add inventory item =>
    { session with inventories := session.inventories.add inventory item }
  | .remove inventory item =>
    { session with inventories := session.inventories.remove inventory item }

/-- The session after operations that follow one another. -/
def performAll (session : Session) (operations : List Operation) : Session :=
  operations.foldl perform session

/-- Operations lead from the start of the story to the session. -/
def Reachable (story : Story) (settings : Settings) (session : Session) : Prop :=
  ∃ first operations, start story settings = .ok first ∧ session = first.performAll operations

/-- What a line leads to. -/
def outcomeOf (session : Session) (line : String) : Outcome :=
  (session.interpreter.interpret session.inventories line).1

/-- The session after a line was interpreted, before the requests of the command are met. -/
def interpreted (session : Session) (line : String) : Session :=
  { session with
    inventories := (session.interpreter.interpret session.inventories line).2
    message := (session.outcomeOf line).message
    refusals := session.refusals + (session.outcomeOf line).isRefused.toNat }

theorem submit_eq (session : Session) (line : String) :
    session.submit line =
      (session.outcomeOf line,
        (session.outcomeOf line).requests.foldl meet (session.interpreted line)) := by
  unfold submit interpreted outcomeOf
  -- Left in place, the interpreter would be run on the unknown line.
  generalize session.interpreter.interpret session.inventories line = result
  cases hrefused : result.1.isRefused <;> simp [hrefused]

/-- The session after a command with this outcome that left these inventories, before the requests
of the command are met. -/
def settled (session : Session) (outcome : Outcome) (inventories : Inventories) : Session :=
  { session with
    inventories
    message := outcome.message
    refusals := session.refusals + outcome.isRefused.toNat }

theorem submit_of_interpret (session : Session) {line : String} {outcome : Outcome}
    {after : Inventories}
    (hinterpret : session.interpreter.interpret session.inventories line = (outcome, after)) :
    session.submit line =
      (outcome, outcome.requests.foldl meet (session.settled outcome after)) := by
  simp only [submit_eq, interpreted, outcomeOf, hinterpret, settled]

/-- What becomes of a session when reading the file at a path came to this. -/
def withFile (session : Session) (path : String) :
    Except ReadRefusal (List UInt8) → Session × Except Fault Unit
  | .ok bytes => session.restoreBytes bytes
  | .error .noFile => (session, .error { kind := .file .openSave path })
  | .error .noContent => (session, .error { kind := .file .readSave path })

/-- Loading reads the file, whatever the file system, and does nothing else to the files. -/
theorem run_load {σ : Type} [Files (StateM σ)] (session : Session) (path : String) (files : σ) :
    (session.load path : StateM σ _).run files =
      (session.withFile path (Files.reading path files),
        ((Files.readFile path : StateM σ _).run files).2) := by
  simp only [load, StateT.run_bind, Files.reading]
  generalize (Files.readFile path : StateM σ _).run files = result
  obtain ⟨found, left⟩ := result
  rcases found with (_ | _) | bytes <;> rfl

/-! ## What every operation preserves -/

/-- What survives the entry of a scene and every change of what is held, of the flags, of the
message and of the count of refusals. -/
structure Stable (motive : Session → Prop) : Prop where
  change : ∀ session inventories flags message refusals, motive session →
    motive { session with inventories, flags, message, refusals }
  enter : ∀ session id, motive session → motive (session.enter id).1

namespace Stable

variable {motive : Session → Prop}

theorem step (hstable : Stable motive) {run : CallbackRun} (hrun : motive run.session)
    (effect : Effect) : motive (run.step effect).session := by
  cases effect with
  | goto target => exact hstable.enter _ _ hrun
  | say | setFlag | clearFlag | give | discard => exact hstable.change _ _ _ _ _ hrun

theorem foldl_step (hstable : Stable motive) (effects : List Effect) (run : CallbackRun)
    (hrun : motive run.session) : motive (effects.foldl CallbackRun.step run).session := by
  induction effects generalizing run with
  | nil => exact hrun
  | cons effect rest ih => exact ih (run.step effect) (hstable.step hrun effect)

theorem invoke (hstable : Stable motive) {session : Session} (hsession : motive session)
    (callback : String) : motive (session.invoke callback) := by
  unfold Session.invoke
  split
  · exact hsession
  · next effects hcallback =>
      have hrun := hstable.foldl_step effects { session } hsession
      unfold CallbackRun.finish
      split
      · exact hstable.enter _ _ hrun
      · exact hrun

theorem meet (hstable : Stable motive) {session : Session} (hsession : motive session)
    (request : HostRequest) : motive (session.meet request) := by
  cases request with
  | invoke callback => exact hstable.invoke hsession callback
  | enter target => exact hstable.enter _ _ hsession
  | render => exact hstable.enter _ _ hsession

theorem foldl_meet (hstable : Stable motive) (requests : List HostRequest) {session : Session}
    (hsession : motive session) : motive (requests.foldl Session.meet session) := by
  induction requests generalizing session with
  | nil => exact hsession
  | cons request rest ih => exact ih (hstable.meet hsession request)

theorem submit (hstable : Stable motive) {session : Session} (hsession : motive session)
    (line : String) : motive (session.submit line).2 := by
  have hinterpreted : motive (session.interpreted line) :=
    hstable.change session _ _ _ _ hsession
  have hmet := hstable.foldl_meet (session.outcomeOf line).requests hinterpreted
  simpa only [submit_eq] using hmet

theorem restore (hstable : Stable motive) {session : Session} (hsession : motive session)
    (save : Save) : motive (session.restore save).1 := by
  unfold Session.restore
  split
  · exact hsession
  · exact hstable.enter _ _ (hstable.change _ _ _ _ _ hsession)

theorem restoreBytes (hstable : Stable motive) {session : Session} (hsession : motive session)
    (bytes : List UInt8) : motive (session.restoreBytes bytes).1 := by
  unfold Session.restoreBytes
  split
  · exact hsession
  · exact hstable.restore hsession _

theorem withFile (hstable : Stable motive) {session : Session} (hsession : motive session)
    (path : String) (found : Except ReadRefusal (List UInt8)) :
    motive (session.withFile path found).1 := by
  rcases found with (_ | _) | bytes
  · exact hsession
  · exact hsession
  · exact hstable.restoreBytes hsession bytes

/-- One operation preserves what is stable. -/
theorem perform (hstable : Stable motive) {session : Session} (hsession : motive session)
    (operation : Operation) : motive (session.perform operation) := by
  cases operation with
  | submit line => exact hstable.submit hsession line
  | restore save => exact hstable.restore hsession save
  | load disk path =>
      rw [Session.perform, run_load]
      exact hstable.withFile hsession path _
  | invoke callback => exact hstable.invoke hsession callback
  | transition target => exact hstable.enter _ _ hsession
  | render => exact hstable.enter _ _ hsession
  | takeMessage | touch | add | remove => exact hstable.change _ _ _ _ _ hsession

/-- A run preserves what is stable. -/
theorem performAll (hstable : Stable motive) (operations : List Operation) {session : Session}
    (hsession : motive session) : motive (session.performAll operations) := by
  induction operations generalizing session with
  | nil => exact hsession
  | cons operation rest ih => exact ih (hstable.perform hsession operation)

/-- What is stable and holds at the start of a story holds of every session that is reached. -/
theorem of_reachable (hstable : Stable motive) {story : Story} {settings : Settings}
    (hstart : ∀ first, start story settings = .ok first → motive first) {session : Session}
    (hreach : Reachable story settings session) : motive session := by
  obtain ⟨first, operations, hfirst, rfl⟩ := hreach
  exact hstable.performAll operations (hstart first hfirst)

end Stable

/-! ## Story and settings -/

/-- The session in which a story is about to enter its first scene. -/
def opening (story : Story) (settings : Settings) : Session :=
  { story, interpreter := { settings }, scene := story.start }

/-- A story that passes its check starts in its first scene. -/
theorem start_of_check {story : Story} (settings : Settings) (hcheck : story.check = .ok ()) :
    ∃ scene, story.scene? story.start = some scene ∧
      start story settings = .ok ((opening story settings).inScene scene) := by
  have hwell := story.check_eq_ok_iff.mp hcheck
  obtain ⟨scene, hscene⟩ := Story.exists_scene?_of_mem hwell.startDeclared
  have henter := (opening story settings).enter_of_declared hwell hscene
  refine ⟨scene, hscene, ?_⟩
  rw [opening] at henter
  simp only [start, hcheck, henter]
  rfl

/-- A run changes neither the story nor the settings. -/
theorem plays_of_reachable {story : Story} {settings : Settings} (hcheck : story.check = .ok ())
    {session : Session} (hreach : Reachable story settings session) :
    session.story = story ∧ session.interpreter.settings = settings := by
  have hstable : Stable fun session =>
      session.story = story ∧ session.interpreter.settings = settings := by
    constructor
    · intro session inventories flags message refusals hplays
      exact hplays
    · intro session id hplays
      simpa using hplays
  refine hstable.of_reachable ?_ hreach
  intro first hfirst
  obtain ⟨scene, -, hstart⟩ := start_of_check settings hcheck
  rw [hstart] at hfirst
  obtain rfl := Except.ok.inj hfirst
  exact ⟨rfl, rfl⟩

end Session

end TextAdventure
