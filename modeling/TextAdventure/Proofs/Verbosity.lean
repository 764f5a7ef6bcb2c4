import TextAdventure.Proofs.Refusals
import TextAdventure.Proofs.Restoring

/-!
# Refusals that are told

A player may ask to be told why lines are refused.  This makes a difference to texts only: the two
games go through the same states, and the outcomes of their lines differ in the messages of refused
lines alone.  A message that differs is kept until the next text replaces it, so two runs are
compared in a relation that allows for it.
-/

namespace TextAdventure

/-! ## Outcomes -/

/-- The outcome as it is reported to a player who wants to be told why lines are refused, or does
not. -/
def Outcome.told (outcome : Outcome) (verbose : Bool) : Outcome :=
  match outcome.verdict with
  | .accepted => outcome
  | .refused refusal =>
    { outcome with message := if verbose then some ("ERROR: " ++ refusal.message) else none }

theorem Outcome.told_of_accepted {outcome : Outcome} (haccepted : outcome.verdict = .accepted)
    (verbose : Bool) : outcome.told verbose = outcome := by
  simp [told, haccepted]

theorem Outcome.told_of_refused {outcome : Outcome} {refusal : Refusal}
    (hrefused : outcome.verdict = .refused refusal) :
    outcome.told true = { outcome with message := some ("ERROR: " ++ refusal.message) } := by
  simp [told, hrefused]

theorem Outcome.verdict_told (outcome : Outcome) (verbose : Bool) :
    (outcome.told verbose).verdict = outcome.verdict := by
  unfold told
  split
  · rfl
  · rfl

namespace Interpreter

variable {interpreter : Interpreter} {inventories : Inventories}

/-- What a command comes to does not depend on whether refusals are told. -/
theorem run_telling (interpreter : Interpreter) (verbose : Bool) (inventories : Inventories)
    (command : Command) :
    (interpreter.telling verbose).run inventories command =
      ((interpreter.run inventories command).1.told verbose,
        (interpreter.run inventories command).2) := by
  have hjudge : (interpreter.telling verbose).judge inventories command =
      interpreter.judge inventories command := rfl
  cases hjudged : interpreter.judge inventories command with
  | error refusal =>
      simp only [run, hjudge, hjudged]
      rfl
  | ok deed =>
      have hperform : (interpreter.telling verbose).perform inventories deed command =
          interpreter.perform inventories deed command := rfl
      rcases (judge_eq_ok_iff.mp hjudged).performs_or_takesHeld with
        ⟨outcome, after, hdeed⟩ | ⟨subject, hheld⟩
      · have haccepted := Outcome.told_of_accepted hdeed.verdict_eq verbose
        simp only [run, hjudge, hjudged, bind, Except.bind, hperform, hdeed.perform_eq, haccepted]
      · simp only [run, hjudge, hjudged, bind, Except.bind, hperform, hheld.perform_eq]
        rfl

theorem interpret_telling (interpreter : Interpreter) (verbose : Bool)
    (inventories : Inventories) (line : String) :
    (interpreter.telling verbose).interpret inventories line =
      ((interpreter.interpret inventories line).1.told verbose,
        (interpreter.interpret inventories line).2) :=
  interpreter.run_telling verbose inventories _

end Interpreter

namespace Session

/-! ## Two runs -/

/-- The messages are the same, or the second one tells of a refusal over which the first one keeps
silent. -/
def MessagesMatch (quiet told : Option String) : Prop :=
  told = quiet ∨ ∃ refusal : Refusal, quiet = none ∧ told = some ("ERROR: " ++ refusal.message)

theorem MessagesMatch.or {first second : Option String} (hmatch : MessagesMatch first second)
    (text : Option String) : MessagesMatch (text.or first) (text.or second) := by
  cases text with
  | none => exact hmatch
  | some text => exact Or.inl rfl

/-- The session in which refusals are told from now on. -/
def telling (session : Session) : Session :=
  session.withRemarks { session.remarks with verbose := true }

@[simp] theorem telling_message (session : Session) :
    session.telling.message = session.message := rfl

/-- The second session is the first one with refusals told, and told before. -/
def Told (quiet told : Session) : Prop :=
  ∃ message, MessagesMatch quiet.message message ∧
    told = quiet.withRemarks { quiet.remarks with verbose := true, message }

theorem told_telling (session : Session) : session.Told session.telling :=
  ⟨session.message, Or.inl rfl, rfl⟩

variable {quiet told : Session}

/-- What changes the message in the same way, whatever the other remarks are, can be done to both
sessions. -/
theorem Told.of_update (htold : quiet.Told told) (change : Session → Session)
    (update : Option String → Option String)
    (hchange : ∀ remarks, change (quiet.withRemarks remarks) =
      (change quiet).withRemarks { remarks with message := update remarks.message })
    (hupdate : ∀ first second, MessagesMatch first second →
      MessagesMatch (update first) (update second)) :
    (change quiet).Told (change told) := by
  obtain ⟨message, hmatch, rfl⟩ := htold
  have hremarks : (change quiet).remarks =
      { quiet.remarks with message := update quiet.message } := by
    have hself := hchange quiet.remarks
    rw [withRemarks_self] at hself
    rw [hself, remarks_withRemarks]
    rfl
  refine ⟨update message, ?_, ?_⟩
  · have hmessage : (change quiet).message = update quiet.message :=
      congrArg Remarks.message hremarks
    rw [hmessage]
    exact hupdate _ _ hmatch
  · rw [hchange, hremarks]

/-- What leaves the message alone can be done to both sessions. -/
theorem Told.of_silent (htold : quiet.Told told) (change : Session → Session)
    (hchange : ∀ remarks, change (quiet.withRemarks remarks) = (change quiet).withRemarks remarks) :
    (change quiet).Told (change told) := by
  apply htold.of_update change id
  · exact hchange
  · intro first second hmatch
    exact hmatch

theorem Told.enter (htold : quiet.Told told) (id : String) :
    (quiet.enter id).1.Told (told.enter id).1 := by
  apply htold.of_silent fun session => (session.enter id).1
  intro remarks
  exact congrArg Prod.fst (quiet.enter_withRemarks remarks id)

theorem Told.invoke (htold : quiet.Told told) (callback : String) :
    (quiet.invoke callback).Told (told.invoke callback) := by
  apply htold.of_update (fun session => session.invoke callback) (quiet.story.saidBy callback).or
  · intro remarks
    exact quiet.invoke_withRemarks remarks callback
  · intro first second hmatch
    exact hmatch.or _

/-- A save of a declared scene is restored with the remarks as they are, but without a message. -/
theorem restore_withRemarks (session : Session) (remarks : Remarks) {save : Save} {scene : Scene}
    (hscene : session.story.scene? save.scene = some scene) :
    (session.withRemarks remarks).restore save =
      ((session.restore save).1.withRemarks { remarks with message := none },
        (session.restore save).2) := by
  have henter := (session.withProgress save).enter_withRemarks { remarks with message := none }
    save.scene
  simp only [Session.restore, withRemarks_story, hscene]
  exact henter

theorem Told.restore (htold : quiet.Told told) (save : Save) :
    (quiet.restore save).1.Told (told.restore save).1 ∧
      (quiet.restore save).2 = (told.restore save).2 := by
  have hstory : told.story = quiet.story := by
    obtain ⟨message, -, rfl⟩ := htold
    rfl
  cases hscene : quiet.story.scene? save.scene with
  | none =>
      rw [quiet.restore_of_undeclared hscene, told.restore_of_undeclared (hstory ▸ hscene)]
      exact ⟨htold, rfl⟩
  | some scene =>
      constructor
      · apply htold.of_update (fun session => (session.restore save).1) fun _ => none
        · intro remarks
          exact congrArg Prod.fst (quiet.restore_withRemarks remarks hscene)
        · intro first second _
          exact Or.inl rfl
      · obtain ⟨message, -, rfl⟩ := htold
        exact (congrArg Prod.snd (quiet.restore_withRemarks _ hscene)).symm

theorem Told.withFile (htold : quiet.Told told) (path : String)
    (found : Except ReadRefusal (List UInt8)) :
    (quiet.withFile path found).1.Told (told.withFile path found).1 ∧
      (quiet.withFile path found).2 = (told.withFile path found).2 := by
  rcases found with (_ | _) | bytes
  · exact ⟨htold, rfl⟩
  · exact ⟨htold, rfl⟩
  · simp only [Session.withFile, restoreBytes]
    cases Save.decode? bytes with
    | none => exact ⟨htold, rfl⟩
    | some save => exact htold.restore save

/-! ## Lines -/

theorem Told.interpret (htold : quiet.Told told) (line : String) :
    told.interpreter.interpret told.inventories line =
      ((quiet.outcomeOf line).told true,
        (quiet.interpreter.interpret quiet.inventories line).2) := by
  obtain ⟨message, -, rfl⟩ := htold
  exact quiet.interpreter.interpret_telling true quiet.inventories line

theorem Told.submit_outcome (htold : quiet.Told told) (line : String) :
    (told.submit line).1 = (quiet.submit line).1.told true := by
  rw [Session.submit_outcome, Session.submit_outcome, Session.outcomeOf, htold.interpret]

theorem foldl_meet_telling (requests : List HostRequest) (session : Session) :
    requests.foldl meet session.telling = (requests.foldl meet session).telling := by
  let change : Remarks → Remarks := fun remarks => { remarks with verbose := true }
  have hchange : ∀ remarks text, (change remarks).hearing text = change (remarks.hearing text) := by
    intro remarks text
    rfl
  exact foldl_meet_withRemarks hchange requests session

/-- After an accepted line there is no difference left in the messages. -/
theorem Told.submit_of_accepted (htold : quiet.Told told) {line : String}
    (haccepted : (quiet.submit line).1.verdict = .accepted) :
    (told.submit line).2 = (quiet.submit line).2.telling := by
  have htelling := htold.interpret line
  rw [outcomeOf] at htelling
  cases hinterpret : quiet.interpreter.interpret quiet.inventories line with
  | mk outcome after =>
      rw [quiet.submit_of_interpret hinterpret] at haccepted ⊢
      rw [hinterpret, Outcome.told_of_accepted haccepted] at htelling
      have hsettled : told.settled outcome after = (quiet.settled outcome after).telling := by
        obtain ⟨message, -, rfl⟩ := htold
        rfl
      rw [told.submit_of_interpret htelling, hsettled, foldl_meet_telling]

theorem Told.submit_of_refused (htold : quiet.Told told)
    (hquiet : quiet.interpreter.settings.verbose = false) {line : String} {refusal : Refusal}
    (hrefused : (quiet.submit line).1.verdict = .refused refusal) :
    (quiet.submit line).2.Told (told.submit line).2 := by
  have htelling : (told.submit line).1.verdict = .refused refusal := by
    rw [htold.submit_outcome, Outcome.verdict_told, hrefused]
  rw [quiet.submit_of_refused hrefused, told.submit_of_refused htelling]
  obtain ⟨message, -, rfl⟩ := htold
  refine ⟨some ("ERROR: " ++ refusal.message), Or.inr ⟨refusal, ?_, rfl⟩, rfl⟩
  simp [refusing, hquiet]

theorem Told.submit (htold : quiet.Told told)
    (hquiet : quiet.interpreter.settings.verbose = false) (line : String) :
    (quiet.submit line).2.Told (told.submit line).2 := by
  cases hverdict : (quiet.submit line).1.verdict with
  | accepted =>
      rw [htold.submit_of_accepted hverdict]
      exact told_telling _
  | refused refusal => exact htold.submit_of_refused hquiet hverdict

/-! ## Runs -/

theorem Told.perform (htold : quiet.Told told)
    (hquiet : quiet.interpreter.settings.verbose = false) (operation : Operation) :
    (quiet.perform operation).Told (told.perform operation) := by
  cases operation with
  | submit line => exact htold.submit hquiet line
  | restore save => exact (htold.restore save).1
  | load disk path =>
      simp only [Session.perform, run_load]
      exact (htold.withFile path _).1
  | invoke callback => exact htold.invoke callback
  | transition target => exact htold.enter target
  | render => exact htold.of_silent Session.render quiet.render_withRemarks
  | takeMessage =>
      obtain ⟨message, -, rfl⟩ := htold
      exact ⟨none, Or.inl rfl, rfl⟩
  | touch | add | remove =>
      obtain ⟨message, hmatch, rfl⟩ := htold
      exact ⟨message, hmatch, rfl⟩

theorem stable_quiet : Stable fun session => session.interpreter.settings.verbose = false := by
  constructor
  · intro session inventories flags message refusals hquiet
    exact hquiet
  · intro session id hquiet
    rw [enter_settings]
    exact hquiet

theorem Told.performAll (htold : quiet.Told told)
    (hquiet : quiet.interpreter.settings.verbose = false) (operations : List Operation) :
    (quiet.performAll operations).Told (told.performAll operations) := by
  induction operations generalizing quiet told with
  | nil => exact htold
  | cons operation rest ih =>
      apply ih
      · exact htold.perform hquiet operation
      · exact stable_quiet.perform hquiet operation

/-- The sessions agree but for what refused lines tell: an accepted line is answered alike, and a
refused one differs in its message alone.  What a callback says is heard alike, and scenes are
entered, saves restored and files loaded with the same result. -/
structure PlaysAlike (quiet told : Session) : Prop where
  scene : told.scene = quiet.scene
  registry : told.interpreter.registry = quiet.interpreter.registry
  inventories : told.inventories = quiet.inventories
  flags : told.flags = quiet.flags
  refusals : told.refusals = quiet.refusals
  message : MessagesMatch quiet.message told.message
  accepted : ∀ line, (quiet.submit line).1.verdict = .accepted →
    (told.submit line).1 = (quiet.submit line).1 ∧
      (told.submit line).2.message = (quiet.submit line).2.message
  refused : ∀ line refusal, (quiet.submit line).1.verdict = .refused refusal →
    (quiet.submit line).1.message = none ∧
      (told.submit line).1 =
        { (quiet.submit line).1 with message := some ("ERROR: " ++ refusal.message) }
  said : ∀ callback text, quiet.story.saidBy callback = some text →
    (quiet.invoke callback).message = some text ∧ (told.invoke callback).message = some text
  entered : ∀ id, (told.enter id).2 = (quiet.enter id).2
  restored : ∀ save, (told.restore save).2 = (quiet.restore save).2
  loaded : ∀ disk path, ((told.load path : StateM Disk _).run disk).1.2 =
    ((quiet.load path : StateM Disk _).run disk).1.2

theorem submit_message_of_refused (session : Session)
    (hquiet : session.interpreter.settings.verbose = false) {line : String} {refusal : Refusal}
    (hrefused : (session.submit line).1.verdict = .refused refusal) :
    (session.submit line).1.message = none := by
  rw [submit_outcome] at hrefused ⊢
  rw [session.outcomeOf_of_refused hrefused]
  simp [Interpreter.refuse, hquiet]

theorem message_invoke_of_saidBy (session : Session) {callback text : String}
    (hsaid : session.story.saidBy callback = some text) :
    (session.invoke callback).message = some text := by
  have hremarks := session.remarks_meet (.invoke callback)
  have hmessage := congrArg Remarks.message hremarks
  rw [Story.saidAt, hsaid] at hmessage
  exact hmessage

theorem Told.playsAlike (htold : quiet.Told told)
    (hquiet : quiet.interpreter.settings.verbose = false) : quiet.PlaysAlike told := by
  have haccepted : ∀ line, (quiet.submit line).1.verdict = .accepted →
      (told.submit line).1 = (quiet.submit line).1 ∧
        (told.submit line).2.message = (quiet.submit line).2.message := by
    intro line haccepted
    constructor
    · rw [htold.submit_outcome, Outcome.told_of_accepted haccepted]
    · rw [htold.submit_of_accepted haccepted, telling_message]
  have hrefused : ∀ line refusal, (quiet.submit line).1.verdict = .refused refusal →
      (quiet.submit line).1.message = none ∧
        (told.submit line).1 =
          { (quiet.submit line).1 with message := some ("ERROR: " ++ refusal.message) } := by
    intro line refusal hrefused
    constructor
    · exact quiet.submit_message_of_refused hquiet hrefused
    · rw [htold.submit_outcome, Outcome.told_of_refused hrefused]
  have hentered : ∀ id, (told.enter id).2 = (quiet.enter id).2 := by
    intro id
    obtain ⟨message, -, rfl⟩ := htold
    rw [enter_withRemarks]
  have hrestored : ∀ save, (told.restore save).2 = (quiet.restore save).2 := by
    intro save
    exact (htold.restore save).2.symm
  have hloaded : ∀ disk path, ((told.load path : StateM Disk _).run disk).1.2 =
      ((quiet.load path : StateM Disk _).run disk).1.2 := by
    intro disk path
    rw [run_load, run_load]
    exact (htold.withFile path _).2.symm
  obtain ⟨message, hmatch, rfl⟩ := htold
  refine ⟨rfl, rfl, rfl, rfl, rfl, hmatch, haccepted, hrefused, ?_, hentered, hrestored, hloaded⟩
  intro callback text hsaid
  exact ⟨message_invoke_of_saidBy _ hsaid, message_invoke_of_saidBy _ hsaid⟩

/-- A story that passes its check is played alike by players who want to be told why lines are
refused and by those who do not: whatever is done in both games, they go through the same states
and give the same answers, up to what refused lines tell. -/
theorem playsAlike_performAll (story : Story) (settings : Settings)
    (hcheck : story.check = .ok ()) :
    ∃ quiet told, start story { settings with verbose := false } = .ok quiet ∧
      start story { settings with verbose := true } = .ok told ∧
      ∀ operations, (quiet.performAll operations).PlaysAlike (told.performAll operations) := by
  obtain ⟨scene, hscene, hstart⟩ := start_of_check { settings with verbose := false } hcheck
  obtain ⟨other, hother, hstarted⟩ := start_of_check { settings with verbose := true } hcheck
  obtain rfl := Option.some.inj (hscene.symm.trans hother)
  refine ⟨_, _, hstart, hstarted, ?_⟩
  intro operations
  let quiet := (opening story { settings with verbose := false }).inScene scene
  have htold := (told_telling quiet).performAll rfl operations
  have hquiet : (quiet.performAll operations).interpreter.settings.verbose = false :=
    stable_quiet.performAll operations rfl
  exact htold.playsAlike hquiet

theorem playsAlike_performAll_clumsyRun :
    houseStory.check = .ok () ∧ start houseStory {} = .ok houseSession ∧
      start houseStory { verbose := true } = .ok toldSession ∧
      (houseSession.performAll clumsyRun).PlaysAlike (toldSession.performAll clumsyRun) ∧
      (houseSession.performAll clumsyRun).message = none ∧
      (toldSession.performAll clumsyRun).message =
        some "ERROR: No valid subjects found in the command." := by
  have hcheck : houseStory.check = .ok () := rfl
  have hquiet : start houseStory {} = .ok houseSession := rfl
  have htold : start houseStory { verbose := true } = .ok toldSession := rfl
  obtain ⟨quiet, told, hfirst, hsecond, halike⟩ := playsAlike_performAll houseStory {} hcheck
  obtain rfl := Except.ok.inj (hquiet.symm.trans hfirst)
  obtain rfl := Except.ok.inj (htold.symm.trans hsecond)
  exact ⟨hcheck, hquiet, htold, halike clumsyRun, by decide, by decide⟩

end Session

end TextAdventure
