import TextAdventure.Proofs.Coherence
import TextAdventure.Proofs.Deeds

/-!
# References that lead somewhere

A session passes over a callback that is not declared and a scene that cannot be entered.  In a
story that passes its check there is nothing to pass over: whatever a line asks for stems from a
subject of the story, and what the subjects and callbacks of the story refer to is declared.  A
session that stops at the first fault therefore does the same as one that passes over faults.
-/

namespace TextAdventure

/-! ## Where requests stem from -/

theorem Registry.mem_of_mem_mentioned {registry : Registry} {text : String} {subject : Subject}
    (hsubject : subject ∈ registry.mentioned text) : subject ∈ registry.subjects := by
  unfold mentioned at hsubject
  dsimp only at hsubject
  split at hsubject
  · cases hsubject
  · exact List.mem_of_mem_filter hsubject

/-- A line names subjects at hand only. -/
theorem Command.mem_of_mem_ofLine {registry : Registry} {line : String} {subject : Subject}
    (hsubject : subject ∈ (Command.ofLine registry line).subjects) :
    subject ∈ registry.subjects := by
  simp only [Command.ofLine] at hsubject
  exact Registry.mem_of_mem_mentioned hsubject

theorem Subject.mem_uses_of_pairing? {first second : Subject} {entry : Pairing}
    (hpairing : first.pairing? second = some entry) :
    entry ∈ first.uses ∨ entry ∈ second.uses := by
  rcases Option.or_eq_some_iff.mp hpairing with hfirst | ⟨-, hsecond⟩
  · exact Or.inl (List.mem_of_find?_eq_some hfirst)
  · exact Or.inr (List.mem_of_find?_eq_some hsecond)

theorem Registry.exists_of_customAction? {registry : Registry} {verb : String}
    {subject : Subject} {custom : CustomAction}
    (hcustom : registry.customAction? verb subject = some custom) :
    ∃ own ∈ registry.subjects, custom ∈ own.customActions := by
  obtain ⟨own, hown, hfound⟩ := Option.bind_eq_some_iff.mp hcustom
  exact ⟨own, List.mem_of_find?_eq_some hown, List.mem_of_find?_eq_some hfound⟩

namespace Interpreter

variable {interpreter : Interpreter} {inventories : Inventories} {command : Command}
variable {deed : Deed} {outcome : Outcome} {after : Inventories}

/-- A callback that a deed asks for is one of a subject at hand. -/
theorem Performs.exists_trigger
    (hdeed : interpreter.Performs inventories command deed outcome after)
    (hsubjects : ∀ subject ∈ command.subjects, subject ∈ interpreter.registry.subjects)
    {callback : String} (hcallback : outcome.callback = some callback) :
    ∃ subject ∈ interpreter.registry.subjects, callback ∈ subject.triggers := by
  cases hdeed with
  | @remember subject remember hsole hremember =>
      refine ⟨subject, hsubjects subject (by simp [hsole]), ?_⟩
      have htrigger : remember.trigger = some callback := hcallback
      simp [Subject.triggers, hremember, htrigger]
  | @use first second entry hpair hpairing =>
      have htrigger : entry.trigger = some callback := hcallback
      rcases Subject.mem_uses_of_pairing? hpairing with huse | huse
      · refine ⟨first, hsubjects first (by simp [hpair]), ?_⟩
        have hmem := List.mem_filterMap.mpr ⟨entry, huse, htrigger⟩
        simp [Subject.triggers, hmem]
      · refine ⟨second, hsubjects second (by simp [hpair]), ?_⟩
        have hmem := List.mem_filterMap.mpr ⟨entry, huse, htrigger⟩
        simp [Subject.triggers, hmem]
  | @custom subject custom hsole hcustom =>
      -- The action is that of the subject registered under the name, whichever that is.
      obtain ⟨own, hown, hfound⟩ := Registry.exists_of_customAction? hcustom
      have htrigger : custom.trigger = some callback := hcallback
      have hmem := List.mem_filterMap.mpr ⟨custom, hfound, htrigger⟩
      exact ⟨own, hown, by simp [Subject.triggers, hmem]⟩
  | go | look | leave | take | drop | forget | help => cases hcallback

/-- A scene that a deed asks for is one to which a subject of the command leads. -/
theorem Performs.exists_exit
    (hdeed : interpreter.Performs inventories command deed outcome after)
    {target : String} (hscene : outcome.scene = some (.transition target)) :
    ∃ subject ∈ command.subjects, subject.go = some target := by
  cases hdeed with
  | @go subject exit hsole hgo =>
      obtain rfl := SceneRequest.transition.inj (Option.some.inj hscene)
      exact ⟨subject, by simp [hsole], hgo⟩
  | look | leave | take | remember | drop | forget | use | help | custom => cases hscene

/-- A command on subjects at hand asks for callbacks and scenes of subjects at hand only. -/
theorem requests_of_run (interpreter : Interpreter) (inventories : Inventories)
    (command : Command)
    (hsubjects : ∀ subject ∈ command.subjects, subject ∈ interpreter.registry.subjects) :
    (∀ callback, (interpreter.run inventories command).1.callback = some callback →
      ∃ subject ∈ interpreter.registry.subjects, callback ∈ subject.triggers) ∧
    ∀ target, (interpreter.run inventories command).1.scene = some (.transition target) →
      ∃ subject ∈ interpreter.registry.subjects, subject.go = some target := by
  rcases interpreter.run_cases inventories command with
    ⟨deed, outcome, after, -, hdeed, hrun⟩ | ⟨held, -, -, hrun⟩ | ⟨-, hrun⟩
  · rw [hrun]
    constructor
    · intro callback hcallback
      exact hdeed.exists_trigger hsubjects hcallback
    · intro target hscene
      obtain ⟨subject, hsubject, hgo⟩ := hdeed.exists_exit hscene
      exact ⟨subject, hsubjects subject hsubject, hgo⟩
  · simp [hrun, refuse]
  · simp [hrun, refuse]

end Interpreter

/-! ## Stopping at the first fault -/

/-- Does one effect, or stops where the scene that it asks for cannot be entered. -/
def CallbackRun.stepOrFault (run : CallbackRun) (effect : Effect) : Except Fault CallbackRun :=
  match effect with
  | .goto target => (run.session.enter target).2.map fun _ => run.step (.goto target)
  | effect => .ok (run.step effect)

/-- The session after the last effect, unless what changed cannot be shown. -/
def CallbackRun.finishOrFault (run : CallbackRun) : Except Fault Session :=
  if run.changed && !run.moved then
    (run.session.enter run.session.scene).2.map fun _ => run.finish
  else .ok run.finish

namespace Session

/-- Runs a callback, or stops where it is not declared or an effect of it is at fault. -/
def invokeOrFault (session : Session) (callback : String) : Except Fault Session :=
  match session.story.callback? callback with
  | none => .error { kind := .unknownCallback callback }
  | some effects => do
    let run ← effects.foldlM CallbackRun.stepOrFault { session }
    run.finishOrFault

/-- Meets a request of a command, or stops where `meet` passes over a fault. -/
def meetOrFault (session : Session) : HostRequest → Except Fault Session
  | .invoke callback => session.invokeOrFault callback
  | .enter target => (session.enter target).2.map fun _ => session.transition target
  | .render => (session.enter session.scene).2.map fun _ => session.render

/-- Submits a line, or stops where `submit` passes over a fault. -/
def submitOrFault (session : Session) (line : String) : Except Fault (Outcome × Session) := do
  let outcome := session.outcomeOf line
  let after ← outcome.requests.foldlM meetOrFault (session.interpreted line)
  return (outcome, after)

end Session

/-! ## Nothing to stop at -/

/-- A fold whose steps may fail is a plain fold when no step fails. -/
theorem foldlM_eq_ok_foldl {ε α β : Type} {step : β → α → Except ε β} {plain : β → α → β}
    {motive : β → Prop} {items : List α}
    (hstep : ∀ state item, item ∈ items → motive state →
      step state item = .ok (plain state item) ∧ motive (plain state item))
    (state : β) (hstate : motive state) :
    items.foldlM step state = .ok (items.foldl plain state) := by
  induction items generalizing state with
  | nil => rfl
  | cons item rest ih =>
      obtain ⟨hfirst, hnext⟩ := hstep state item (by simp) hstate
      have hrest := ih (fun state other hother => hstep state other (by simp [hother]))
        (plain state item) hnext
      rw [List.foldlM_cons, hfirst, List.foldl_cons]
      exact hrest

namespace Session

variable {story : Story}

/-- The session plays the story, and stands in one of its scenes. -/
def Plays (story : Story) (session : Session) : Prop :=
  session.story = story ∧ ∃ scene, story.scene? session.scene = some scene

theorem stable_plays (hwell : story.WellFormed) : Stable (Plays story) := by
  constructor
  · intro session inventories flags message refusals hplays
    exact hplays
  · rintro session id ⟨rfl, hplace⟩
    cases hscene : session.story.scene? id with
    | none =>
        rw [session.enter_of_undeclared hscene]
        exact ⟨rfl, hplace⟩
    | some scene =>
        rw [session.enter_of_declared hwell hscene]
        refine ⟨rfl, scene, ?_⟩
        rw [inScene_scene, (Story.mem_scenes_of_scene? hscene).2]
        exact hscene

theorem Plays.enter_eq_ok {session : Session} (hplays : Plays story session)
    (hwell : story.WellFormed) {id : String}
    (hdeclared : ∃ scene, story.scene? id = some scene) : (session.enter id).2 = .ok () := by
  obtain ⟨rfl, -⟩ := hplays
  obtain ⟨scene, hscene⟩ := hdeclared
  rw [session.enter_of_declared hwell hscene]

/-- A callback of the story runs without a fault. -/
theorem Plays.invokeOrFault_eq {session : Session} (hplays : Plays story session)
    (hwell : story.WellFormed) {callback : String}
    (hdeclared : ∃ effects, story.callback? callback = some effects) :
    session.invokeOrFault callback = .ok (session.invoke callback) := by
  have hstable := stable_plays hwell
  obtain ⟨effects, hcallback⟩ := hdeclared
  have hsession : session.story.callback? callback = some effects := by
    rw [hplays.1, hcallback]
  have hfold : effects.foldlM CallbackRun.stepOrFault { session } =
      .ok (effects.foldl CallbackRun.step { session }) := by
    refine foldlM_eq_ok_foldl (motive := fun run => Plays story run.session) ?_ _ hplays
    intro run effect heffect hrun
    refine ⟨?_, hstable.step hrun effect⟩
    cases effect with
    | goto target =>
        have henter := hrun.enter_eq_ok hwell (hwell.exists_scene?_of_goto hcallback heffect)
        simp [CallbackRun.stepOrFault, henter, Except.map]
    | say | setFlag | clearFlag | give | discard => rfl
  have hlast : Plays story (effects.foldl CallbackRun.step { session }).session :=
    hstable.foldl_step effects { session } hplays
  have hshown := hlast.enter_eq_ok hwell hlast.2
  simp only [invokeOrFault, invoke, hsession, hfold, bind, Except.bind,
    CallbackRun.finishOrFault, hshown, Except.map, ite_self]

/-- What a request asks for is declared by the story. -/
def RequestDeclared (story : Story) : HostRequest → Prop
  | .invoke callback => ∃ effects, story.callback? callback = some effects
  | .enter target => ∃ scene, story.scene? target = some scene
  | .render => True

theorem Plays.meetOrFault_eq {session : Session} (hplays : Plays story session)
    (hwell : story.WellFormed) {request : HostRequest}
    (hdeclared : RequestDeclared story request) :
    session.meetOrFault request = .ok (session.meet request) := by
  cases request with
  | invoke callback => exact hplays.invokeOrFault_eq hwell hdeclared
  | enter target =>
      have henter := hplays.enter_eq_ok hwell hdeclared
      simp [meetOrFault, meet, henter, Except.map]
  | render =>
      have henter := hplays.enter_eq_ok hwell hplays.2
      simp [meetOrFault, meet, henter, Except.map]

/-- What the subjects at hand refer to is declared. -/
theorem Coherent.references_declared {session : Session} (hcoherent : session.Coherent)
    (hwell : session.story.WellFormed) {subject : Subject}
    (hsubject : subject ∈ session.interpreter.registry.subjects) :
    (∀ callback ∈ subject.triggers,
      ∃ effects, session.story.callback? callback = some effects) ∧
    ∀ target, subject.go = some target →
      ∃ scene, session.story.scene? target = some scene := by
  obtain ⟨scene, hscene, hsublist, -⟩ := hcoherent
  have hdeclared := (Story.mem_scenes_of_scene? hscene).1
  obtain ⟨placement, hplacement, rfl⟩ := List.mem_map.mp (hsublist.subset hsubject)
  constructor
  · intro callback hcallback
    have hcontains := hwell.triggersDeclared scene hdeclared placement hplacement callback hcallback
    exact Option.isSome_iff_exists.mp hcontains
  · intro target hgo
    exact Story.exists_scene?_of_mem
      (hwell.exitsDeclared scene hdeclared placement hplacement target hgo)

/-- What a line asks for is declared. -/
theorem Coherent.outcome_declared {session : Session} (hcoherent : session.Coherent)
    (hwell : session.story.WellFormed) (line : String) :
    (∀ callback, (session.outcomeOf line).callback = some callback →
      ∃ effects, session.story.callback? callback = some effects) ∧
    ∀ target, (session.outcomeOf line).scene = some (.transition target) →
      ∃ scene, session.story.scene? target = some scene := by
  have hrequests := session.interpreter.requests_of_run session.inventories
    (.ofLine session.interpreter.registry line)
    (fun subject hsubject => Command.mem_of_mem_ofLine hsubject)
  rw [← Interpreter.interpret, ← outcomeOf] at hrequests
  constructor
  · intro callback hcallback
    obtain ⟨subject, hsubject, htrigger⟩ := hrequests.1 callback hcallback
    exact (hcoherent.references_declared hwell hsubject).1 callback htrigger
  · intro target hscene
    obtain ⟨subject, hsubject, hgo⟩ := hrequests.2 target hscene
    exact (hcoherent.references_declared hwell hsubject).2 target hgo

theorem Coherent.submitOrFault_eq {session : Session} (hcoherent : session.Coherent)
    (hwell : session.story.WellFormed) (line : String) :
    session.submitOrFault line = .ok (session.submit line) := by
  obtain ⟨hcallbacks, hscenes⟩ := hcoherent.outcome_declared hwell line
  have hdeclared : ∀ request ∈ (session.outcomeOf line).requests,
      RequestDeclared session.story request := by
    intro request hrequest
    simp only [Outcome.requests, List.mem_append, Option.mem_toList, Option.map_eq_some_iff]
      at hrequest
    rcases hrequest with ⟨callback, hcallback, rfl⟩ | ⟨scene, hscene, rfl⟩
    · exact hcallbacks callback hcallback
    · cases scene with
      | transition target => exact hscenes target hscene
      | rerender => trivial
  have hstable := stable_plays hwell
  have hplays : Plays session.story (session.interpreted line) := by
    obtain ⟨scene, hscene, -⟩ := hcoherent
    exact hstable.change session _ _ _ _ ⟨rfl, scene, hscene⟩
  have hfold : (session.outcomeOf line).requests.foldlM meetOrFault (session.interpreted line) =
      .ok ((session.outcomeOf line).requests.foldl meet (session.interpreted line)) := by
    refine foldlM_eq_ok_foldl (motive := Plays session.story) ?_ _ hplays
    intro state request hrequest hstate
    exact ⟨hstate.meetOrFault_eq hwell (hdeclared request hrequest),
      hstable.meet hstate request⟩
  rw [submit_eq]
  simp only [submitOrFault, hfold, bind, Except.bind, pure, Except.pure]

/-- In a story that passes its check no reference goes astray while a line is submitted: the
callback that the line asks for is declared, and so is every scene that this callback or the line
itself enters.  Stopping at the first fault is the same as passing over faults, as there is
none. -/
theorem submitOrFault_eq_submit {story : Story} {settings : Settings}
    (hcheck : story.check = .ok ()) {session : Session}
    (hreach : Reachable story settings session) (line : String) :
    (∀ callback, (session.submit line).1.callback = some callback →
      ∃ effects, story.callback? callback = some effects ∧
        ∀ target, Effect.goto target ∈ effects →
          ∃ scene, story.scene? target = some scene) ∧
    (∀ target, (session.submit line).1.scene = some (.transition target) →
      ∃ scene, story.scene? target = some scene) ∧
    session.submitOrFault line = .ok (session.submit line) := by
  obtain ⟨hwell, hfilled⟩ := filled_of_reachable hcheck hreach
  have hcoherent := hfilled.coherent hwell
  obtain ⟨rfl, -⟩ := plays_of_reachable hcheck hreach
  have hsubmit := hcoherent.submitOrFault_eq hwell line
  have houtcome : (session.submit line).1 = session.outcomeOf line := by
    rw [submit_eq]
  obtain ⟨hcallbacks, hscenes⟩ := hcoherent.outcome_declared hwell line
  rw [houtcome]
  refine ⟨?_, hscenes, hsubmit⟩
  intro callback hcallback
  obtain ⟨effects, heffects⟩ := hcallbacks callback hcallback
  refine ⟨effects, heffects, ?_⟩
  intro target hgoto
  exact hwell.exists_scene?_of_goto heffects hgoto

/-- A hall with a lever that opens the floor. -/
def leverHall : Scene where
  id := "hall"
  placements := [
    { subject := {
        name := "lever", keywords := ["lever"]
        customActions := [{ verbs := ["pull"], trigger := some "fall" }] } }]

/-- The hall above a cellar, from where a ladder leads back. -/
def leverStory : Story where
  start := "hall"
  scenes := [leverHall, {
    id := "cellar"
    placements := [
      { subject := { name := "ladder", keywords := ["ladder"], go := some "hall" } }] }]
  callbacks := .ofList [("fall", [.say "You fall.", .goto "cellar", .setFlag "open"])]

/-- The hall when the story has just begun. -/
def leverSession : Session := (opening leverStory {}).inScene leverHall

theorem submitOrFault_eq_submit_lever :
    leverStory.check = .ok () ∧ Reachable leverStory {} leverSession ∧
      (leverSession.submit "pull lever").1.callback = some "fall" ∧
      (∃ effects, leverStory.callback? "fall" = some effects ∧
        ∀ target, Effect.goto target ∈ effects →
          ∃ scene, leverStory.scene? target = some scene) ∧
      leverSession.submitOrFault "pull lever" = .ok (leverSession.submit "pull lever") := by
  have hcheck : leverStory.check = .ok () := rfl
  have hreach : Reachable leverStory {} leverSession := ⟨leverSession, [], rfl, rfl⟩
  have hcallback : (leverSession.submit "pull lever").1.callback = some "fall" := by decide
  obtain ⟨hcallbacks, -, hsubmit⟩ := submitOrFault_eq_submit hcheck hreach "pull lever"
  exact ⟨hcheck, hreach, hcallback, hcallbacks "fall" hcallback, hsubmit⟩

end Session

end TextAdventure
