import TextAdventure.Proofs.Runs

/-!
# Coherent sessions

At every point of a run the subjects at hand are those of the current scene that were there when it
was last entered.  They may be out of date, but they are never cut short, and never belong to
another scene.
-/

namespace TextAdventure

namespace Session

/-- The current scene is declared, and the subjects at hand are some of its subjects in the order
of the story, no two under one name. -/
def Coherent (session : Session) : Prop :=
  ∃ scene, session.story.scene? session.scene = some scene ∧
    session.interpreter.registry.subjects.Sublist (scene.placements.map (·.subject)) ∧
    (session.interpreter.registry.subjects.map (·.name)).Nodup

/-- For some flags and some inventories, the subjects at hand are all that are there. -/
def Filled (session : Session) : Prop :=
  ∃ inventories flags, InSync { session with inventories, flags }

theorem Filled.coherent {session : Session} (hfilled : session.Filled)
    (hwell : session.story.WellFormed) : session.Coherent := by
  obtain ⟨inventories, flags, scene, hscene, hsubjects⟩ := hfilled
  have hsublist := present_sublist { session with inventories, flags } scene
  have hnames := present_names_nodup { session with inventories, flags } hwell hscene
  rw [← hsubjects] at hsublist hnames
  exact ⟨scene, hscene, hsublist, hnames⟩

/-- Entering a scene, declared or not, leaves a session filled. -/
theorem Filled.enter {session : Session} (hfilled : session.Filled)
    (hwell : session.story.WellFormed) (id : String) : (session.enter id).1.Filled := by
  cases hscene : session.story.scene? id with
  | none =>
      rw [session.enter_of_undeclared hscene]
      exact hfilled
  | some scene =>
      rw [session.enter_of_declared hwell hscene]
      exact ⟨session.inventories, session.flags, session.inSync_inScene hscene⟩

theorem stable_filled : Stable fun session => session.story.WellFormed ∧ session.Filled := by
  constructor
  · intro session inventories flags message refusals hsession
    exact hsession
  · intro session id hsession
    exact ⟨by simpa using hsession.1, hsession.2.enter hsession.1 id⟩

theorem filled_of_reachable {story : Story} {settings : Settings} (hcheck : story.check = .ok ())
    {session : Session} (hreach : Reachable story settings session) :
    session.story.WellFormed ∧ session.Filled := by
  refine stable_filled.of_reachable ?_ hreach
  intro first hfirst
  obtain ⟨scene, hscene, hstart⟩ := start_of_check settings hcheck
  rw [hstart] at hfirst
  obtain rfl := Except.ok.inj hfirst
  have hsync := (opening story settings).inSync_inScene hscene
  exact ⟨story.check_eq_ok_iff.mp hcheck, _, _, hsync⟩

/-- A story that passes its check starts.  Whatever was done before, registering the subjects of a
declared scene succeeds and the scene is entered completely, an undeclared one changes nothing, and
every session that is reached is coherent and filled. -/
theorem coherent_of_reachable (story : Story) (settings : Settings)
    (hcheck : story.check = .ok ()) :
    (∃ first, start story settings = .ok first) ∧
      (∀ moment : Session, moment.story = story →
        (∀ id scene, story.scene? id = some scene →
          (moment.interpreter.beginScene.register (moment.present scene)).2 = .ok () ∧
            moment.enter id = (moment.inScene scene, .ok ())) ∧
        ∀ id, story.scene? id = none →
          moment.enter id = (moment, .error { kind := .unknownScene id })) ∧
      ∀ session, Reachable story settings session →
        session.story = story ∧ session.Coherent ∧ session.Filled := by
  have hwell := story.check_eq_ok_iff.mp hcheck
  refine ⟨?_, ?_, ?_⟩
  · obtain ⟨scene, -, hstart⟩ := start_of_check settings hcheck
    exact ⟨_, hstart⟩
  · rintro moment rfl
    constructor
    · intro id scene hscene
      have hregister := moment.register_present hwell hscene
      exact ⟨congrArg Prod.snd hregister, moment.enter_of_declared hwell hscene⟩
    · intro id hscene
      exact moment.enter_of_undeclared hscene
  · intro session hreach
    obtain ⟨hstory, hfilled⟩ := filled_of_reachable hcheck hreach
    exact ⟨(plays_of_reachable hcheck hreach).1, hfilled.coherent hstory, hfilled⟩

/-- A hall with stairs and a key. -/
def hall : Scene where
  id := "hall"
  placements := [
    { subject := { name := "stairs", keywords := ["stairs"], go := some "cellar" } },
    { subject := { name := "key", keywords := ["key"], take := some { enabled := true } }
      hiddenWhenHeld := true }]

/-- A hall with a key, and a cellar with a lamp into which one falls. -/
def houseStory : Story where
  start := "hall"
  scenes := [hall, {
    id := "cellar"
    placements := [
      { subject := { name := "lamp", keywords := ["lamp"] }, unlessFlag := some "dark" }] }]
  callbacks := .ofList [
    ("fall", [.goto "cellar", .setFlag "dark", .goto "hall", .goto "cellar"])]

/-- An attempt to enter a scene that does not exist, and one to restore it; then the key is taken,
and one falls. -/
def houseRun : List Operation :=
  [.transition "attic", .restore ⟨"attic", .empty, .empty⟩, .submit "take key", .invoke "fall"]

theorem coherent_of_reachable_houseRun :
    houseStory.check = .ok () ∧ ∃ first, start houseStory {} = .ok first ∧
      (first.performAll houseRun).story = houseStory ∧
        (first.performAll houseRun).Coherent ∧ (first.performAll houseRun).Filled := by
  have hcheck : houseStory.check = .ok () := rfl
  obtain ⟨⟨first, hstart⟩, -, hreached⟩ := coherent_of_reachable houseStory {} hcheck
  exact ⟨hcheck, first, hstart, hreached _ ⟨first, houseRun, hstart, rfl⟩⟩

end Session

end TextAdventure
