import TextAdventure.Proofs.Coherence
import TextAdventure.Proofs.Remarks
import TextAdventure.Proofs.SaveRoundTrip

/-!
# Loading what was saved

The current scene of a session that is reached is declared, and a save is read back from its bytes.
So what such a session saves can be loaded into every session of the story, and from then on nothing
tells what that session went through before, except its count of refusals.
-/

namespace TextAdventure

namespace Session

/-! ## The count of refusals -/

/-- The session with another count of refusals. -/
def counting (session : Session) (refusals : ℕ) : Session :=
  { session with refusals }

@[simp] theorem counting_message (session : Session) (refusals : ℕ) :
    (session.counting refusals).message = session.message := rfl

@[simp] theorem counting_visible (session : Session) (refusals : ℕ) :
    (session.counting refusals).visible = session.visible := rfl

@[simp] theorem counting_snapshot (session : Session) (refusals : ℕ) :
    (session.counting refusals).snapshot = session.snapshot := rfl

@[simp] theorem counting_refusals (session : Session) (refusals : ℕ) :
    (session.counting refusals).refusals = refusals := rfl

theorem foldl_meet_counting (requests : List HostRequest) (session : Session) (refusals : ℕ) :
    requests.foldl meet (session.counting refusals) =
      (requests.foldl meet session).counting refusals := by
  let change : Remarks → Remarks := fun remarks => { remarks with refusals }
  have hchange : ∀ remarks text, (change remarks).hearing text = change (remarks.hearing text) := by
    intro remarks text
    rfl
  exact foldl_meet_withRemarks hchange requests session

/-- A line leads to the same at every count of refusals, and adds the same to it. -/
theorem submit_counting (session : Session) (refusals : ℕ) (line : String) :
    (session.counting refusals).submit line =
      ((session.submit line).1, (session.submit line).2.counting
        (refusals + (session.submit line).1.isRefused.toNat)) := by
  simp only [submit_eq, ← foldl_meet_counting]
  simp only [interpreted, outcomeOf, counting]

/-! ## What the answers to lines show -/

/-- What the answer to a line shows: its outcome, the message, what is to be seen then, and the
progress made. -/
structure Answer where
  outcome : Outcome
  message : Option String
  visible : List String
  progress : Save
  deriving DecidableEq

/-- The answers to lines that are submitted one after another. -/
def answers (session : Session) : List String → List Answer
  | [] => []
  | line :: rest =>
    let result := session.submit line
    { outcome := result.1
      message := result.2.message
      visible := result.2.visible
      progress := result.2.snapshot } :: result.2.answers rest

/-- The session after lines that are submitted one after another. -/
def submitAll (session : Session) (lines : List String) : Session :=
  lines.foldl (fun session line => (session.submit line).2) session

/-- The answers do not depend on the count of refusals. -/
theorem answers_counting (session : Session) (refusals : ℕ) (lines : List String) :
    (session.counting refusals).answers lines = session.answers lines := by
  induction lines generalizing session refusals with
  | nil => rfl
  | cons line rest ih =>
      have hfirst := session.submit_counting refusals line
      have hrest := ih (session.submit line).2
      simp only [answers, hfirst, hrest, counting_message, counting_visible, counting_snapshot]

/-- Lines add as much to every count of refusals. -/
theorem submitAll_counting (session : Session) (lines : List String) :
    ∃ count, ∀ refusals, (session.counting refusals).submitAll lines =
      (session.submitAll lines).counting (refusals + count) := by
  induction lines generalizing session with
  | nil => exact ⟨0, fun refusals => rfl⟩
  | cons line rest ih =>
      obtain ⟨count, hrest⟩ := ih (session.submit line).2
      refine ⟨(session.submit line).1.isRefused.toNat + count, ?_⟩
      intro refusals
      have hfirst := session.submit_counting refusals line
      simp only [submitAll] at hrest
      simp only [submitAll, List.foldl_cons, hfirst, hrest, Nat.add_assoc]

/-! ## Saving and loading -/

section Files

variable {σ : Type} [Files (StateM σ)]

/-- Saving writes the bytes of the progress, whatever the file system, and does nothing else to the
files. -/
theorem run_save (session : Session) (path : String) (files : σ) :
    (session.save path : StateM σ _).run files =
      let written := (Files.writeFile path session.snapshot.encode : StateM σ _).run files
      (written.1.mapError fun refusal => { kind := .file refusal.act path }, written.2) := rfl

/-- A save that succeeds leaves its bytes in the file. -/
theorem reading_of_save (session : Session) {path : String}
    (hreadsBack : Files.ReadsBack σ path) {files saved : σ}
    (hsave : (session.save path : StateM σ _).run files = (.ok (), saved)) :
    Files.reading path saved = .ok session.snapshot.encode := by
  rcases hwrite : (Files.writeFile path session.snapshot.encode : StateM σ _).run files with
    ⟨result, left⟩
  rw [run_save, hwrite] at hsave
  obtain ⟨hresult, rfl⟩ := Prod.mk.inj hsave
  cases result with
  | ok => exact hreadsBack _ files left hwrite
  | error refusal => cases hresult

/-- The session with the progress of a save, before its scene is entered. -/
def withProgress (session : Session) (save : Save) : Session :=
  { session with inventories := save.inventories, flags := save.flags, message := none }

/-- A save of a declared scene is restored completely. -/
theorem restore_of_declared (session : Session) (hwell : session.story.WellFormed) {save : Save}
    {scene : Scene} (hscene : session.story.scene? save.scene = some scene) :
    session.restore save = ((session.withProgress save).inScene scene, .ok ()) := by
  have henter : (session.withProgress save).enter save.scene =
      ((session.withProgress save).inScene scene, .ok ()) :=
    (session.withProgress save).enter_of_declared hwell hscene
  rw [withProgress] at henter
  simp only [restore, hscene, henter, withProgress]

/-- A file with a save of a declared scene is loaded, and the scene is entered. -/
theorem load_of_reading (session : Session) (hwell : session.story.WellFormed) {save : Save}
    (hfits : save.Fits) {scene : Scene} (hscene : session.story.scene? save.scene = some scene)
    {path : String} {files : σ} (hread : Files.reading path files = .ok save.encode) :
    (session.load path : StateM σ _).run files =
      (((session.withProgress save).inScene scene, .ok ()),
        ((Files.readFile path : StateM σ _).run files).2) := by
  have hdecode : Save.decode? save.encode = some save := by
    simpa using Save.decode?_encode_append hfits []
  have hrestore := session.restore_of_declared hwell hscene
  rw [run_load, hread]
  simp only [withFile, restoreBytes, hdecode, hrestore]

end Files

/-- Of what a session went through, only the count of refusals is left when a save is loaded. -/
theorem inScene_withProgress_eq_counting {first second : Session}
    (hstory : first.story = second.story)
    (hsettings : first.interpreter.settings = second.interpreter.settings) (save : Save)
    (scene : Scene) :
    (first.withProgress save).inScene scene =
      ((second.withProgress save).inScene scene).counting first.refusals := by
  have hpresent : (first.withProgress save).present scene =
      (second.withProgress save).present scene := by
    apply present_congr
    · intro flag
      rfl
    · rfl
    · exact hsettings
  simp only [inScene, counting, hpresent]
  simp [withProgress, hstory, hsettings]

/-- What a session has saved is loaded into every session of the story, from every file system that
reads back what was written.  The scene, what is held and the flags are those of the session that
was saved, and there is no message.  Whatever was done before, and in whichever session of the story
the file is loaded, all lines are answered alike from then on, and the counts of refusals grow by
the same. -/
theorem load_of_save {σ : Type} [Files (StateM σ)] {story : Story} {settings : Settings}
    (hcheck : story.check = .ok ()) {first second : Session}
    (hfirst : Reachable story settings first) (hsecond : Reachable story settings second)
    (hfits : first.snapshot.Fits) {path : String} (hreadsBack : Files.ReadsBack σ path)
    {files saved later : σ}
    (hsave : (first.save path : StateM σ _).run files = (.ok (), saved))
    (huntouched : Files.reading path later = Files.reading path saved) :
    ∃ resumed, (second.load path : StateM σ _).run later =
        ((resumed, .ok ()), ((Files.readFile path : StateM σ _).run later).2) ∧
      resumed.scene = first.scene ∧ resumed.inventories = first.inventories ∧
      resumed.flags = first.flags ∧ resumed.snapshot = first.snapshot ∧
      resumed.message = none ∧
      ∀ third : Session, third.story = story → third.interpreter.settings = settings →
        ∀ other : σ, Files.reading path other = Files.reading path saved →
          ∃ alike, (third.load path : StateM σ _).run other =
              ((alike, .ok ()), ((Files.readFile path : StateM σ _).run other).2) ∧
            ∀ lines, alike.answers lines = resumed.answers lines ∧
              ∃ count, (resumed.submitAll lines).refusals = second.refusals + count ∧
                (alike.submitAll lines).refusals = third.refusals + count := by
  have hwell := story.check_eq_ok_iff.mp hcheck
  obtain ⟨hsecondStory, hsecondSettings⟩ := plays_of_reachable hcheck hsecond
  -- Only here the first session has to be reachable: its scene is declared.
  obtain ⟨scene, hscene⟩ : ∃ scene, story.scene? first.snapshot.scene = some scene := by
    obtain ⟨hfirstWell, hfilled⟩ := filled_of_reachable hcheck hfirst
    obtain ⟨scene, hscene, -⟩ := hfilled.coherent hfirstWell
    rw [(plays_of_reachable hcheck hfirst).1] at hscene
    exact ⟨scene, hscene⟩
  have hread := first.reading_of_save hreadsBack hsave
  have hload : ∀ session : Session, session.story = story →
      ∀ files : σ, Files.reading path files = Files.reading path saved →
        (session.load path : StateM σ _).run files =
          (((session.withProgress first.snapshot).inScene scene, .ok ()),
            ((Files.readFile path : StateM σ _).run files).2) := by
    rintro session rfl files hsame
    exact session.load_of_reading hwell hfits hscene (hsame.trans hread)
  have hid : scene.id = first.scene := (Story.mem_scenes_of_scene? hscene).2
  refine ⟨_, hload second hsecondStory later huntouched, hid, rfl, rfl, ?_, rfl, ?_⟩
  · simp [snapshot, withProgress, inScene, hid]
  · intro third hstory hsettings other hsame
    refine ⟨_, hload third hstory other hsame, ?_⟩
    intro lines
    let resumed := (second.withProgress first.snapshot).inScene scene
    have hcounting : ∀ session : Session, session.story = story →
        session.interpreter.settings = settings →
          (session.withProgress first.snapshot).inScene scene =
            resumed.counting session.refusals := by
      intro session hstory hsettings
      exact inScene_withProgress_eq_counting (hstory.trans hsecondStory.symm)
        (hsettings.trans hsecondSettings.symm) _ _
    obtain ⟨count, hcount⟩ := resumed.submitAll_counting lines
    rw [hcounting third hstory hsettings, hcounting second hsecondStory hsecondSettings]
    refine ⟨?_, count, ?_, ?_⟩
    · rw [answers_counting, answers_counting]
    · rw [hcount, counting_refusals]
    · rw [hcount, counting_refusals]

/-- The house when the story has just begun. -/
def houseSession : Session := (opening houseStory {}).inScene hall

/-- The house after the key was taken and one has fallen. -/
def fallenSession : Session := houseSession.performAll [.submit "take key", .invoke "fall"]

/-- The house after a word that it does not know. -/
def dancingSession : Session := houseSession.performAll [.submit "dance"]

/-- The disk on which the fall was saved. -/
def fallenDisk : Disk := (Disk.empty.write "progress" fallenSession.snapshot.encode).2

theorem load_of_save_fallenSession :
    houseStory.check = .ok () ∧ Reachable houseStory {} fallenSession ∧
      Reachable houseStory {} dancingSession ∧ fallenSession.snapshot.Fits ∧
      Files.ReadsBack Disk "progress" ∧
      (fallenSession.save "progress" : StateM Disk _).run .empty = (.ok (), fallenDisk) ∧
      ∃ resumed, (dancingSession.load "progress" : StateM Disk _).run fallenDisk =
          ((resumed, .ok ()), fallenDisk) ∧
        resumed.scene = fallenSession.scene ∧
        resumed.inventories = fallenSession.inventories ∧
        resumed.flags = fallenSession.flags ∧ resumed.snapshot = fallenSession.snapshot ∧
        resumed.message = none ∧
        ∀ third : Session, third.story = houseStory → third.interpreter.settings = {} →
          ∀ other : Disk, other.read "progress" = fallenDisk.read "progress" →
            ∃ alike, (third.load "progress" : StateM Disk _).run other =
                ((alike, .ok ()), other) ∧
              ∀ lines, alike.answers lines = resumed.answers lines ∧
                ∃ count,
                  (resumed.submitAll lines).refusals = dancingSession.refusals + count ∧
                  (alike.submitAll lines).refusals = third.refusals + count := by
  have hcheck : houseStory.check = .ok () := rfl
  have hstart : start houseStory {} = .ok houseSession := rfl
  have hfallen : Reachable houseStory {} fallenSession :=
    ⟨houseSession, [.submit "take key", .invoke "fall"], hstart, rfl⟩
  have hdancing : Reachable houseStory {} dancingSession :=
    ⟨houseSession, [.submit "dance"], hstart, rfl⟩
  have hfits : fallenSession.snapshot.Fits := by decide
  have hreadsBack := Disk.readsBack "progress"
  have hsave : (fallenSession.save "progress" : StateM Disk _).run .empty =
      (.ok (), fallenDisk) := rfl
  exact ⟨hcheck, hfallen, hdancing, hfits, hreadsBack, hsave,
    load_of_save hcheck hfallen hdancing hfits hreadsBack hsave rfl⟩

end Session

end TextAdventure
