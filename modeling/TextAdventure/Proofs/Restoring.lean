import TextAdventure.Player
import TextAdventure.Proofs.Loading

/-!
# Restoring all or nothing

A save is restored exactly when its scene is declared, and then completely.  Whatever else goes
wrong on the way to it, be it the file, its bytes or the command of the player, is found before
anything is changed, so a session that reports a fault is the session that was there before.
-/

namespace TextAdventure

namespace Session

variable {session : Session}

/-- What was done to the session gave a result, or left the session as it was. -/
def AllOrNothing {α : Type} (session : Session) (done : Session × Except Fault α) : Prop :=
  ∀ fault, done.2 = .error fault → done.1 = session

theorem allOrNothing_self {α : Type} (session : Session) (result : Except Fault α) :
    session.AllOrNothing (session, result) := by
  intro fault hfault
  rfl

theorem allOrNothing_ok {α : Type} (session after : Session) (value : α) :
    session.AllOrNothing (after, .ok value) := by
  intro fault hfault
  cases hfault

/-- What is told of a result does not matter. -/
theorem AllOrNothing.map {α β : Type} {done : Session × Except Fault α}
    (hdone : session.AllOrNothing done) (tell : α → β) :
    session.AllOrNothing (done.1, done.2.map tell) := by
  obtain ⟨after, result⟩ := done
  cases result with
  | ok value => exact session.allOrNothing_ok after (tell value)
  | error fault =>
      intro _ _
      exact hdone fault rfl

/-! ## Restoring and loading -/

theorem restore_of_undeclared (session : Session) {save : Save}
    (hscene : session.story.scene? save.scene = none) :
    session.restore save = (session, .error { kind := .unknownScene save.scene }) := by
  simp only [restore, hscene]

theorem allOrNothing_restore (hwell : session.story.WellFormed) (save : Save) :
    session.AllOrNothing (session.restore save) := by
  cases hscene : session.story.scene? save.scene with
  | none =>
      rw [session.restore_of_undeclared hscene]
      exact session.allOrNothing_self _
  | some scene =>
      rw [session.restore_of_declared hwell hscene]
      exact session.allOrNothing_ok _ _

theorem restore_eq_ok_iff (hwell : session.story.WellFormed) (save : Save) :
    (session.restore save).2 = .ok () ↔
      ∃ scene, session.story.scene? save.scene = some scene := by
  cases hscene : session.story.scene? save.scene with
  | none => simp [session.restore_of_undeclared hscene]
  | some scene => simp [session.restore_of_declared hwell hscene]

theorem allOrNothing_withFile (hwell : session.story.WellFormed) (path : String)
    (found : Except ReadRefusal (List UInt8)) :
    session.AllOrNothing (session.withFile path found) := by
  rcases found with (_ | _) | bytes
  · exact session.allOrNothing_self _
  · exact session.allOrNothing_self _
  · simp only [withFile, restoreBytes]
    cases Save.decode? bytes with
    | none => exact session.allOrNothing_self _
    | some save => exact allOrNothing_restore hwell save

section Files

variable {σ : Type} [Files (StateM σ)]

theorem allOrNothing_load (hwell : session.story.WellFormed) (path : String) (files : σ) :
    session.AllOrNothing ((session.load path : StateM σ _).run files).1 := by
  rw [run_load]
  exact allOrNothing_withFile hwell path _

/-! ## Lines of the player -/

theorem run_answerMeta_save (session : Session) (path : String) (files : σ) :
    ((session.answerMeta (.save path) : StateM σ _).run files).1 =
      (session, ((session.save path : StateM σ _).run files).1.map
        fun _ => .answer (some ("Saved to " ++ path ++ "."))) := rfl

theorem run_answerMeta_load (session : Session) (path : String) (files : σ) :
    ((session.answerMeta (.load path) : StateM σ _).run files).1 =
      (((session.load path : StateM σ _).run files).1.1,
        ((session.load path : StateM σ _).run files).1.2.map
          fun _ => .answer (some ((session.load path : StateM σ _).run files).1.1.describe)) :=
  rfl

theorem allOrNothing_answerMeta (hwell : session.story.WellFormed) (command : MetaCommand)
    (files : σ) :
    session.AllOrNothing ((session.answerMeta command : StateM σ _).run files).1 := by
  cases command with
  | save path =>
      rw [run_answerMeta_save]
      exact session.allOrNothing_self _
  | load path =>
      rw [run_answerMeta_load]
      exact (allOrNothing_load hwell path files).map _
  | quit | look | inventory | lacksPath | unknown => exact session.allOrNothing_self _

/-- A command in the story always gets an answer, so only lines for the player can fail. -/
theorem allOrNothing_respond (hwell : session.story.WellFormed) (line : String) (files : σ) :
    session.AllOrNothing ((session.respond line : StateM σ _).run files).1 := by
  unfold respond
  split
  · exact allOrNothing_answerMeta hwell _ files
  · generalize session.answerCommand _ = answer
    exact session.allOrNothing_ok answer.1 answer.2

end Files

/-- In every session that is reached, a save is restored exactly when the story declares its scene;
then the session has its progress, no message, the same count of refusals, and at hand the subjects
that are there.  A fault in restoring, in loading or in the answer to a line leaves the session as
it was, whatever the file system holds. -/
theorem allOrNothing_of_reachable {story : Story} {settings : Settings}
    (hcheck : story.check = .ok ()) {session : Session}
    (hreach : Reachable story settings session) :
    (∀ save, ((session.restore save).2 = .ok () ↔
        ∃ scene, story.scene? save.scene = some scene) ∧
      ∀ scene, story.scene? save.scene = some scene →
        (session.restore save).1.snapshot = save ∧
          (session.restore save).1.message = none ∧
          (session.restore save).1.refusals = session.refusals ∧
          (session.restore save).1.interpreter.settings = settings ∧
          (session.restore save).1.interpreter.registry.subjects =
            (session.restore save).1.present scene) ∧
    (∀ save, session.AllOrNothing (session.restore save)) ∧
    ∀ (σ : Type) [Files (StateM σ)] (files : σ),
      (∀ path, session.AllOrNothing ((session.load path : StateM σ _).run files).1) ∧
        ∀ line, session.AllOrNothing ((session.respond line : StateM σ _).run files).1 := by
  have hwell := (filled_of_reachable hcheck hreach).1
  obtain ⟨rfl, rfl⟩ := plays_of_reachable hcheck hreach
  refine ⟨?_, ?_, ?_⟩
  · intro save
    refine ⟨restore_eq_ok_iff hwell save, ?_⟩
    intro scene hscene
    have hid := (Story.mem_scenes_of_scene? hscene).2
    rw [session.restore_of_declared hwell hscene]
    exact ⟨by simp [snapshot, withProgress, inScene, hid], rfl, rfl, rfl, by simp⟩
  · exact allOrNothing_restore hwell
  · intro σ _ files
    constructor
    · intro path
      exact allOrNothing_load hwell path files
    · intro line
      exact allOrNothing_respond hwell line files

/-- A save in a scene that the house does not have. -/
def atticSave : Save := ⟨"attic", .empty, .ofList ["dark"]⟩

theorem allOrNothing_of_reachable_fallenSession :
    houseStory.check = .ok () ∧ Reachable houseStory {} fallenSession ∧
      (fallenSession.restore atticSave).2 = .error { kind := .unknownScene "attic" } ∧
      (fallenSession.restore atticSave).1 = fallenSession ∧
      (fallenSession.restore { atticSave with scene := "hall" }).1.snapshot =
        { atticSave with scene := "hall" } ∧
      ((fallenSession.load "progress" : StateM Disk _).run .empty).1.1 = fallenSession ∧
      ((fallenSession.respond ":load" : StateM Disk _).run .empty).1.1 = fallenSession := by
  have hcheck : houseStory.check = .ok () := rfl
  have hreach : Reachable houseStory {} fallenSession :=
    ⟨houseSession, [.submit "take key", .invoke "fall"], rfl, rfl⟩
  have hattic : (fallenSession.restore atticSave).2 =
      .error { kind := .unknownScene "attic" } := rfl
  have hhall : houseStory.scene? "hall" = some hall := rfl
  obtain ⟨hrestore, hfails, hfiles⟩ := allOrNothing_of_reachable hcheck hreach
  obtain ⟨hload, hrespond⟩ := hfiles Disk .empty
  exact ⟨hcheck, hreach, hattic, hfails _ _ hattic, ((hrestore _).2 hall hhall).1,
    hload "progress" { kind := .file .openSave "progress" } rfl,
    hrespond ":load" { kind := .internal ":load requires a path" } rfl⟩

end Session

end TextAdventure
