import TextAdventure.Proofs.Refusals
import TextAdventure.Proofs.Restoring
import TextAdventure.Proofs.SoundReferences

/-!
# What a line is answered

While a line is answered its text is kept as the message of the session: a callback may replace it,
and scenes may be shown before it is taken.  It is always taken before the next line, so every text
is told once, in the answer to the line to which it belongs.  The answer is put together from at
most two paragraphs, the text of the line and the scene to which it has led.
-/

namespace TextAdventure

theorem Outcome.isRefused_eq_false_iff (outcome : Outcome) :
    outcome.isRefused = false ↔ outcome.verdict = .accepted := by
  unfold isRefused
  cases outcome.verdict <;> simp

namespace Session

/-! ## The text of a line -/

/-- What is heard of a line: what its callback says last, else the text of its outcome. -/
def heard (session : Session) (line : String) : String :=
  let outcome := (session.submit line).1
  ((outcome.callback.bind session.story.saidBy).or outcome.message).getD ""

theorem saidAt_toHost (story : Story) (request : SceneRequest) :
    story.saidAt request.toHost = none := by
  cases request with
  | transition target => rfl
  | rerender => rfl

/-- The callback of an outcome may replace its message, and the scenes that are shown keep it. -/
theorem foldl_meet_message (session : Session) (outcome : Outcome) :
    (outcome.requests.foldl meet session).message =
      (outcome.callback.bind session.story.saidBy).or session.message := by
  have hmeet : ∀ (session : Session) (request : HostRequest), (session.meet request).message =
      (session.story.saidAt request).or session.message :=
    fun session request => congrArg Remarks.message (session.remarks_meet request)
  rw [Outcome.requests, List.foldl_append]
  have hscene : ∀ session : Session,
      ((outcome.scene.map (·.toHost)).toList.foldl meet session).message = session.message := by
    intro session
    cases outcome.scene with
    | none => rfl
    | some request => simp [hmeet, saidAt_toHost]
  rw [hscene]
  cases outcome.callback with
  | none => simp
  | some callback => simp [hmeet, Story.saidAt]

theorem message_submit (session : Session) (line : String) :
    (session.submit line).2.message.getD "" = session.heard line := by
  simp only [heard, submit_eq, foldl_meet_message, interpreted]

/-! ## The answer to a command -/

/-- The paragraphs of the answer to a command: its text, or the mark of a refusal without one, and
the scene if it is another one than before. -/
def paragraphs (session : Session) (line : String) : List String :=
  (if session.heard line ≠ "" then [session.heard line]
    else if (session.submit line).1.isRefused then [refusalMark] else []) ++
  (if (session.submit line).2.scene = session.scene then []
    else [(session.submit line).2.describe])

/-- Paragraphs as they are told, with a blank line between them. -/
def told? (paragraphs : List String) : Option String :=
  if paragraphs = [] then none else some ("\n\n".intercalate paragraphs)

theorem told?_eq_none_iff (paragraphs : List String) :
    told? paragraphs = none ↔ paragraphs = [] := by
  simp [told?]

theorem describe_ne_empty (session : Session) : session.describe ≠ "" := by
  simp [describe]

theorem describe_silent (session : Session) :
    ({ session with message := none } : Session).describe = session.describe := rfl

theorem answerCommand_eq (session : Session) (line : String) :
    session.answerCommand line =
      ({ (session.submit line).2 with message := none },
        .answer (told? (session.paragraphs line))) := by
  have hmark : refusalMark ≠ "" := by decide
  have hdescribe := (session.submit line).2.describe_ne_empty
  simp only [answerCommand, takeMessage, message_submit, paragraphs, describe_silent]
  -- What the line leads to does not matter any more, only its parts do.
  generalize session.heard line = text
  generalize session.submit line = result at hdescribe ⊢
  by_cases htext : text = "" <;> by_cases hrefused : result.1.isRefused = true <;>
    by_cases hscene : result.2.scene = session.scene <;>
    simp [told?, htext, hrefused, hscene, hmark, hdescribe, String.intercalate_cons_cons]

theorem told?_paragraphs_eq_none_iff (session : Session) (line : String) :
    told? (session.paragraphs line) = none ↔
      (session.submit line).1.verdict = .accepted ∧ session.heard line = "" ∧
        (session.submit line).2.scene = session.scene := by
  rw [told?_eq_none_iff, paragraphs, ← Outcome.isRefused_eq_false_iff]
  generalize session.heard line = text
  generalize session.submit line = result
  by_cases htext : text = "" <;> by_cases hscene : result.2.scene = session.scene <;>
    simp [htext, hscene]

/-! ## Lines that are answered one after another -/

section Files

variable {σ : Type} [Files (StateM σ)]

theorem respond_of_command (session : Session) {line : String}
    (hcommand : (Text.trim line.toList).head? ≠ some ':') (files : σ) :
    (session.respond line : StateM σ _).run files =
      (((session.answerCommand (Text.trimmed line)).1,
        .ok (session.answerCommand (Text.trimmed line)).2), files) := by
  unfold respond
  split
  · rename_i rest htrim
    rw [htrim] at hcommand
    exact absurd rfl hcommand
  · rw [← Text.trimmed]
    generalize session.answerCommand (Text.trimmed line) = answer
    rfl

@[simp] theorem enter_message (session : Session) (id : String) :
    (session.enter id).1.message = session.message :=
  (unplaced_eq_iff.mp (session.unplaced_enter id)).2.2.2.2.1

theorem message_withFile {session : Session} (hmessage : session.message = none) (path : String)
    (found : Except ReadRefusal (List UInt8)) :
    (session.withFile path found).1.message = none := by
  rcases found with (_ | _) | bytes
  · exact hmessage
  · exact hmessage
  · simp only [withFile, restoreBytes, restore]
    split
    · exact hmessage
    · split
      · exact hmessage
      · simp

/-- An answer leaves no message for the next line. -/
theorem message_respond {session : Session} (hmessage : session.message = none) (line : String)
    (files : σ) : ((session.respond line : StateM σ _).run files).1.1.message = none := by
  by_cases hcommand : (Text.trim line.toList).head? = some ':'
  · obtain ⟨rest, hrest⟩ := List.head?_eq_some_iff.mp hcommand
    simp only [respond, hrest]
    cases MetaCommand.read rest with
    | load path =>
        rw [run_answerMeta_load, run_load]
        exact message_withFile hmessage path _
    | save path =>
        rw [run_answerMeta_save]
        exact hmessage
    | quit | look | inventory | lacksPath | unknown => exact hmessage
  · rw [session.respond_of_command hcommand, answerCommand_eq]

end Files

/-- Lines that are answered one after another lead from one session to another, whatever the files
hold at each of them. -/
inductive AnswersLead (first : Session) : Session → Prop
  | refl : AnswersLead first first
  | answer {σ : Type} [Files (StateM σ)] {session : Session}
      (hlead : AnswersLead first session) (line : String) (files : σ) :
      AnswersLead first ((session.respond line : StateM σ _).run files).1.1

theorem AnswersLead.message {first session : Session} (hlead : first.AnswersLead session)
    (hfirst : first.message = none) : session.message = none := by
  induction hlead with
  | refl => exact hfirst
  | answer _ line files ih => exact message_respond ih line files

theorem message_of_start {story : Story} {settings : Settings} {first : Session}
    (hstart : start story settings = .ok first) : first.message = none := by
  cases hcheck : story.check with
  | error fault =>
      rw [start, hcheck] at hstart
      cases hstart
  | ok =>
      obtain ⟨scene, -, hbegun⟩ := start_of_check settings hcheck
      rw [hbegun] at hstart
      obtain rfl := Except.ok.inj hstart
      rfl

/-- A session that has just begun has no message, also if a save is then loaded, and it has none
again after every answer.  A command is answered by its text, or by the mark of a refusal where
there is none, and then by the scene to which it has led; there is no answer just if an accepted
command has no text and leads to no other scene. -/
theorem respond_of_answersLead :
    (∀ story settings first, start story settings = .ok first →
      first.message = none ∧
      ∀ (σ : Type) [Files (StateM σ)] (path : String) (files : σ),
        ((first.load path : StateM σ _).run files).1.1.message = none) ∧
    ∀ first session : Session, first.message = none → first.AnswersLead session →
      session.message = none ∧
      ∀ line, (Text.trim line.toList).head? ≠ some ':' →
        let command := Text.trimmed line
        (∀ (σ : Type) [Files (StateM σ)] (files : σ),
          (session.respond line : StateM σ _).run files =
            (({ (session.submit command).2 with message := none },
              .ok (.answer (told? (session.paragraphs command)))), files)) ∧
        (told? (session.paragraphs command) = none ↔
          (session.submit command).1.verdict = .accepted ∧ session.heard command = "" ∧
            (session.submit command).2.scene = session.scene) := by
  constructor
  · intro story settings first hstart
    have hfirst := message_of_start hstart
    refine ⟨hfirst, ?_⟩
    intro σ _ path files
    rw [run_load]
    exact message_withFile hfirst path _
  · intro first session hfirst hlead
    refine ⟨hlead.message hfirst, ?_⟩
    intro line hcommand
    constructor
    · intro σ _ files
      rw [session.respond_of_command hcommand, answerCommand_eq]
    · exact session.told?_paragraphs_eq_none_iff _

/-- The hall with the lever after a word that it does not know. -/
def puzzledSession : Session :=
  ((leverSession.respond "dance" : StateM Disk _).run .empty).1.1

theorem respond_of_answersLead_puzzledSession :
    start leverStory {} = .ok leverSession ∧ leverSession.message = none ∧
      leverSession.AnswersLead puzzledSession ∧ puzzledSession.message = none ∧
      (puzzledSession.heard "pull lever" = "You fall.") ∧
      ((puzzledSession.respond " pull lever" : StateM Disk _).run .empty).1.2 =
        .ok (.answer (some "You fall.\n\n\x1b[1m\x1b[0m\nYou notice: ladder")) := by
  have hstart : start leverStory {} = .ok leverSession := rfl
  have hlead : leverSession.AnswersLead puzzledSession := .answer .refl "dance" Disk.empty
  have hcommand : (Text.trim " pull lever".toList).head? ≠ some ':' := by decide
  obtain ⟨hnew, hanswers⟩ := respond_of_answersLead
  have hfirst := (hnew _ _ _ hstart).1
  obtain ⟨hmessage, hlines⟩ := hanswers leverSession puzzledSession hfirst hlead
  have hanswer := (hlines " pull lever" hcommand).1 Disk .empty
  have htold : told? (puzzledSession.paragraphs (Text.trimmed " pull lever")) =
      some "You fall.\n\n\x1b[1m\x1b[0m\nYou notice: ladder" := by decide
  refine ⟨hstart, hfirst, hlead, hmessage, by decide, ?_⟩
  rw [hanswer, htold]

end Session

end TextAdventure
