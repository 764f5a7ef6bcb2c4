import TextAdventure.Proofs.Coherence
import TextAdventure.Proofs.Deeds
import TextAdventure.Proofs.Remarks

/-!
# Refused lines

A refused line leaves the session as it was, up to the message and the count of refusals.  Nothing
else that can be done to a session touches this count, so at every point of a run it tells how many
lines were refused.
-/

namespace TextAdventure

namespace Interpreter

variable {interpreter : Interpreter} {inventories : Inventories} {command : Command}

/-- A refused command reports its refusal, asks for nothing and changes no inventory. -/
theorem run_of_refused {refusal : Refusal}
    (hrefused : (interpreter.run inventories command).1.verdict = .refused refusal) :
    interpreter.run inventories command = (interpreter.refuse command refusal, inventories) := by
  have hsame : ∀ other : Refusal,
      interpreter.run inventories command = (interpreter.refuse command other, inventories) →
        other = refusal := by
    intro other hrun
    rw [hrun] at hrefused
    exact Verdict.refused.inj hrefused
  rcases interpreter.run_cases inventories command with
    ⟨deed, outcome, after, -, hdeed, hrun⟩ | ⟨subject, -, -, hrun⟩ | ⟨-, hrun⟩
  · have haccepted := hdeed.verdict_eq
    rw [hrun, haccepted] at hrefused
    cases hrefused
  · rwa [hsame _ hrun] at hrun
  · rwa [hsame _ hrun] at hrun

theorem interpret_of_refused {line : String} {refusal : Refusal}
    (hrefused : (interpreter.interpret inventories line).1.verdict = .refused refusal) :
    interpreter.interpret inventories line =
      (interpreter.refuse (.ofLine interpreter.registry line) refusal, inventories) := by
  rw [interpret] at hrefused ⊢
  exact run_of_refused hrefused

end Interpreter

namespace Session

/-! ## One refused line -/

/-- The session after a refused line. -/
def refusing (session : Session) (refusal : Refusal) : Session :=
  { session with
    message :=
      if session.interpreter.settings.verbose then some ("ERROR: " ++ refusal.message) else none
    refusals := session.refusals + 1 }

theorem submit_outcome (session : Session) (line : String) :
    (session.submit line).1 = session.outcomeOf line := by
  rw [submit_eq]

theorem outcomeOf_of_refused (session : Session) {line : String} {refusal : Refusal}
    (hrefused : (session.outcomeOf line).verdict = .refused refusal) :
    session.outcomeOf line =
      session.interpreter.refuse (.ofLine session.interpreter.registry line) refusal := by
  rw [outcomeOf] at hrefused ⊢
  rw [Interpreter.interpret_of_refused hrefused]

theorem submit_of_refused (session : Session) {line : String} {refusal : Refusal}
    (hrefused : (session.submit line).1.verdict = .refused refusal) :
    (session.submit line).2 = session.refusing refusal := by
  rw [submit_outcome] at hrefused
  have houtcome := session.outcomeOf_of_refused hrefused
  have hinventories : (session.interpreter.interpret session.inventories line).2 =
      session.inventories := by
    rw [outcomeOf] at hrefused
    rw [Interpreter.interpret_of_refused hrefused]
  have hinterpreted : session.interpreted line = session.refusing refusal := by
    simp only [interpreted, refusing, houtcome, hinventories, Interpreter.refuse,
      Outcome.isRefused, Bool.toNat_true]
  -- A refusal carries no request, so nothing follows the interpretation.
  have hrequests : (session.outcomeOf line).requests = [] := by
    rw [houtcome]
    rfl
  rw [submit_eq, hrequests, hinterpreted, List.foldl_nil]

/-! ## The count of refusals -/

@[simp] theorem enter_refusals (session : Session) (id : String) :
    (session.enter id).1.refusals = session.refusals := by
  have hunplaced := unplaced_eq_iff.mp (session.unplaced_enter id)
  exact hunplaced.2.2.2.2.2

theorem meet_refusals (session : Session) (request : HostRequest) :
    (session.meet request).refusals = session.refusals :=
  congrArg Remarks.refusals (session.remarks_meet request)

theorem foldl_meet_refusals (requests : List HostRequest) (session : Session) :
    (requests.foldl meet session).refusals = session.refusals := by
  induction requests generalizing session with
  | nil => rfl
  | cons request rest ih => rw [List.foldl_cons, ih, meet_refusals]

theorem submit_refusals (session : Session) (line : String) :
    (session.submit line).2.refusals =
      session.refusals + (session.submit line).1.isRefused.toNat := by
  simp only [submit_eq, foldl_meet_refusals, interpreted]

theorem restore_refusals (session : Session) (save : Save) :
    (session.restore save).1.refusals = session.refusals := by
  unfold restore
  split
  · rfl
  · rw [enter_refusals]

theorem withFile_refusals (session : Session) (path : String)
    (found : Except ReadRefusal (List UInt8)) :
    (session.withFile path found).1.refusals = session.refusals := by
  rcases found with (_ | _) | bytes
  · rfl
  · rfl
  · simp only [withFile, restoreBytes]
    cases Save.decode? bytes with
    | none => rfl
    | some save => exact session.restore_refusals save

/-- The operation submits a line, and the line is refused. -/
def refuses (session : Session) : Operation → Bool
  | .submit line => (session.submit line).1.isRefused
  | _ => false

/-- How many lines are refused while operations follow one another. -/
def refusedLines (session : Session) : List Operation → ℕ
  | [] => 0
  | operation :: rest =>
    (session.refuses operation).toNat + (session.perform operation).refusedLines rest

/-- Only a refused line counts as a refusal. -/
theorem perform_refusals (session : Session) (operation : Operation) :
    (session.perform operation).refusals =
      session.refusals + (session.refuses operation).toNat := by
  cases operation with
  | submit line => simp only [perform, refuses, submit_refusals]
  | restore save => exact session.restore_refusals save
  | load disk path =>
      rw [perform, run_load]
      exact session.withFile_refusals path _
  | invoke callback => exact session.meet_refusals (.invoke callback)
  | transition target => exact session.enter_refusals target
  | render => exact session.enter_refusals session.scene
  | takeMessage | touch | add | remove => rfl

theorem performAll_refusals (operations : List Operation) (session : Session) :
    (session.performAll operations).refusals =
      session.refusals + session.refusedLines operations := by
  induction operations generalizing session with
  | nil => rfl
  | cons operation rest ih =>
      have hfirst := session.perform_refusals operation
      have hrest := ih (session.perform operation)
      calc
        (session.performAll (operation :: rest)).refusals =
            (session.perform operation).refusals +
              (session.perform operation).refusedLines rest := hrest
        _ = session.refusals + session.refusedLines (operation :: rest) := by
          rw [hfirst, refusedLines, Nat.add_assoc]

/-- A refused line changes nothing in a session that is reached but the message, which tells the
refusal if the settings ask for it, and the count of refusals, which grows by one.  At the end of
every run the count is the number of lines that were refused on the way. -/
theorem refusals_eq_refusedLines (story : Story) (settings : Settings)
    (hcheck : story.check = .ok ()) :
    (∀ session, Reachable story settings session → ∀ line refusal,
      (session.submit line).1.verdict = .refused refusal →
        (session.submit line).2 =
          { session with
            message :=
              if settings.verbose then some ("ERROR: " ++ refusal.message) else none
            refusals := session.refusals + 1 }) ∧
    ∃ first, start story settings = .ok first ∧
      ∀ operations, (first.performAll operations).refusals = first.refusedLines operations := by
  constructor
  · intro session hreach line refusal hrefused
    obtain ⟨-, rfl⟩ := plays_of_reachable hcheck hreach
    exact session.submit_of_refused hrefused
  · obtain ⟨scene, -, hstart⟩ := start_of_check settings hcheck
    refine ⟨_, hstart, ?_⟩
    intro operations
    have hcount := performAll_refusals operations ((opening story settings).inScene scene)
    rw [hcount]
    exact Nat.zero_add _

/-- The house for a player who wants to be told what was wrong. -/
def toldSession : Session := (opening houseStory { verbose := true }).inScene hall

/-- Three refused lines, with a fall, two scenes that do not exist and a key between them. -/
def clumsyRun : List Operation :=
  [.submit "dance", .transition "attic", .submit "take key", .restore ⟨"attic", .empty, .empty⟩,
    .submit "take key", .invoke "fall", .takeMessage, .submit "open lamp"]

theorem refusals_eq_refusedLines_clumsyRun :
    houseStory.check = .ok () ∧ start houseStory { verbose := true } = .ok toldSession ∧
      (toldSession.submit "dance").2 =
        { toldSession with
          message := some "ERROR: No valid subjects found in the command."
          refusals := 1 } ∧
      (toldSession.performAll clumsyRun).refusals = toldSession.refusedLines clumsyRun ∧
      toldSession.refusedLines clumsyRun = 3 := by
  have hcheck : houseStory.check = .ok () := rfl
  have hstart : start houseStory { verbose := true } = .ok toldSession := rfl
  have hrefused : (toldSession.submit "dance").1.verdict = .refused .noValidSubject := by decide
  have hreach : Reachable houseStory { verbose := true } toldSession :=
    ⟨toldSession, [], hstart, rfl⟩
  obtain ⟨hline, first, hfirst, hcount⟩ :=
    refusals_eq_refusedLines houseStory { verbose := true } hcheck
  rw [hstart] at hfirst
  obtain rfl := Except.ok.inj hfirst
  exact ⟨hcheck, hstart, hline toldSession hreach _ _ hrefused, hcount clumsyRun, by decide⟩

end Session

end TextAdventure
