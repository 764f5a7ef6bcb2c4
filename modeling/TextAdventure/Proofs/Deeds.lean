import TextAdventure.Proofs.Judgement

/-!
# What deeds do

Carrying out a deed looks up again what made the command legal.  The relation below tells, for each
deed, what it needs, what it reports and what it leaves of the inventories.  A legal command has
what its deed needs, so it is carried out, unless it takes what is held already.
-/

namespace TextAdventure

/-- The outcome of a command before anything is done. -/
def Command.begun (command : Command) : Outcome :=
  { action := command.action, subjects := command.names }

namespace Interpreter

variable {interpreter : Interpreter} {inventories : Inventories} {command : Command}

/-- The deed is carried out on the inventories, with this outcome and these inventories after it. -/
inductive Performs (interpreter : Interpreter) (inventories : Inventories) (command : Command) :
    Deed → Outcome → Inventories → Prop
  | go {subject : Subject} {target : String} (hsole : command.subjects = [subject])
      (hgo : subject.go = some target) :
      Performs interpreter inventories command .go
        { command.begun with scene := some (.transition target) } inventories
  | look {subject : Subject} {text : String} (hsole : command.subjects = [subject])
      (hlook : subject.look = some text) :
      Performs interpreter inventories command .look
        { command.begun with message := some text } inventories
  | leave {subject : Subject} {take : Take} (hsole : command.subjects = [subject])
      (htake : subject.take = some take) (hdisabled : take.enabled = false) :
      Performs interpreter inventories command .take
        { command.begun with message := some take.disabledDescription } inventories
  | take {subject : Subject} {take : Take} (hsole : command.subjects = [subject])
      (htake : subject.take = some take) (henabled : take.enabled = true)
      (hfree : inventories.holds (interpreter.settings.inventoryOf subject) subject.name = false) :
      Performs interpreter inventories command .take
        { command.begun with
          message := some take.description
          scene := some .rerender
          change := some (.added (interpreter.settings.inventoryOf subject) subject.name) }
        (inventories.add (interpreter.settings.inventoryOf subject) subject.name)
  | remember {subject : Subject} {remember : Remember} (hsole : command.subjects = [subject])
      (hremember : subject.remember = some remember) :
      Performs interpreter inventories command .remember
        { command.begun with
          message := some remember.description
          callback := remember.trigger
          change := some (.added (interpreter.settings.bankOf subject) subject.name) }
        (inventories.add (interpreter.settings.bankOf subject) subject.name)
  | drop {subject : Subject} (hsole : command.subjects = [subject]) :
      Performs interpreter inventories command .drop
        { command.begun with
          message := some "You drop it."
          scene := some .rerender
          change := some (.removed (interpreter.settings.inventoryOf subject) subject.name) }
        (inventories.remove (interpreter.settings.inventoryOf subject) subject.name)
  | forget {subject : Subject} (hsole : command.subjects = [subject]) :
      Performs interpreter inventories command .forget
        { command.begun with
          message := some "It's forgotten."
          change := some (.removed (interpreter.settings.bankOf subject) subject.name) }
        (inventories.remove (interpreter.settings.bankOf subject) subject.name)
  | use {first second : Subject} {entry : Pairing} (hpair : command.subjects = [first, second])
      (hpairing : first.pairing? second = some entry) :
      Performs interpreter inventories command .use
        { command.begun with message := some entry.description, callback := entry.trigger }
        inventories
  | help :
      Performs interpreter inventories command .help
        { command.begun with message := some interpreter.registry.helpText } inventories
  | custom {subject : Subject} {custom : CustomAction} (hsole : command.subjects = [subject])
      (hcustom : interpreter.registry.customAction? command.action.spelling subject =
        some custom) :
      Performs interpreter inventories command .custom
        { command.begun with message := some custom.description, callback := custom.trigger }
        inventories

/-- What a deed does is carried out. -/
theorem Performs.perform_eq {deed : Deed} {outcome : Outcome} {after : Inventories}
    (hdeed : interpreter.Performs inventories command deed outcome after) :
    interpreter.perform inventories deed command = .ok (outcome, after) := by
  cases hdeed with
  | go hsole hgo => simp [perform, performSole, Command.sole?, Command.begun, hsole, hgo]
  | look hsole hlook => simp [perform, performSole, Command.sole?, Command.begun, hsole, hlook]
  | leave hsole htake hdisabled =>
      simp [perform, performSole, performTake, Command.sole?, Command.begun, hsole, htake,
        hdisabled]
  | take hsole htake henabled hfree =>
      simp [perform, performSole, performTake, Command.sole?, Command.begun, hsole, htake,
        henabled, hfree]
  | remember hsole hremember =>
      simp [perform, performSole, Command.sole?, Command.begun, hsole, hremember]
  | drop hsole => simp [perform, performSole, Command.sole?, Command.begun, hsole]
  | forget hsole => simp [perform, performSole, Command.sole?, Command.begun, hsole]
  | use hpair hpairing => simp [perform, Command.pair?, Command.begun, hpair, hpairing]
  | help => rfl
  | custom hsole hcustom =>
      simp [perform, performSole, Command.sole?, Command.begun, hsole, hcustom]

/-- What is carried out is accepted. -/
theorem Performs.verdict_eq {deed : Deed} {outcome : Outcome} {after : Inventories}
    (hdeed : interpreter.Performs inventories command deed outcome after) :
    outcome.verdict = .accepted := by
  cases hdeed <;> rfl

theorem Performs.subjects_eq {deed : Deed} {outcome : Outcome} {after : Inventories}
    (hdeed : interpreter.Performs inventories command deed outcome after) :
    outcome.subjects = command.names := by
  cases hdeed <;> rfl

/-- The deed is to take the only subject of the command, which can be taken and is held already. -/
structure TakesHeld (interpreter : Interpreter) (inventories : Inventories) (command : Command)
    (deed : Deed) (subject : Subject) : Prop where
  deed_eq : deed = .take
  sole : command.subjects = [subject]
  enabled : ∃ take, subject.take = some take ∧ take.enabled = true
  held : inventories.holds (interpreter.settings.inventoryOf subject) subject.name = true

theorem TakesHeld.perform_eq {deed : Deed} {subject : Subject}
    (hheld : interpreter.TakesHeld inventories command deed subject) :
    interpreter.perform inventories deed command =
      .error (.alreadyHeld subject.name (interpreter.settings.inventoryOf subject)) := by
  obtain ⟨rfl, hsole, ⟨take, htake, henabled⟩, hheld⟩ := hheld
  simp [perform, performSole, performTake, Command.sole?, hsole, htake, henabled, hheld]

/-- A legal command is carried out, unless it takes what is held already. -/
theorem Legal.performs_or_takesHeld {deed : Deed}
    (hlegal : interpreter.Legal inventories command deed) :
    (∃ outcome after, interpreter.Performs inventories command deed outcome after) ∨
      ∃ subject, interpreter.TakesHeld inventories command deed subject := by
  cases hlegal with
  | @declared action subject deed hdeclared =>
      rcases Subject.declaredDeed?_cases hdeclared with
        ⟨target, rfl, rfl, hgo⟩ | ⟨text, rfl, rfl, hlook⟩ | ⟨take, rfl, rfl, htake⟩ |
          ⟨remember, rfl, rfl, hremember⟩
      · exact Or.inl ⟨_, _, .go rfl hgo⟩
      · exact Or.inl ⟨_, _, .look rfl hlook⟩
      · by_cases henabled : take.enabled = true
        · by_cases hheld : inventories.holds (interpreter.settings.inventoryOf subject)
              subject.name = true
          · exact Or.inr ⟨subject, rfl, rfl, ⟨take, htake, henabled⟩, hheld⟩
          · exact Or.inl ⟨_, _, .take rfl htake henabled (by simpa using hheld)⟩
        · exact Or.inl ⟨_, _, .leave rfl htake (by simpa using henabled)⟩
      · exact Or.inl ⟨_, _, .remember rfl hremember⟩
  | custom hundeclared hcustom => exact Or.inl ⟨_, _, .custom rfl hcustom⟩
  | drop hplain hheld => exact Or.inl ⟨_, _, .drop rfl⟩
  | forget hplain hheld => exact Or.inl ⟨_, _, .forget rfl⟩
  | use hpairing => exact Or.inl ⟨_, _, .use rfl hpairing⟩
  | help hhelp => exact Or.inl ⟨_, _, .help⟩

/-! ## Whole runs -/

/-- A legal command that can be carried out is carried out. -/
theorem run_of_performs {deed : Deed} {outcome : Outcome} {after : Inventories}
    (hlegal : interpreter.Legal inventories command deed)
    (hperforms : interpreter.Performs inventories command deed outcome after) :
    interpreter.run inventories command = (outcome, after) := by
  have hjudge := judge_eq_ok_iff.mpr hlegal
  simp only [run, hjudge, bind, Except.bind, hperforms.perform_eq]

/-- What becomes of a command: it is legal and carried out, or it takes what is held already, or it
is not legal.  In the last two cases nothing is done. -/
theorem run_cases (interpreter : Interpreter) (inventories : Inventories) (command : Command) :
    (∃ deed outcome after, interpreter.Legal inventories command deed ∧
      interpreter.Performs inventories command deed outcome after ∧
      interpreter.run inventories command = (outcome, after)) ∨
    (∃ subject, interpreter.Legal inventories command .take ∧
      interpreter.TakesHeld inventories command .take subject ∧
      interpreter.run inventories command =
        (interpreter.refuse command
          (.alreadyHeld subject.name (interpreter.settings.inventoryOf subject)), inventories)) ∨
    ((∀ deed, ¬interpreter.Legal inventories command deed) ∧
      interpreter.run inventories command =
        (interpreter.refuse command command.flaw, inventories)) := by
  cases hjudge : interpreter.judge inventories command with
  | error refusal =>
      obtain rfl := judge_eq_error hjudge
      refine Or.inr (Or.inr ⟨?_, ?_⟩)
      · intro deed hlegal
        rw [judge_eq_ok_iff.mpr hlegal] at hjudge
        cases hjudge
      · simp only [run, hjudge]
        rfl
  | ok deed =>
      have hlegal := judge_eq_ok_iff.mp hjudge
      rcases hlegal.performs_or_takesHeld with ⟨outcome, after, hperforms⟩ | ⟨subject, hheld⟩
      · exact Or.inl ⟨deed, outcome, after, hlegal, hperforms, run_of_performs hlegal hperforms⟩
      · obtain rfl := hheld.deed_eq
        refine Or.inr (Or.inl ⟨subject, hlegal, hheld, ?_⟩)
        simp only [run, hjudge, Except.bind, bind, hheld.perform_eq]

/-- An outcome names the subjects of its command, whether it was accepted or refused. -/
theorem subjects_run (interpreter : Interpreter) (inventories : Inventories) (command : Command) :
    (interpreter.run inventories command).1.subjects = command.names := by
  rcases interpreter.run_cases inventories command with
    ⟨deed, outcome, after, -, hperforms, hrun⟩ | ⟨held, -, -, hrun⟩ | ⟨-, hrun⟩
  · rw [hrun, hperforms.subjects_eq]
  · rw [hrun, refuse]
  · rw [hrun, refuse]

/-! ## Judgement and deed agree -/

theorem Legal.perform_eq_ok_iff {deed : Deed}
    (hlegal : interpreter.Legal inventories command deed) :
    (∃ outcome after, interpreter.perform inventories deed command = .ok (outcome, after)) ↔
      ∀ subject, ¬interpreter.TakesHeld inventories command deed subject := by
  constructor
  · rintro ⟨outcome, after, hok⟩ subject hheld
    rw [hheld.perform_eq] at hok
    cases hok
  · intro hnone
    rcases hlegal.performs_or_takesHeld with ⟨outcome, after, hperforms⟩ | ⟨subject, hheld⟩
    · exact ⟨outcome, after, hperforms.perform_eq⟩
    · exact absurd hheld (hnone subject)

theorem Legal.perform_eq_error_iff {deed : Deed}
    (hlegal : interpreter.Legal inventories command deed) {refusal : Refusal} :
    interpreter.perform inventories deed command = .error refusal ↔
      ∃ subject, interpreter.TakesHeld inventories command deed subject ∧
        refusal = .alreadyHeld subject.name (interpreter.settings.inventoryOf subject) := by
  constructor
  · intro herror
    rcases hlegal.performs_or_takesHeld with ⟨outcome, after, hperforms⟩ | ⟨subject, hheld⟩
    · rw [hperforms.perform_eq] at herror
      cases herror
    · rw [hheld.perform_eq] at herror
      exact ⟨subject, hheld, (Except.error.inj herror).symm⟩
  · rintro ⟨subject, hheld, rfl⟩
    exact hheld.perform_eq

theorem run_ne_unresolved (interpreter : Interpreter) (inventories : Inventories)
    (command : Command) (action subject : String) :
    (interpreter.run inventories command).1.verdict ≠ .refused (.unresolved action subject) := by
  rcases interpreter.run_cases inventories command with
    ⟨deed, outcome, after, -, hperforms, hrun⟩ | ⟨held, -, -, hrun⟩ | ⟨-, hrun⟩
  · simp [hrun, hperforms.verdict_eq]
  · simp [hrun, refuse]
  · simp [hrun, refuse, command.flaw_ne_unresolved]

/-- The judgement can be relied on: a command that is judged to stand for a deed is carried out, and
is refused only for taking what is held already.  No line is refused because what was judged
possible could not be found again. -/
theorem perform_of_judge (interpreter : Interpreter) (inventories : Inventories) :
    (∀ command deed, interpreter.judge inventories command = .ok deed →
      ((∃ outcome after, interpreter.perform inventories deed command = .ok (outcome, after)) ↔
        ∀ subject, ¬interpreter.TakesHeld inventories command deed subject) ∧
      ∀ refusal, interpreter.perform inventories deed command = .error refusal ↔
        ∃ subject, interpreter.TakesHeld inventories command deed subject ∧
          refusal = .alreadyHeld subject.name (interpreter.settings.inventoryOf subject)) ∧
    ∀ line action subject,
      (interpreter.interpret inventories line).1.verdict ≠
        .refused (.unresolved action subject) := by
  constructor
  · intro command deed hjudge
    have hlegal := judge_eq_ok_iff.mp hjudge
    constructor
    · exact hlegal.perform_eq_ok_iff
    · intro refusal
      exact hlegal.perform_eq_error_iff
  · intro line action subject
    rw [interpret]
    exact interpreter.run_ne_unresolved inventories _ action subject

/-- A key that can be taken, and a word for dropping it that is the key's own. -/
def key : Subject where
  name := "key"
  keywords := ["key"]
  take := some { enabled := true }
  customActions := [{ verbs := ["drop"] }]

/-- The key is at hand. -/
def keyInterpreter : Interpreter := { registry := ⟨[key]⟩ }

/-- The key is held. -/
def keyHeld : Inventories := Inventories.empty.add "inventory" "key"

theorem perform_of_judge_key :
    keyInterpreter.judge keyHeld ⟨.take, [key]⟩ = .ok .take ∧
      keyInterpreter.perform keyHeld .take ⟨.take, [key]⟩ =
        .error (.alreadyHeld "key" "inventory") ∧
      keyInterpreter.judge keyHeld ⟨.drop, [key]⟩ = .ok .custom ∧
      ∃ outcome after,
        keyInterpreter.perform keyHeld .custom ⟨.drop, [key]⟩ = .ok (outcome, after) := by
  have htake : keyInterpreter.judge keyHeld ⟨.take, [key]⟩ = .ok .take := rfl
  have hdrop : keyInterpreter.judge keyHeld ⟨.drop, [key]⟩ = .ok .custom := rfl
  have hheld : keyInterpreter.TakesHeld keyHeld ⟨.take, [key]⟩ .take key :=
    ⟨rfl, rfl, ⟨_, rfl, rfl⟩, by decide⟩
  have hfree : ∀ subject, ¬keyInterpreter.TakesHeld keyHeld ⟨.drop, [key]⟩ .custom subject := by
    intro subject hheld
    cases hheld.deed_eq
  have hjudged := (perform_of_judge keyInterpreter keyHeld).1
  exact ⟨htake, ((hjudged _ _ htake).2 _).mpr ⟨key, hheld, rfl⟩, hdrop,
    (hjudged _ _ hdrop).1.mpr hfree⟩

end Interpreter

end TextAdventure
