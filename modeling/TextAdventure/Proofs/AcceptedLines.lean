import TextAdventure.Proofs.AdvertisedVerbs
import TextAdventure.Proofs.InventoryRecord

/-!
# Accepted lines

A line is accepted exactly when something permits its command: what the only subject of the command
declares, an action of that subject's own, what is held, a partner for a use, or the help that is
offered.  This is told here by the parts of a subject alone, without the look-ups that an
interpreter makes on the way.  Whatever is not permitted is refused, and the shape of the command
and what is held tell for what.
-/

namespace TextAdventure

namespace Subject

/-- The subject declares what comes of the action. -/
def Declares (subject : Subject) : Action → Prop
  | .go => ∃ target, subject.go = some target
  | .look => ∃ text, subject.look = some text
  | .take => ∃ take, subject.take = some take
  | .remember => ∃ remember, subject.remember = some remember
  | .drop | .forget | .use | .help | .custom _ => False

/-- An action of the subject's own lists the word. -/
def Lists (subject : Subject) (word : String) : Prop :=
  ∃ custom ∈ subject.customActions, word ∈ custom.verbs

/-- The subject names the other one as a partner for a use. -/
def Partners (subject other : Subject) : Prop :=
  ∃ entry ∈ subject.uses, entry.partner = other.name

theorem declares_iff (subject : Subject) (action : Action) :
    subject.Declares action ↔ ∃ deed, subject.declaredDeed? action = some deed := by
  cases action <;> simp [Declares, declaredDeed?]

theorem isSome_pairingWith?_iff (first second : Subject) :
    (first.pairingWith? second).isSome ↔ first.Partners second := by
  simp [pairingWith?, Partners]

theorem exists_pairing?_iff (first second : Subject) :
    (∃ entry, first.pairing? second = some entry) ↔
      first.Partners second ∨ second.Partners first := by
  rw [← Option.isSome_iff_exists, pairing?, Option.isSome_or, Bool.or_eq_true,
    isSome_pairingWith?_iff, isSome_pairingWith?_iff]

end Subject

namespace Interpreter

variable {interpreter : Interpreter} {inventories : Inventories} {command : Command}

/-- The subject can be taken, and its inventory holds it already. -/
def HasTaken (interpreter : Interpreter) (inventories : Inventories) (subject : Subject) : Prop :=
  (∃ take, subject.take = some take ∧ take.enabled = true) ∧
    inventories.holds (interpreter.settings.inventoryOf subject) subject.name = true

/-- Something permits the command. -/
inductive Permits (interpreter : Interpreter) (inventories : Inventories) : Command → Prop
  | declared {action : Action} {subject : Subject} (hdeclares : subject.Declares action)
      (hfree : action = .take → ¬interpreter.HasTaken inventories subject) :
      Permits interpreter inventories ⟨action, [subject]⟩
  | own {action : Action} {subject : Subject} (hundeclared : ¬subject.Declares action)
      (hlists : subject.Lists action.spelling) :
      Permits interpreter inventories ⟨action, [subject]⟩
  | drop {subject : Subject} (hplain : ¬subject.Lists "drop")
      (hheld : inventories.holds (interpreter.settings.inventoryOf subject) subject.name = true) :
      Permits interpreter inventories ⟨.drop, [subject]⟩
  | forget {subject : Subject} (hplain : ¬subject.Lists "forget")
      (hheld : inventories.holds (interpreter.settings.bankOf subject) subject.name = true) :
      Permits interpreter inventories ⟨.forget, [subject]⟩
  | use {first second : Subject} (hpartners : first.Partners second ∨ second.Partners first) :
      Permits interpreter inventories ⟨.use, [first, second]⟩
  | help (hhelp : interpreter.settings.help = true) : Permits interpreter inventories ⟨.help, []⟩

/-- The command is refused for this reason. -/
inductive Denies (interpreter : Interpreter) (inventories : Inventories) :
    Command → Refusal → Prop
  | taken {subject : Subject} (htaken : interpreter.HasTaken inventories subject) :
      Denies interpreter inventories ⟨.take, [subject]⟩
        (.alreadyHeld subject.name (interpreter.settings.inventoryOf subject))
  | flawed {command : Command} (hforbidden : ¬interpreter.Permits inventories command)
      (hfree : ∀ subject, command = ⟨.take, [subject]⟩ →
        ¬interpreter.HasTaken inventories subject) :
      Denies interpreter inventories command command.flaw

/-! ## Permission and law -/

theorem Legal.takesHeld_iff {deed : Deed} (hlegal : interpreter.Legal inventories command deed)
    (subject : Subject) :
    interpreter.TakesHeld inventories command deed subject ↔
      command = ⟨.take, [subject]⟩ ∧ interpreter.HasTaken inventories subject := by
  constructor
  · rintro ⟨rfl, hsole, henabled, hheld⟩
    obtain ⟨action, subjects⟩ := command
    obtain rfl : subjects = [subject] := hsole
    obtain rfl : action = .take := hlegal.action_eq rfl
    exact ⟨rfl, henabled, hheld⟩
  · rintro ⟨rfl, ⟨take, htake, henabled⟩, hheld⟩
    have htakes : interpreter.Legal inventories ⟨.take, [subject]⟩ .take := by
      apply Legal.declared
      simp [Subject.declaredDeed?, htake]
    exact ⟨hlegal.deed_unique htakes, rfl, ⟨take, htake, henabled⟩, hheld⟩

theorem declaredDeed?_eq_none_iff {subject : Subject} {action : Action} :
    subject.declaredDeed? action = none ↔ ¬subject.Declares action := by
  rw [Subject.declares_iff, ← Option.isSome_iff_exists]
  simp

/-- Under distinct names, an interpreter finds an action of its own for a registered subject
exactly if the subject lists the word. -/
theorem exists_customAction?_iff (hnames : (interpreter.registry.subjects.map (·.name)).Nodup)
    {subject : Subject} (hsubject : subject ∈ interpreter.registry.subjects) (word : String) :
    (∃ custom, interpreter.registry.customAction? word subject = some custom) ↔
      subject.Lists word := by
  rw [← Option.isSome_iff_exists]
  exact Registry.isSome_customAction?_iff hnames hsubject word

theorem customAction?_eq_none_iff
    (hnames : (interpreter.registry.subjects.map (·.name)).Nodup)
    {subject : Subject} (hsubject : subject ∈ interpreter.registry.subjects) (word : String) :
    interpreter.registry.customAction? word subject = none ↔ ¬subject.Lists word := by
  rw [← exists_customAction?_iff hnames hsubject, ← Option.isSome_iff_exists]
  simp

/-- What is permitted is legal and does not take what is held already. -/
theorem Permits.exists_legal (hnames : (interpreter.registry.subjects.map (·.name)).Nodup)
    (hsubjects : ∀ subject ∈ command.subjects, subject ∈ interpreter.registry.subjects)
    (hpermits : interpreter.Permits inventories command) :
    ∃ deed, interpreter.Legal inventories command deed ∧
      ∀ subject, ¬interpreter.TakesHeld inventories command deed subject := by
  -- Only a deed of taking can take what is held.
  have hother : ∀ deed, interpreter.Legal inventories command deed → deed ≠ .take →
      ∃ deed, interpreter.Legal inventories command deed ∧
        ∀ subject, ¬interpreter.TakesHeld inventories command deed subject := by
    intro deed hlegal hdeed
    refine ⟨deed, hlegal, ?_⟩
    intro subject htakes
    exact hdeed htakes.deed_eq
  cases hpermits with
  | @declared action subject hdeclares hfree =>
      obtain ⟨deed, hdeclared⟩ := (subject.declares_iff action).mp hdeclares
      refine ⟨deed, .declared hdeclared, ?_⟩
      intro other htakes
      obtain ⟨hcommand, htaken⟩ := ((Legal.declared hdeclared).takesHeld_iff other).mp htakes
      obtain ⟨rfl, hsole⟩ := Command.mk.inj hcommand
      obtain rfl := List.singleton_inj.mp hsole
      exact hfree rfl htaken
  | @own action subject hundeclared hlists =>
      have hsubject := hsubjects subject (by simp)
      obtain ⟨custom, hcustom⟩ := (exists_customAction?_iff hnames hsubject _).mpr hlists
      have hnone := declaredDeed?_eq_none_iff.mpr hundeclared
      exact hother .custom (.custom hnone hcustom) (by decide)
  | @drop subject hplain hheld =>
      have hsubject := hsubjects subject (by simp)
      have hnone := (customAction?_eq_none_iff hnames hsubject _).mpr hplain
      exact hother .drop (.drop hnone hheld) (by decide)
  | @forget subject hplain hheld =>
      have hsubject := hsubjects subject (by simp)
      have hnone := (customAction?_eq_none_iff hnames hsubject _).mpr hplain
      exact hother .forget (.forget hnone hheld) (by decide)
  | @use first second hpartners =>
      obtain ⟨entry, hpairing⟩ := (first.exists_pairing?_iff second).mpr hpartners
      exact hother .use (.use hpairing) (by decide)
  | help hhelp => exact hother .help (.help hhelp) (by decide)

theorem Legal.permits (hnames : (interpreter.registry.subjects.map (·.name)).Nodup)
    (hsubjects : ∀ subject ∈ command.subjects, subject ∈ interpreter.registry.subjects)
    {deed : Deed} (hlegal : interpreter.Legal inventories command deed)
    (hfree : ∀ subject, ¬interpreter.TakesHeld inventories command deed subject) :
    interpreter.Permits inventories command := by
  have htaken : ∀ subject, command = ⟨.take, [subject]⟩ →
      ¬interpreter.HasTaken inventories subject := by
    intro subject hcommand htaken
    exact hfree subject ((hlegal.takesHeld_iff subject).mpr ⟨hcommand, htaken⟩)
  cases hlegal with
  | @declared action subject deed hdeclared =>
      apply Permits.declared ((subject.declares_iff action).mpr ⟨deed, hdeclared⟩)
      rintro rfl
      exact htaken subject rfl
  | @custom action subject custom hundeclared hcustom =>
      have hsubject := hsubjects subject (by simp)
      have hlists := (exists_customAction?_iff hnames hsubject _).mp ⟨custom, hcustom⟩
      exact .own (declaredDeed?_eq_none_iff.mp hundeclared) hlists
  | @drop subject hplain hheld =>
      have hsubject := hsubjects subject (by simp)
      exact .drop ((customAction?_eq_none_iff hnames hsubject _).mp hplain) hheld
  | @forget subject hplain hheld =>
      have hsubject := hsubjects subject (by simp)
      exact .forget ((customAction?_eq_none_iff hnames hsubject _).mp hplain) hheld
  | @use first second entry hpairing =>
      exact .use ((first.exists_pairing?_iff second).mp ⟨entry, hpairing⟩)
  | help hhelp => exact .help hhelp

/-! ## Verdicts -/

/-- A command on registered subjects of distinct names is accepted if it is permitted, and refused
for what denies it otherwise. -/
theorem verdict_run (inventories : Inventories)
    (hnames : (interpreter.registry.subjects.map (·.name)).Nodup)
    (hsubjects : ∀ subject ∈ command.subjects, subject ∈ interpreter.registry.subjects) :
    (interpreter.Permits inventories command ∧
        (interpreter.run inventories command).1.verdict = .accepted) ∨
      ∃ refusal, interpreter.Denies inventories command refusal ∧
        (interpreter.run inventories command).1.verdict = .refused refusal := by
  rcases interpreter.run_cases inventories command with
    ⟨deed, outcome, after, hlegal, hdeed, hrun⟩ | ⟨subject, hlegal, htakes, hrun⟩ |
      ⟨hillegal, hrun⟩
  · left
    have hfree := hlegal.perform_eq_ok_iff.mp ⟨outcome, after, hdeed.perform_eq⟩
    exact ⟨hlegal.permits hnames hsubjects hfree, by rw [hrun, hdeed.verdict_eq]⟩
  · right
    obtain ⟨rfl, htaken⟩ := (hlegal.takesHeld_iff subject).mp htakes
    exact ⟨_, .taken htaken, by rw [hrun, refuse]⟩
  · right
    refine ⟨_, .flawed ?_ ?_, by rw [hrun, refuse]⟩
    · intro hpermits
      obtain ⟨deed, hlegal, -⟩ := hpermits.exists_legal hnames hsubjects
      exact hillegal deed hlegal
    · rintro subject rfl ⟨⟨take, htake, -⟩, -⟩
      apply hillegal .take
      apply Legal.declared
      simp [Subject.declaredDeed?, htake]

theorem Denies.not_permits {refusal : Refusal}
    (hdenies : interpreter.Denies inventories command refusal) :
    ¬interpreter.Permits inventories command := by
  cases hdenies with
  | flawed hforbidden hfree => exact hforbidden
  | @taken subject htaken =>
      intro hpermits
      cases hpermits with
      | declared hdeclares hfree => exact hfree rfl htaken
      | own hundeclared hlists =>
          apply hundeclared
          obtain ⟨⟨take, htake, -⟩, -⟩ := htaken
          exact ⟨take, htake⟩

theorem Denies.unique {refusal other : Refusal}
    (hrefusal : interpreter.Denies inventories command refusal)
    (hother : interpreter.Denies inventories command other) : refusal = other := by
  cases hrefusal with
  | taken htaken =>
      cases hother with
      | taken => rfl
      | flawed _ hfree => exact absurd htaken (hfree _ rfl)
  | flawed _ hfree =>
      cases hother with
      | taken htaken => exact absurd htaken (hfree _ rfl)
      | flawed => rfl

/-- With distinct names at hand, a line is accepted exactly if its command is permitted, and refused
exactly for what denies the command. -/
theorem verdict_interpret_iff (hnames : (interpreter.registry.subjects.map (·.name)).Nodup)
    (inventories : Inventories) (line : String) :
    ((interpreter.interpret inventories line).1.verdict = .accepted ↔
      interpreter.Permits inventories (Command.ofLine interpreter.registry line)) ∧
    ∀ refusal, (interpreter.interpret inventories line).1.verdict = .refused refusal ↔
      interpreter.Denies inventories (Command.ofLine interpreter.registry line) refusal := by
  rw [interpret]
  have hsubjects : ∀ subject ∈ (Command.ofLine interpreter.registry line).subjects,
      subject ∈ interpreter.registry.subjects :=
    fun subject hsubject => Command.mem_of_mem_ofLine hsubject
  rcases interpreter.verdict_run inventories hnames hsubjects with
    ⟨hpermits, hverdict⟩ | ⟨reason, hdenies, hverdict⟩
  · rw [hverdict]
    constructor
    · exact iff_of_true rfl hpermits
    · intro refusal
      apply iff_of_false
      · simp
      · intro hdenies
        exact hdenies.not_permits hpermits
  · rw [hverdict]
    constructor
    · exact iff_of_false (by simp) hdenies.not_permits
    · intro refusal
      constructor
      · intro hsame
        exact Verdict.refused.inj hsame ▸ hdenies
      · intro hother
        rw [hdenies.unique hother]

/-- The key answers to its own word for dropping, cannot be taken twice, and needs a partner. -/
theorem verdict_interpret_iff_key :
    (keyInterpreter.registry.subjects.map (·.name)).Nodup ∧
      (keyInterpreter.interpret keyHeld "drop key").1.verdict = .accepted ∧
      (keyInterpreter.interpret keyHeld "take key").1.verdict =
        .refused (.alreadyHeld "key" "inventory") ∧
      (keyInterpreter.interpret keyHeld "use key").1.verdict = .refused .useNeedsTwoSubjects := by
  have hnames : (keyInterpreter.registry.subjects.map (·.name)).Nodup := by decide
  have hdrop : Command.ofLine keyInterpreter.registry "drop key" = ⟨.drop, [key]⟩ := by decide
  have htake : Command.ofLine keyInterpreter.registry "take key" = ⟨.take, [key]⟩ := by decide
  have huse : Command.ofLine keyInterpreter.registry "use key" = ⟨.use, [key]⟩ := by decide
  refine ⟨hnames, (verdict_interpret_iff hnames keyHeld _).1.mpr ?_,
    ((verdict_interpret_iff hnames keyHeld _).2 _).mpr ?_,
    ((verdict_interpret_iff hnames keyHeld _).2 _).mpr ?_⟩
  · rw [hdrop]
    exact .own id ⟨{ verbs := ["drop"] }, by decide, by decide⟩
  · rw [htake]
    exact .taken ⟨⟨_, rfl, rfl⟩, by decide⟩
  · rw [huse]
    apply Denies.flawed
    · intro hpermits
      cases hpermits with
      | declared hdeclares => exact hdeclares
      | own _ hlists =>
          obtain ⟨custom, hcustom, hverb⟩ := hlists
          obtain rfl := List.mem_singleton.mp hcustom
          revert hverb
          decide
    · intro subject hcommand
      cases hcommand

end Interpreter

end TextAdventure
