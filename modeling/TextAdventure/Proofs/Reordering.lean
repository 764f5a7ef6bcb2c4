import Mathlib.Data.List.Find
import Mathlib.Data.List.Permutation
import TextAdventure.Proofs.AcceptedLines

/-!
# The order of registration

A line finds its subjects in the order in which they were registered.  Under distinct names another
order of the same subjects leads to the same subjects and the same deeds.  The order reaches the
answer in three places only: a refused use names its two subjects in their order, the help listing
enumerates what is at hand, and of two subjects that name each other as partners the first tells
what comes of their use.
-/

namespace TextAdventure

/-! ## Two subjects in either order -/

namespace Subject

variable {first second : Subject}

theorem isSome_pairing?_comm (first second : Subject) :
    (second.pairing? first).isSome = (first.pairing? second).isSome := by
  rw [pairing?, pairing?, Option.isSome_or, Option.isSome_or, Bool.or_comm]

/-- Only the entries of two subjects that name each other compete. -/
theorem pairing?_comm (honce : ¬(first.Partners second ∧ second.Partners first)) :
    second.pairing? first = first.pairing? second := by
  rw [← isSome_pairingWith?_iff, ← isSome_pairingWith?_iff] at honce
  rw [pairing?, pairing?]
  cases hfirst : first.pairingWith? second with
  | none => rw [Option.or_none, Option.none_or]
  | some entry =>
      have hsecond : second.pairingWith? first = none := by simpa [hfirst] using honce
      rw [hsecond, Option.none_or, Option.or_none]

end Subject

/-! ## Registries with the same subjects -/

namespace Registry

variable {registry other : Registry}

/-- A name belongs to one subject at most, so the order of the subjects does not matter to it. -/
theorem get?_eq_of_perm (hnames : (registry.subjects.map (·.name)).Nodup)
    (hperm : other.subjects.Perm registry.subjects) (name : String) :
    other.get? name = registry.get? name := by
  refine (List.find?_eq_find?_of_perm hperm.symm ?_).symm
  rintro first ⟨hfirst, hname⟩ second ⟨hsecond, hname'⟩
  exact List.inj_on_of_nodup_map hnames hfirst hsecond
    ((eq_of_beq hname).trans (eq_of_beq hname').symm)

theorem customAction?_eq_of_perm (hnames : (registry.subjects.map (·.name)).Nodup)
    (hperm : other.subjects.Perm registry.subjects) (verb : String) (subject : Subject) :
    other.customAction? verb subject = registry.customAction? verb subject := by
  rw [customAction?, customAction?, get?_eq_of_perm hnames hperm]

theorem mentioned_perm (hperm : other.subjects.Perm registry.subjects) (text : String) :
    (other.mentioned text).Perm (registry.mentioned text) := by
  rw [mentioned_eq_filter, mentioned_eq_filter]
  exact hperm.filter _

end Registry

theorem Command.ofLine_subjects_perm {registry other : Registry}
    (hperm : other.subjects.Perm registry.subjects) (line : String) :
    (ofLine other line).subjects.Perm (ofLine registry line).subjects := by
  simp only [ofLine]
  exact Registry.mentioned_perm hperm _

/-- The refusal with the two names of a use in the other order. -/
def Refusal.exchanged : Refusal → Refusal
  | noUsePairing first second => noUsePairing second first
  | refusal => refusal

namespace Interpreter

variable {interpreter : Interpreter} {inventories : Inventories} {other : Registry}

/-- What the command leads to tells the order of the subjects: it is the help listing, or a use of
two subjects that name each other as partners. -/
inductive TellsOrder (interpreter : Interpreter) : Command → Prop
  | help (hhelp : interpreter.settings.help = true) : TellsOrder interpreter ⟨.help, []⟩
  | use {first second : Subject} (hfirst : first.Partners second)
      (hsecond : second.Partners first) : TellsOrder interpreter ⟨.use, [first, second]⟩

/-- Another answer to the command is the same up to the order of the subjects.  An answer is an
outcome with the inventories after it. -/
structure AnswersAlike (interpreter : Interpreter) (command : Command)
    (answer other : Outcome × Inventories) : Prop where
  action_eq : other.1.action = answer.1.action
  subjects_perm : other.1.subjects.Perm answer.1.subjects
  verdict_eq : other.1.verdict = answer.1.verdict ∨ ∃ refusal : Refusal,
    answer.1.verdict = .refused refusal ∧ other.1.verdict = .refused refusal.exchanged
  scene_eq : other.1.scene = answer.1.scene
  change_eq : other.1.change = answer.1.change
  inventories_eq : other.2 = answer.2
  message_eq : ¬interpreter.TellsOrder command →
    other.1.message = answer.1.message ∨ ∃ refusal : Refusal,
      answer.1.verdict = .refused refusal ∧ other.1.verdict = .refused refusal.exchanged ∧
      answer.1.message = some ("ERROR: " ++ refusal.message) ∧
      other.1.message = some ("ERROR: " ++ refusal.exchanged.message)
  callback_eq : ¬interpreter.TellsOrder command → other.1.callback = answer.1.callback

theorem AnswersAlike.refl (command : Command) (answer : Outcome × Inventories) :
    interpreter.AnswersAlike command answer answer where
  action_eq := rfl
  subjects_perm := .rfl
  verdict_eq := Or.inl rfl
  scene_eq := rfl
  change_eq := rfl
  inventories_eq := rfl
  message_eq _ := Or.inl rfl
  callback_eq _ := rfl

/-! ## The same command with the subjects registered in another order -/

section

variable (hnames : (interpreter.registry.subjects.map (·.name)).Nodup)
  (hperm : other.subjects.Perm interpreter.registry.subjects)

include hnames hperm

theorem judge_eq_of_perm (command : Command) :
    judge { interpreter with registry := other } inventories command =
      interpreter.judge inventories command := by
  simp only [judge, judgeSole, Registry.customAction?_eq_of_perm hnames hperm]

/-- Every deed but help needs no more of the registry than the actions of the subjects' own. -/
theorem perform_eq_of_perm {deed : Deed} (hdeed : deed ≠ .help) (command : Command) :
    perform { interpreter with registry := other } inventories deed command =
      interpreter.perform inventories deed command := by
  cases deed with
  | help => exact absurd rfl hdeed
  | go | look | take | remember | drop | forget | use | custom =>
      simp only [perform, performSole, performTake,
        Registry.customAction?_eq_of_perm hnames hperm]

theorem run_eq_of_perm {command : Command}
    (hhelp : ¬interpreter.Legal inventories command .help) :
    run { interpreter with registry := other } inventories command =
      interpreter.run inventories command := by
  rw [run, run, judge_eq_of_perm hnames hperm]
  cases hjudge : interpreter.judge inventories command with
  | error refusal => rfl
  | ok deed =>
      have hdeed : deed ≠ .help := by
        rintro rfl
        exact hhelp (judge_eq_ok_iff.mp hjudge)
      simp only [bind, Except.bind, perform_eq_of_perm hnames hperm hdeed]
      rfl

end

/-! ## The same subjects in another order -/

/-- No action takes more than two subjects, and only a use takes two. -/
theorem run_of_crowd {command : Command} (hcrowd : 2 ≤ command.subjects.length)
    (huse : command.action = .use → command.subjects.length ≠ 2) :
    interpreter.run inventories command =
      (interpreter.refuse command .noValidSubject, inventories) := by
  obtain ⟨action, subjects⟩ := command
  match subjects with
  | [] | [_] => simp at hcrowd
  | [_, _] =>
      cases action with
      | use => exact absurd rfl (huse rfl)
      | go | look | take | remember | drop | forget | help | custom => rfl
  | _ :: _ :: _ :: _ => cases action <;> rfl

theorem run_of_use {first second : Subject} {entry : Pairing}
    (hpairing : first.pairing? second = some entry) :
    interpreter.run inventories ⟨.use, [first, second]⟩ =
      ({ Command.begun ⟨.use, [first, second]⟩ with
          message := some entry.description, callback := entry.trigger }, inventories) :=
  run_of_performs (.use hpairing) (.use rfl hpairing)

theorem run_of_useless {first second : Subject} (hpairing : first.pairing? second = none) :
    interpreter.run inventories ⟨.use, [first, second]⟩ =
      (interpreter.refuse ⟨.use, [first, second]⟩ (.noUsePairing first.name second.name),
        inventories) := by
  have hjudge : interpreter.judge inventories ⟨.use, [first, second]⟩ =
      .error (.noUsePairing first.name second.name) := by simp [judge, hpairing]
  rw [run, hjudge]
  rfl

theorem answersAlike_of_noValidSubject {command command' : Command}
    (haction : command'.action = command.action)
    (hsubjects : command'.subjects.Perm command.subjects) :
    interpreter.AnswersAlike command
      (interpreter.refuse command .noValidSubject, inventories)
      (interpreter.refuse command' .noValidSubject, inventories) where
  action_eq := haction
  subjects_perm := hsubjects.map _
  verdict_eq := Or.inl rfl
  scene_eq := rfl
  change_eq := rfl
  inventories_eq := rfl
  message_eq _ := Or.inl rfl
  callback_eq _ := rfl

/-- A use of two subjects is answered alike in either order. -/
theorem run_use_answersAlike (first second : Subject) :
    interpreter.AnswersAlike ⟨.use, [first, second]⟩
      (interpreter.run inventories ⟨.use, [first, second]⟩)
      (interpreter.run inventories ⟨.use, [second, first]⟩) := by
  have hsubjects : [second.name, first.name].Perm [first.name, second.name] := .swap _ _ _
  have hsome := first.isSome_pairing?_comm second
  cases hpairing : first.pairing? second with
  | none =>
      have hpairing' : second.pairing? first = none := by simpa [hpairing] using hsome
      rw [run_of_useless hpairing, run_of_useless hpairing']
      refine ⟨rfl, hsubjects, Or.inr ⟨_, rfl, rfl⟩, rfl, rfl, rfl, ?_, fun _ => rfl⟩
      intro _
      by_cases hverbose : interpreter.settings.verbose = true
      · right
        refine ⟨_, rfl, rfl, ?_, ?_⟩ <;> simp [refuse, hverbose, Refusal.exchanged]
      · left
        simp [refuse, hverbose]
  | some entry =>
      obtain ⟨entry', hpairing'⟩ : ∃ entry', second.pairing? first = some entry' := by
        rw [← Option.isSome_iff_exists, hsome, hpairing, Option.isSome_some]
      rw [run_of_use hpairing, run_of_use hpairing']
      have hsame : ¬interpreter.TellsOrder ⟨.use, [first, second]⟩ → entry' = entry := by
        intro htells
        have honce : ¬(first.Partners second ∧ second.Partners first) := by
          rintro ⟨hfirst, hsecond⟩
          exact htells (.use hfirst hsecond)
        rw [Subject.pairing?_comm honce, hpairing] at hpairing'
        exact (Option.some.inj hpairing').symm
      refine ⟨rfl, hsubjects, Or.inl rfl, rfl, rfl, rfl, ?_, ?_⟩
      · intro htells
        rw [hsame htells]
        exact Or.inl rfl
      · intro htells
        rw [hsame htells]

/-- A command is answered alike whatever the order of its subjects. -/
theorem run_answersAlike {command command' : Command} (haction : command'.action = command.action)
    (hsubjects : command'.subjects.Perm command.subjects) :
    interpreter.AnswersAlike command (interpreter.run inventories command)
      (interpreter.run inventories command') := by
  by_cases hcrowd : 2 ≤ command.subjects.length ∧
      (command.action = .use → command.subjects.length ≠ 2)
  · have hcrowd' := hcrowd
    rw [← hsubjects.length_eq, ← haction] at hcrowd'
    rw [run_of_crowd hcrowd.1 hcrowd.2, run_of_crowd hcrowd'.1 hcrowd'.2]
    exact answersAlike_of_noValidSubject haction hsubjects
  · obtain ⟨action, subjects⟩ := command
    obtain ⟨action', subjects'⟩ := command'
    obtain rfl : action' = action := haction
    match subjects with
    | [] =>
        obtain rfl := hsubjects.eq_nil
        exact .refl _ _
    | [_] =>
        obtain rfl := List.perm_singleton.mp hsubjects
        exact .refl _ _
    | [first, second] =>
        obtain rfl : action' = .use := by simpa using hcrowd
        rcases List.perm_pair.mp hsubjects with rfl | rfl
        · exact .refl _ _
        · exact run_use_answersAlike first second
    | _ :: _ :: _ :: _ => simp at hcrowd

/-! ## Commands and lines -/

theorem Legal.of_help {command : Command} (hlegal : interpreter.Legal inventories command .help) :
    command = ⟨.help, []⟩ ∧ interpreter.settings.help = true := by
  cases hlegal with
  | help hhelp => exact ⟨rfl, hhelp⟩
  | declared hdeclared =>
      rcases Subject.declaredDeed?_cases hdeclared with
        ⟨_, -, hdeed, -⟩ | ⟨_, -, hdeed, -⟩ | ⟨_, -, hdeed, -⟩ | ⟨_, -, hdeed, -⟩
      all_goals cases hdeed

/-- The help listing is one of the answers that tell the order of the subjects. -/
theorem run_help_answersAlike (hhelp : interpreter.settings.help = true) :
    interpreter.AnswersAlike ⟨.help, []⟩ (interpreter.run inventories ⟨.help, []⟩)
      (run { interpreter with registry := other } inventories ⟨.help, []⟩) := by
  have hother : Interpreter.settings { interpreter with registry := other } =
      interpreter.settings := rfl
  rw [run_of_performs (.help hhelp) .help, run_of_performs (.help (hother ▸ hhelp)) .help]
  exact ⟨rfl, .rfl, Or.inl rfl, rfl, rfl, rfl, absurd (.help hhelp), absurd (.help hhelp)⟩

theorem run_answersAlike_of_perm (hnames : (interpreter.registry.subjects.map (·.name)).Nodup)
    (hperm : other.subjects.Perm interpreter.registry.subjects) {command command' : Command}
    (haction : command'.action = command.action)
    (hsubjects : command'.subjects.Perm command.subjects) :
    interpreter.AnswersAlike command (interpreter.run inventories command)
      (run { interpreter with registry := other } inventories command') := by
  by_cases hhelp : interpreter.Legal inventories command' .help
  · obtain ⟨rfl, hsetting⟩ := hhelp.of_help
    obtain ⟨action, subjects⟩ := command
    obtain rfl : Action.help = action := haction
    obtain rfl := hsubjects.nil_eq
    exact run_help_answersAlike hsetting
  · rw [run_eq_of_perm hnames hperm hhelp]
    exact run_answersAlike haction hsubjects

/-- With distinct names at hand, every line is answered alike in whatever order the subjects were
registered. -/
theorem interpret_answersAlike_of_perm
    (hnames : (interpreter.registry.subjects.map (·.name)).Nodup)
    (hperm : other.subjects.Perm interpreter.registry.subjects) (inventories : Inventories)
    (line : String) :
    interpreter.AnswersAlike (Command.ofLine interpreter.registry line)
      (interpreter.interpret inventories line)
      (interpret { interpreter with registry := other } inventories line) := by
  rw [interpret, interpret]
  exact run_answersAlike_of_perm hnames hperm rfl (Command.ofLine_subjects_perm hperm line)

/-- A rope and a hook that both tell of their use together, and a lamp. -/
def ropeInterpreter : Interpreter where
  registry := ⟨[
    { name := "rope", keywords := ["rope"]
      uses := [{ partner := "hook", description := "You tie the rope to the hook." }] },
    { name := "hook", keywords := ["hook"]
      uses := [{ partner := "rope", description := "The hook holds the rope." }] },
    { name := "lamp", keywords := ["lamp"] }]⟩
  settings := { verbose := true }

/-- The same subjects, the last one first. -/
def ropeReversed : Registry :=
  ⟨ropeInterpreter.registry.subjects.reverse⟩

/-- The rope and the lamp are refused in either order, and the refusal names them in that order. -/
theorem interpret_answersAlike_of_perm_rope :
    (ropeInterpreter.registry.subjects.map (·.name)).Nodup ∧
      ropeReversed.subjects.Perm ropeInterpreter.registry.subjects ∧
      (ropeInterpreter.interpret .empty "use rope on lamp").1.message =
        some "ERROR: Neither rope nor lamp has the other defined in their USE property." ∧
      (interpret { ropeInterpreter with registry := ropeReversed } .empty
        "use rope on lamp").1.message =
        some "ERROR: Neither lamp nor rope has the other defined in their USE property." ∧
      ropeInterpreter.AnswersAlike
        (Command.ofLine ropeInterpreter.registry "use rope on lamp")
        (ropeInterpreter.interpret .empty "use rope on lamp")
        (interpret { ropeInterpreter with registry := ropeReversed } .empty
          "use rope on lamp") := by
  have hnames : (ropeInterpreter.registry.subjects.map (·.name)).Nodup := by decide
  have hperm : ropeReversed.subjects.Perm ropeInterpreter.registry.subjects :=
    List.reverse_perm _
  exact ⟨hnames, hperm, by decide, by decide,
    interpret_answersAlike_of_perm hnames hperm .empty "use rope on lamp"⟩

/-- Each of the rope and the hook tells of the use if it is found first. -/
example :
    (ropeInterpreter.interpret .empty "use rope on hook").1.message =
      some "You tie the rope to the hook." ∧
    (interpret { ropeInterpreter with registry := ropeReversed } .empty
      "use rope on hook").1.message = some "The hook holds the rope." := by
  decide

end Interpreter

end TextAdventure
