import TextAdventure.Interpreter

/-!
# Legal commands

A command is legal when something makes it so: what its only subject declares, an action of that
subject's own, what is held, a use of two subjects together, or the help that the settings offer.
This is told by a relation between commands and the deeds that they stand for, and the judgement of
an interpreter is exactly this relation.
-/

namespace TextAdventure

namespace Interpreter

variable {interpreter : Interpreter} {inventories : Inventories}

/-- The command is legal, and stands for the deed. -/
inductive Legal (interpreter : Interpreter) (inventories : Inventories) : Command → Deed → Prop
  | declared {action : Action} {subject : Subject} {deed : Deed}
      (hdeclared : subject.declaredDeed? action = some deed) :
      Legal interpreter inventories ⟨action, [subject]⟩ deed
  | custom {action : Action} {subject : Subject} {custom : CustomAction}
      (hundeclared : subject.declaredDeed? action = none)
      (hcustom : interpreter.registry.customAction? action.spelling subject = some custom) :
      Legal interpreter inventories ⟨action, [subject]⟩ .custom
  | drop {subject : Subject}
      (hplain : interpreter.registry.customAction? Action.drop.spelling subject = none)
      (hheld : inventories.holds (interpreter.settings.inventoryOf subject) subject.name = true) :
      Legal interpreter inventories ⟨.drop, [subject]⟩ .drop
  | forget {subject : Subject}
      (hplain : interpreter.registry.customAction? Action.forget.spelling subject = none)
      (hheld : inventories.holds (interpreter.settings.bankOf subject) subject.name = true) :
      Legal interpreter inventories ⟨.forget, [subject]⟩ .forget
  | use {first second : Subject} {entry : Pairing}
      (hpairing : first.pairing? second = some entry) :
      Legal interpreter inventories ⟨.use, [first, second]⟩ .use
  | help (hhelp : interpreter.settings.help = true) :
      Legal interpreter inventories ⟨.help, []⟩ .help

end Interpreter

/-- A subject declares a deed for four actions only, and each with what the deed needs. -/
theorem Subject.declaredDeed?_cases {subject : Subject} {action : Action} {deed : Deed}
    (hdeclared : subject.declaredDeed? action = some deed) :
    (∃ target, action = .go ∧ deed = .go ∧ subject.go = some target) ∨
      (∃ text, action = .look ∧ deed = .look ∧ subject.look = some text) ∨
      (∃ take, action = .take ∧ deed = .take ∧ subject.take = some take) ∨
      ∃ remember, action = .remember ∧ deed = .remember ∧ subject.remember = some remember := by
  cases action with
  | go =>
      obtain ⟨target, hgo, rfl⟩ := Option.map_eq_some_iff.mp hdeclared
      exact Or.inl ⟨target, rfl, rfl, hgo⟩
  | look =>
      obtain ⟨text, hlook, rfl⟩ := Option.map_eq_some_iff.mp hdeclared
      exact Or.inr (Or.inl ⟨text, rfl, rfl, hlook⟩)
  | take =>
      obtain ⟨take, htake, rfl⟩ := Option.map_eq_some_iff.mp hdeclared
      exact Or.inr (Or.inr (Or.inl ⟨take, rfl, rfl, htake⟩))
  | remember =>
      obtain ⟨remember, hremember, rfl⟩ := Option.map_eq_some_iff.mp hdeclared
      exact Or.inr (Or.inr (Or.inr ⟨remember, rfl, rfl, hremember⟩))
  | drop | forget | use | help | custom => cases hdeclared

namespace Interpreter

variable {interpreter : Interpreter} {inventories : Inventories}

/-! ## One subject -/

theorem judgeSole_of_declared {action : Action} {subject : Subject} {deed : Deed}
    (hdeclared : subject.declaredDeed? action = some deed) :
    interpreter.judgeSole inventories action subject = .ok deed := by
  simp only [judgeSole, hdeclared]

theorem judgeSole_of_custom {action : Action} {subject : Subject} {custom : CustomAction}
    (hundeclared : subject.declaredDeed? action = none)
    (hcustom : interpreter.registry.customAction? action.spelling subject = some custom) :
    interpreter.judgeSole inventories action subject = .ok .custom := by
  simp [judgeSole, hundeclared, hcustom]

theorem legal_of_judgeSole {action : Action} {subject : Subject} {deed : Deed}
    (hjudge : interpreter.judgeSole inventories action subject = .ok deed) :
    interpreter.Legal inventories ⟨action, [subject]⟩ deed := by
  cases hdeclared : subject.declaredDeed? action with
  | some declared =>
      rw [judgeSole_of_declared hdeclared] at hjudge
      obtain rfl := Except.ok.inj hjudge
      exact .declared hdeclared
  | none =>
      cases hcustom : interpreter.registry.customAction? action.spelling subject with
      | some custom =>
          rw [judgeSole_of_custom hdeclared hcustom] at hjudge
          obtain rfl := Except.ok.inj hjudge
          exact .custom hdeclared hcustom
      | none =>
          -- Nothing that the subject declares helps, so only what is held can.
          cases action with
          | drop =>
              by_cases hheld : inventories.holds (interpreter.settings.inventoryOf subject)
                  subject.name = true
              · simp only [judgeSole, hdeclared, hcustom, hheld] at hjudge
                obtain rfl := Except.ok.inj hjudge
                exact .drop hcustom hheld
              · simp [judgeSole, hdeclared, hcustom, hheld] at hjudge
          | forget =>
              by_cases hheld : inventories.holds (interpreter.settings.bankOf subject)
                  subject.name = true
              · simp only [judgeSole, hdeclared, hcustom, hheld] at hjudge
                obtain rfl := Except.ok.inj hjudge
                exact .forget hcustom hheld
              · simp [judgeSole, hdeclared, hcustom, hheld] at hjudge
          | go | look | take | remember | use | help | custom =>
              simp [judgeSole, hdeclared, hcustom] at hjudge

/-! ## Any number of subjects -/

/-- A command is judged to stand for a deed exactly when it legally does. -/
theorem judge_eq_ok_iff {command : Command} {deed : Deed} :
    interpreter.judge inventories command = .ok deed ↔
      interpreter.Legal inventories command deed := by
  constructor
  · intro hjudge
    obtain ⟨action, subjects⟩ := command
    match subjects with
    | [subject] => exact legal_of_judgeSole hjudge
    | [] =>
        cases action with
        | help =>
            by_cases hhelp : interpreter.settings.help = true
            · simp only [judge, hhelp] at hjudge
              obtain rfl := Except.ok.inj hjudge
              exact .help hhelp
            · simp [judge, hhelp] at hjudge
        | go | look | take | remember | drop | forget | use | custom => cases hjudge
    | [first, second] =>
        cases action with
        | use =>
            cases hpairing : first.pairing? second with
            | none => simp [judge, hpairing] at hjudge
            | some entry =>
                simp only [judge, hpairing] at hjudge
                obtain rfl := Except.ok.inj hjudge
                exact .use hpairing
        | go | look | take | remember | drop | forget | help | custom => cases hjudge
    | _ :: _ :: _ :: _ => cases action <;> cases hjudge
  · intro hlegal
    cases hlegal with
    | declared hdeclared => exact judgeSole_of_declared hdeclared
    | custom hundeclared hcustom => exact judgeSole_of_custom hundeclared hcustom
    | drop hplain hheld =>
        simp [judge, judgeSole, Subject.declaredDeed?, hplain, hheld]
    | forget hplain hheld =>
        simp [judge, judgeSole, Subject.declaredDeed?, hplain, hheld]
    | use hpairing => simp [judge, hpairing]
    | help hhelp => simp [judge, hhelp]

end Interpreter

/-! ## Deeds and their actions -/

/-- The action that a deed stems from, where no other leads to it. -/
def Deed.action? : Deed → Option Action
  | .go => some .go
  | .look => some .look
  | .take => some .take
  | .remember => some .remember
  | .drop => some .drop
  | .forget => some .forget
  | .use => some .use
  | .help => some .help
  | .custom => none

theorem Interpreter.Legal.action_eq {interpreter : Interpreter} {inventories : Inventories}
    {command : Command} {deed : Deed} (hlegal : interpreter.Legal inventories command deed)
    {action : Action} (haction : deed.action? = some action) : command.action = action := by
  cases hlegal with
  | declared hdeclared =>
      rcases Subject.declaredDeed?_cases hdeclared with
        ⟨_, rfl, rfl, -⟩ | ⟨_, rfl, rfl, -⟩ | ⟨_, rfl, rfl, -⟩ | ⟨_, rfl, rfl, -⟩
      all_goals exact Option.some.inj haction
  | custom => cases haction
  | drop | forget | use | help => exact Option.some.inj haction

theorem Interpreter.Legal.deed_unique {interpreter : Interpreter} {inventories : Inventories}
    {command : Command} {deed other : Deed}
    (hdeed : interpreter.Legal inventories command deed)
    (hother : interpreter.Legal inventories command other) : deed = other := by
  have hjudge := judge_eq_ok_iff.mpr hdeed
  rw [judge_eq_ok_iff.mpr hother] at hjudge
  exact (Except.ok.inj hjudge).symm

/-! ## Why a command is refused -/

/-- What is wrong with the command if it is not legal. -/
def Command.flaw (command : Command) : Refusal :=
  match command.action, command.subjects with
  | .drop, [subject] => .notInInventory subject.name
  | .forget, [subject] => .notInMemoryBank subject.name
  | .use, [_] => .useNeedsTwoSubjects
  | action, [subject] => .undefinedAction action.spelling subject.name
  | .use, [first, second] => .noUsePairing first.name second.name
  | _, _ => .noValidSubject

theorem Command.flaw_ne_unresolved (command : Command) (action subject : String) :
    command.flaw ≠ .unresolved action subject := by
  unfold flaw
  split <;> simp

namespace Interpreter

variable {interpreter : Interpreter} {inventories : Inventories}

theorem judgeSole_eq_error {action : Action} {subject : Subject} {refusal : Refusal}
    (hjudge : interpreter.judgeSole inventories action subject = .error refusal) :
    refusal = Command.flaw ⟨action, [subject]⟩ := by
  unfold judgeSole at hjudge
  split at hjudge
  · cases hjudge
  · split at hjudge
    · cases hjudge
    · cases action with
      | drop | forget =>
          dsimp only at hjudge
          split at hjudge
          · cases hjudge
          · exact (Except.error.inj hjudge).symm
      | go | look | take | remember | use | help | custom =>
          exact (Except.error.inj hjudge).symm

/-- A command that is judged to be refused is refused for its flaw. -/
theorem judge_eq_error {command : Command} {refusal : Refusal}
    (hjudge : interpreter.judge inventories command = .error refusal) :
    refusal = command.flaw := by
  obtain ⟨action, subjects⟩ := command
  match subjects with
  | [subject] => exact judgeSole_eq_error hjudge
  | [] =>
      cases action with
      | help =>
          simp only [judge] at hjudge
          split at hjudge
          · cases hjudge
          · exact (Except.error.inj hjudge).symm
      | go | look | take | remember | drop | forget | use | custom =>
          exact (Except.error.inj hjudge).symm
  | [first, second] =>
      cases action with
      | use =>
          simp only [judge] at hjudge
          split at hjudge
          · cases hjudge
          · exact (Except.error.inj hjudge).symm
      | go | look | take | remember | drop | forget | help | custom =>
          exact (Except.error.inj hjudge).symm
  | _ :: _ :: _ :: _ => cases action <;> exact (Except.error.inj hjudge).symm

end Interpreter

end TextAdventure
