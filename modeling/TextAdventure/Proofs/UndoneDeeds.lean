import TextAdventure.Proofs.AcceptedLines
import TextAdventure.Proofs.ItemCounts

/-!
# Deeds that are undone

Dropping undoes taking, and forgetting undoes remembering: both lines are accepted, and after them
every inventory lists what it did.  The first line of such a pair is judged by what the subject
declares and the second by what is held, so the proof has to see that both use the same inventory
and that an item which was not held is put at the end, from where it is removed again.
-/

namespace TextAdventure

theorem ItemList.remove_add {list : ItemList} {item : String} (hfree : list.has item = false) :
    (list.add item).remove item = list := by
  have hmem : item ∉ list := by simpa [has] using hfree
  have hadd : list.add item = list ++ [item] := by simp [add, hmem]
  rw [hadd, remove, List.erase_append_right _ hmem]
  simp

namespace Inventories

variable {inventories : Inventories} {name item : String}

theorem holds_add_self (inventories : Inventories) (name item : String) :
    (inventories.add name item).holds name item = true := by
  rw [holds_iff_count_pos, count_add_self]
  omega

/-- What was not held is not held after it is added and removed. -/
theorem holds_remove_add (hfree : inventories.holds name item = false) :
    ((inventories.add name item).remove name item).holds name item = false := by
  have hzero : ¬0 < inventories.count name item := by
    rw [← holds_iff_count_pos, hfree]
    decide
  rw [← Bool.not_eq_true, holds_iff_count_pos, count_remove_self, count_add_self]
  omega

/-- Adding an item that is not held and removing it again changes no list of items.  The inventory
exists after that. -/
theorem get?_remove_add (hfree : inventories.holds name item = false) (key : String) :
    ((inventories.add name item).remove name item).get? key =
      if key = name then some ((inventories.get? name).getD []) else inventories.get? key := by
  have hlist : ItemList.has ((inventories.get? name).getD []) item = false := by
    cases hget : inventories.get? name with
    | none => rfl
    | some list => simpa [holds, hget] using hfree
  rw [remove, get?_modify, add, get?_modify, get?_modify]
  by_cases hkey : key = name
  · simp [hkey, ItemList.remove_add hlist]
  · simp [hkey]

end Inventories

namespace Interpreter

variable {interpreter : Interpreter} {inventories : Inventories} {subject : Subject}

/-! ## Lines that follow one another -/

/-- Interprets lines one after another: their verdicts, and the inventories after the last one. -/
def interpretAll (interpreter : Interpreter) (inventories : Inventories) :
    List String → List Verdict × Inventories
  | [] => ([], inventories)
  | line :: rest =>
    let (outcome, after) := interpreter.interpret inventories line
    let (verdicts, last) := interpreter.interpretAll after rest
    (outcome.verdict :: verdicts, last)

/-- A verb in front of a text that mentions one subject gives the command on this subject. -/
theorem interpret_of_mentioned {verb text : String} (hverb : Line.IsVerb verb)
    (htext : Text.trimmed text = text)
    (hmentioned : interpreter.registry.mentioned text = [subject])
    (inventories : Inventories) :
    interpreter.interpret inventories (verb ++ " " ++ text) =
      interpreter.run inventories ⟨Action.ofVerb verb, [subject]⟩ := by
  rw [interpret, Command.ofLine_of_isVerb hverb htext, hmentioned]

/-! ## Pairs of verbs -/

/-- The first verb puts the subject into an inventory, and the second one takes it out again.  The
second verb is refused for a reason of its own when the inventory does not hold the subject. -/
inductive Reverses (interpreter : Interpreter) (subject : Subject) :
    String → String → String → Refusal → Prop
  | take {take : Take} (htake : subject.take = some take) (henabled : take.enabled = true) :
      Reverses interpreter subject "take" "drop" (interpreter.settings.inventoryOf subject)
        (.notInInventory subject.name)
  | remember {remember : Remember} (hremember : subject.remember = some remember) :
      Reverses interpreter subject "remember" "forget" (interpreter.settings.bankOf subject)
        (.notInMemoryBank subject.name)

variable {verb undo inventory : String} {refusal : Refusal}

theorem Reverses.isVerb (hreverses : interpreter.Reverses subject verb undo inventory refusal) :
    Line.IsVerb verb ∧ Line.IsVerb undo := by
  cases hreverses with
  | take | remember => exact ⟨⟨by decide, by decide, by decide⟩, by decide, by decide, by decide⟩

/-- What is not held is put into the inventory. -/
theorem Reverses.run_verb (hreverses : interpreter.Reverses subject verb undo inventory refusal)
    (hfree : inventories.holds inventory subject.name = false) :
    ∃ outcome, outcome.verdict = .accepted ∧
      interpreter.run inventories ⟨Action.ofVerb verb, [subject]⟩ =
        (outcome, inventories.add inventory subject.name) := by
  cases hreverses with
  | take htake henabled =>
      have hlegal : interpreter.Legal inventories ⟨.take, [subject]⟩ .take :=
        .declared (by simp [Subject.declaredDeed?, htake])
      have hdeed : interpreter.Performs inventories ⟨.take, [subject]⟩ .take _ _ :=
        .take rfl htake henabled hfree
      exact ⟨_, hdeed.verdict_eq, run_of_performs hlegal hdeed⟩
  | remember hremember =>
      have hlegal : interpreter.Legal inventories ⟨.remember, [subject]⟩ .remember :=
        .declared (by simp [Subject.declaredDeed?, hremember])
      have hdeed : interpreter.Performs inventories ⟨.remember, [subject]⟩ .remember _ _ :=
        .remember rfl hremember
      exact ⟨_, hdeed.verdict_eq, run_of_performs hlegal hdeed⟩

/-- What is held is taken out of the inventory, unless the subject has a word of its own for
that. -/
theorem Reverses.run_undo (hreverses : interpreter.Reverses subject verb undo inventory refusal)
    (hplain : interpreter.registry.customAction? undo subject = none)
    (hheld : inventories.holds inventory subject.name = true) :
    ∃ outcome, outcome.verdict = .accepted ∧
      interpreter.run inventories ⟨Action.ofVerb undo, [subject]⟩ =
        (outcome, inventories.remove inventory subject.name) := by
  cases hreverses with
  | take htake henabled =>
      have hdeed : interpreter.Performs inventories ⟨.drop, [subject]⟩ .drop _ _ := .drop rfl
      exact ⟨_, hdeed.verdict_eq, run_of_performs (.drop hplain hheld) hdeed⟩
  | remember hremember =>
      have hdeed : interpreter.Performs inventories ⟨.forget, [subject]⟩ .forget _ _ := .forget rfl
      exact ⟨_, hdeed.verdict_eq, run_of_performs (.forget hplain hheld) hdeed⟩

/-- A command that is not legal is refused for its flaw, and nothing is done. -/
theorem run_of_not_legal {command : Command}
    (hillegal : ∀ deed, ¬interpreter.Legal inventories command deed) :
    interpreter.run inventories command =
      (interpreter.refuse command command.flaw, inventories) := by
  rcases interpreter.run_cases inventories command with
    ⟨deed, -, -, hlegal, -, -⟩ | ⟨-, hlegal, -, -⟩ | ⟨-, hrun⟩
  · exact absurd hlegal (hillegal deed)
  · exact absurd hlegal (hillegal .take)
  · exact hrun

/-- What is not held cannot be taken out of the inventory. -/
theorem Reverses.run_undo_of_free
    (hreverses : interpreter.Reverses subject verb undo inventory refusal)
    (hplain : interpreter.registry.customAction? undo subject = none)
    (hfree : inventories.holds inventory subject.name = false) :
    ∃ outcome, outcome.verdict = .refused refusal ∧
      interpreter.run inventories ⟨Action.ofVerb undo, [subject]⟩ = (outcome, inventories) := by
  cases hreverses with
  | take htake henabled =>
      have hillegal : ∀ deed, ¬interpreter.Legal inventories ⟨.drop, [subject]⟩ deed := by
        intro deed hlegal
        cases hlegal with
        | declared hdeclared => cases hdeclared
        | custom _ hcustom => cases hplain.symm.trans hcustom
        | drop _ hheld => cases hfree.symm.trans hheld
      exact ⟨_, rfl, run_of_not_legal hillegal⟩
  | remember hremember =>
      have hillegal : ∀ deed, ¬interpreter.Legal inventories ⟨.forget, [subject]⟩ deed := by
        intro deed hlegal
        cases hlegal with
        | declared hdeclared => cases hdeclared
        | custom _ hcustom => cases hplain.symm.trans hcustom
        | forget _ hheld => cases hfree.symm.trans hheld
      exact ⟨_, rfl, run_of_not_legal hillegal⟩

/-! ## Undoing -/

/-- The second line undoes the first: both are accepted, and after them every inventory lists what
it did, in the same order, where only the inventory in use may be new, and is empty then.  The
second line once more is refused and changes nothing. -/
def Undoes (interpreter : Interpreter) (inventories : Inventories) (line undo inventory : String)
    (refusal : Refusal) : Prop :=
  ∃ after, interpreter.interpretAll inventories [line, undo] = ([.accepted, .accepted], after) ∧
    (∀ name, after.get? name =
      if name = inventory then some ((inventories.get? inventory).getD [])
      else inventories.get? name) ∧
    interpreter.interpretAll after [undo] = ([.refused refusal], after)

theorem Reverses.undoes (hreverses : interpreter.Reverses subject verb undo inventory refusal)
    (hnames : (interpreter.registry.subjects.map (·.name)).Nodup) {text : String}
    (htext : Text.trimmed text = text)
    (hmentioned : interpreter.registry.mentioned text = [subject])
    (hunlisted : ¬subject.Lists undo)
    (hfree : inventories.holds inventory subject.name = false) :
    interpreter.Undoes inventories (verb ++ " " ++ text) (undo ++ " " ++ text) inventory
      refusal := by
  have hsubject : subject ∈ interpreter.registry.subjects :=
    Registry.mem_of_mem_mentioned (by rw [hmentioned]; exact List.mem_singleton_self subject)
  have hplain := (customAction?_eq_none_iff hnames hsubject undo).mpr hunlisted
  have hfirst := interpret_of_mentioned hreverses.isVerb.1 htext hmentioned
  have hsecond := interpret_of_mentioned hreverses.isVerb.2 htext hmentioned
  obtain ⟨done, hdone, hrun⟩ := hreverses.run_verb hfree
  obtain ⟨undone, hundone, hrunUndo⟩ :=
    hreverses.run_undo hplain (inventories.holds_add_self inventory subject.name)
  obtain ⟨refused, hrefused, hrunAgain⟩ :=
    hreverses.run_undo_of_free hplain (Inventories.holds_remove_add hfree)
  refine ⟨(inventories.add inventory subject.name).remove inventory subject.name, ?_, ?_, ?_⟩
  · simp only [interpretAll, hfirst, hsecond, hrun, hrunUndo, hdone, hundone]
  · intro name
    exact Inventories.get?_remove_add hfree name
  · simp only [interpretAll, hsecond, hrunAgain, hrefused]

/-- Dropping a subject undoes taking it, and forgetting a subject undoes remembering it, if the
subject was not held before and has no words of its own for dropping and forgetting. -/
theorem undoes_take_and_undoes_remember
    (hnames : (interpreter.registry.subjects.map (·.name)).Nodup) {text : String}
    (htext : Text.trimmed text = text)
    (hmentioned : interpreter.registry.mentioned text = [subject])
    (inventories : Inventories) :
    (∀ take, subject.take = some take → take.enabled = true → ¬subject.Lists "drop" →
      inventories.holds (interpreter.settings.inventoryOf subject) subject.name = false →
      interpreter.Undoes inventories ("take" ++ " " ++ text) ("drop" ++ " " ++ text)
        (interpreter.settings.inventoryOf subject) (.notInInventory subject.name)) ∧
    ∀ remember, subject.remember = some remember → ¬subject.Lists "forget" →
      inventories.holds (interpreter.settings.bankOf subject) subject.name = false →
      interpreter.Undoes inventories ("remember" ++ " " ++ text) ("forget" ++ " " ++ text)
        (interpreter.settings.bankOf subject) (.notInMemoryBank subject.name) := by
  constructor
  · intro take htake henabled hunlisted hfree
    exact (Reverses.take htake henabled).undoes hnames htext hmentioned hunlisted hfree
  · intro remember hremember hunlisted hfree
    exact (Reverses.remember hremember).undoes hnames htext hmentioned hunlisted hfree

/-- There is no purse yet, and something is remembered. -/
def noPurse : Inventories := ⟨.ofList [("memorybank", ["song", "rope"])]⟩

/-- The coin is taken into a purse that is new, and remembered behind what is remembered. -/
theorem undoes_take_and_undoes_remember_coin :
    (coinInterpreter.registry.subjects.map (·.name)).Nodup ∧
      Text.trimmed "the Coin" = "the Coin" ∧
      coinInterpreter.registry.mentioned "the Coin" = [coin] ∧
      ¬coin.Lists "drop" ∧ ¬coin.Lists "forget" ∧
      noPurse.holds "purse" "coin" = false ∧ noPurse.holds "memorybank" "coin" = false ∧
      coinInterpreter.Undoes noPurse ("take" ++ " " ++ "the Coin") ("drop" ++ " " ++ "the Coin")
        "purse" (.notInInventory "coin") ∧
      coinInterpreter.Undoes noPurse ("remember" ++ " " ++ "the Coin")
        ("forget" ++ " " ++ "the Coin") "memorybank" (.notInMemoryBank "coin") := by
  have hnames : (coinInterpreter.registry.subjects.map (·.name)).Nodup := by decide
  have htext : Text.trimmed "the Coin" = "the Coin" := by decide
  have hmentioned : coinInterpreter.registry.mentioned "the Coin" = [coin] := by decide
  have hunlisted : ∀ word, ¬coin.Lists word := by
    rintro word ⟨custom, hcustom, -⟩
    cases hcustom
  have hpurse : noPurse.holds "purse" "coin" = false := by decide
  have hbank : noPurse.holds "memorybank" "coin" = false := by decide
  have hundoes := undoes_take_and_undoes_remember hnames htext hmentioned noPurse
  exact ⟨hnames, htext, hmentioned, hunlisted _, hunlisted _, hpurse, hbank,
    hundoes.1 _ rfl rfl (hunlisted _) hpurse, hundoes.2 _ rfl (hunlisted _) hbank⟩

end Interpreter

end TextAdventure
