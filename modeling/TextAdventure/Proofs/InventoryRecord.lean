import TextAdventure.Proofs.Deeds

/-!
# The record of what a command did to the inventories

Several deeds change an inventory, and each of them records its change in the outcome.  The record
is the whole truth: replayed on the inventories before the command, it gives the inventories after
it, and a refused command has no record and changes nothing.
-/

namespace TextAdventure

/-- The inventories with a recorded change. -/
def Inventories.recorded (inventories : Inventories) : Option InventoryChange → Inventories
  | none => inventories
  | some (.added inventory item) => inventories.add inventory item
  | some (.removed inventory item) => inventories.remove inventory item

/-- The inventory from which a deed removes a subject. -/
def Settings.sourceOf? (settings : Settings) (subject : Subject) : Deed → Option String
  | .drop => some (settings.inventoryOf subject)
  | .forget => some (settings.bankOf subject)
  | _ => none

namespace Interpreter

variable {interpreter : Interpreter} {inventories : Inventories} {command : Command}
variable {deed : Deed} {outcome : Outcome} {after : Inventories}

/-! ## Single deeds -/

theorem Performs.after_eq
    (hdeed : interpreter.Performs inventories command deed outcome after) :
    after = inventories.recorded outcome.change := by
  cases hdeed <;> rfl

theorem Performs.action_eq
    (hdeed : interpreter.Performs inventories command deed outcome after) :
    outcome.action = command.action := by
  cases hdeed <;> rfl

/-- Only taking and remembering add an item, which is the only subject of the command. -/
theorem Performs.added (hdeed : interpreter.Performs inventories command deed outcome after)
    {inventory item : String} (hchange : outcome.change = some (.added inventory item)) :
    ∃ subject, command.subjects = [subject] ∧ item = subject.name ∧
      (deed = .take ∧ inventories.holds inventory item = false ∨ deed = .remember) := by
  cases hdeed with
  | take hsole htake henabled hfree =>
      obtain ⟨rfl, rfl⟩ := InventoryChange.added.inj (Option.some.inj hchange)
      exact ⟨_, hsole, rfl, Or.inl ⟨rfl, hfree⟩⟩
  | remember hsole hremember =>
      obtain ⟨rfl, rfl⟩ := InventoryChange.added.inj (Option.some.inj hchange)
      exact ⟨_, hsole, rfl, Or.inr rfl⟩
  | go | look | leave | drop | forget | use | help | custom => cases hchange

/-- Only dropping and forgetting remove an item, which is the only subject of the command. -/
theorem Performs.removed (hdeed : interpreter.Performs inventories command deed outcome after)
    {inventory item : String} (hchange : outcome.change = some (.removed inventory item)) :
    ∃ subject, command.subjects = [subject] ∧ item = subject.name ∧
      interpreter.settings.sourceOf? subject deed = some inventory := by
  cases hdeed with
  | drop hsole | forget hsole =>
      obtain ⟨rfl, rfl⟩ := InventoryChange.removed.inj (Option.some.inj hchange)
      exact ⟨_, hsole, rfl, rfl⟩
  | go | look | leave | take | remember | use | help | custom => cases hchange

/-! ## What makes a deed legal -/

theorem Legal.action_of_remember (hlegal : interpreter.Legal inventories command .remember) :
    command.action = .remember :=
  hlegal.action_eq rfl

/-- What is dropped or forgotten was held. -/
theorem Legal.holds_of_source (hlegal : interpreter.Legal inventories command deed)
    {subject : Subject} (hsole : command.subjects = [subject]) {inventory : String}
    (hsource : interpreter.settings.sourceOf? subject deed = some inventory) :
    inventories.holds inventory subject.name = true := by
  cases hlegal with
  | declared hdeclared =>
      rcases Subject.declaredDeed?_cases hdeclared with
        ⟨_, -, rfl, -⟩ | ⟨_, -, rfl, -⟩ | ⟨_, -, rfl, -⟩ | ⟨_, -, rfl, -⟩ <;> cases hsource
  | drop hplain hheld | forget hplain hheld =>
      obtain rfl := List.singleton_inj.mp hsole
      obtain rfl := Option.some.inj hsource
      exact hheld
  | custom | use | help => cases hsource

/-! ## Lines -/

/-- The record tells all that a line does to the inventories.  A refused line has no record, what is
recorded is the name of the only subject that the line mentions, what was taken was not held before,
and what was removed was. -/
theorem record_of_interpret {line : String}
    (hinterpret : interpreter.interpret inventories line = (outcome, after)) :
    after = inventories.recorded outcome.change ∧
      (outcome.isRefused = true → outcome.change = none) ∧
      (∀ inventory item, outcome.change = some (.added inventory item) →
        (∃ subject, (Command.ofLine interpreter.registry line).subjects = [subject] ∧
          item = subject.name) ∧
        (outcome.action = .take → inventories.holds inventory item = false)) ∧
      ∀ inventory item, outcome.change = some (.removed inventory item) →
        (∃ subject, (Command.ofLine interpreter.registry line).subjects = [subject] ∧
          item = subject.name) ∧
        inventories.holds inventory item = true := by
  rw [interpret] at hinterpret
  generalize Command.ofLine interpreter.registry line = command at hinterpret ⊢
  have hrefused : ∀ refusal,
      interpreter.run inventories command = (interpreter.refuse command refusal, inventories) →
        outcome = interpreter.refuse command refusal ∧ after = inventories := by
    intro refusal hrun
    rw [hinterpret] at hrun
    exact Prod.mk.inj hrun
  rcases interpreter.run_cases inventories command with
    ⟨deed, done, left, hlegal, hdeed, hrun⟩ | ⟨held, -, -, hrun⟩ | ⟨-, hrun⟩
  · rw [hinterpret] at hrun
    obtain ⟨rfl, rfl⟩ := Prod.mk.inj hrun
    refine ⟨hdeed.after_eq, ?_, ?_, ?_⟩
    · intro hrefused
      simp [Outcome.isRefused, hdeed.verdict_eq] at hrefused
    · intro inventory item hchange
      obtain ⟨subject, hsole, hitem, hdone⟩ := hdeed.added hchange
      refine ⟨⟨subject, hsole, hitem⟩, ?_⟩
      intro htaken
      rcases hdone with ⟨rfl, hfree⟩ | rfl
      · exact hfree
      · -- Remembering is another action than taking.
        rw [hdeed.action_eq, hlegal.action_of_remember] at htaken
        cases htaken
    · intro inventory item hchange
      obtain ⟨subject, hsole, rfl, hsource⟩ := hdeed.removed hchange
      exact ⟨⟨subject, hsole, rfl⟩, hlegal.holds_of_source hsole hsource⟩
  · obtain ⟨rfl, rfl⟩ := hrefused _ hrun
    simp [refuse, Inventories.recorded]
  · obtain ⟨rfl, rfl⟩ := hrefused _ hrun
    simp [refuse, Inventories.recorded]

/-- A coin that lies about and can be remembered. -/
def coin : Subject where
  name := "coin"
  keywords := ["coin"]
  take := some { enabled := true, inventory := some "purse" }
  remember := some {}

/-- The coin is at hand. -/
def coinInterpreter : Interpreter := { registry := ⟨[coin]⟩ }

/-- The purse lists the coin twice, and the bag is empty. -/
def twoCoins : Inventories := ⟨.ofList [("purse", ["coin", "rope", "coin"]), ("bag", [])]⟩

/-- The purse after one coin was dropped. -/
def oneCoin : Inventories := ⟨.ofList [("purse", ["rope", "coin"]), ("bag", [])]⟩

theorem record_of_interpret_coin :
    ∃ outcome, coinInterpreter.interpret twoCoins "drop coin" = (outcome, oneCoin) ∧
      outcome.change = some (.removed "purse" "coin") ∧
      oneCoin = twoCoins.recorded outcome.change ∧ twoCoins.holds "purse" "coin" = true := by
  have hinterpret : coinInterpreter.interpret twoCoins "drop coin" =
      ((coinInterpreter.interpret twoCoins "drop coin").1, oneCoin) := by decide
  have hchange : (coinInterpreter.interpret twoCoins "drop coin").1.change =
      some (.removed "purse" "coin") := by decide
  obtain ⟨hafter, -, -, hremoved⟩ := record_of_interpret hinterpret
  exact ⟨_, hinterpret, hchange, hafter, (hremoved _ _ hchange).2⟩

end Interpreter

end TextAdventure
