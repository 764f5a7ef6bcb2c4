import TextAdventure.Proofs.SoundReferences
import TextAdventure.Proofs.SplitLines
import TextAdventure.Proofs.VerbListing

/-!
# Verbs that are advertised

The help listing names the verbs that a subject declares.  A line is read on a way of its own: it is
lower-cased and cut at a blank, and its first word is replaced by the word by which the action is
called everywhere.  So a subject does not answer to every verb that is advertised for it.  It does
to those of the built-in actions that it declares, and to every word of its own that can be typed
and that is not another word for a built-in action.
-/

namespace TextAdventure

/-! ## Lines that begin with a verb -/

/-- A word that can be the first word of a line that has been read. -/
structure Line.IsVerb (word : String) : Prop where
  nonempty : word ≠ ""
  solid : word.toList.any Text.isBlank = false
  small : Text.lowered word = word

theorem Command.ofLine_of_isVerb {verb text : String} (hverb : Line.IsVerb verb)
    (htext : Text.trimmed text = text) (registry : Registry) :
    ofLine registry (verb ++ " " ++ text) = ⟨Action.ofVerb verb, registry.mentioned text⟩ := by
  have hsolid : ∀ c ∈ verb.toList, Text.isBlank c = false := by simpa using hverb.solid
  rw [ofLine_append registry hverb.nonempty hsolid, hverb.small, htext]

namespace Registry

variable {registry : Registry} {subject : Subject}

/-- Under distinct names a subject has an action for a verb if it lists the verb. -/
theorem isSome_customAction?_iff (hnames : (registry.subjects.map (·.name)).Nodup)
    (hsubject : subject ∈ registry.subjects) (verb : String) :
    (registry.customAction? verb subject).isSome ↔
      ∃ custom ∈ subject.customActions, verb ∈ custom.verbs := by
  rw [customAction?, get?_of_mem hnames hsubject, Option.bind_some, List.find?_isSome]
  simp

theorem mem_availableVerbs {word : String} (hsubject : subject ∈ registry.subjects)
    (hword : word ∈ subject.declaredVerbs) : word ∈ registry.availableVerbs :=
  mem_availableVerbs_iff.mpr ⟨subject, hsubject, Subject.mem_declaredVerbs_iff.mp hword⟩

end Registry

/-! ## Words for actions -/

/-- A word that is not the one by which its action is called stands for taking or looking. -/
theorem Action.ofVerb_of_spelling_ne {word : String} (hother : (ofVerb word).spelling ≠ word) :
    ofVerb word = .take ∨ ofVerb word = .look := by
  cases hlookup : verbTable.lookup word with
  | none =>
      have haction : ofVerb word = .custom word := by simp [ofVerb, hlookup]
      rw [haction] at hother
      exact absurd rfl hother
  | some action =>
      have haction : ofVerb word = action := by simp [ofVerb, hlookup]
      have htable : ∀ entry ∈ verbTable, entry.2.spelling = entry.1 ∨ entry.2 = .take ∨
          entry.2 = .look := by decide
      obtain ⟨front, behind, hsplit, -⟩ := List.lookup_eq_some_iff.mp hlookup
      have hentry : (word, action) ∈ verbTable := by simp [hsplit]
      rw [haction] at hother ⊢
      exact (htable _ hentry).resolve_left hother

namespace Subject

/-- The help listing names the word for the subject, either for a built-in action on the subject
alone or for an action of the subject's own, and then the word can be typed. -/
inductive Advertises (subject : Subject) : String → Prop
  | builtin {word : String} (hword : word ∈ subject.builtinVerbs) (halone : word ≠ "use") :
      Advertises subject word
  | own {word : String} {custom : CustomAction} (hcustom : custom ∈ subject.customActions)
      (hword : word ∈ custom.verbs) (hverb : Line.IsVerb word) : Advertises subject word

/-- The word is another word for an action that the subject does not answer. -/
structure Misses (subject : Subject) (word : String) : Prop where
  synonym : (Action.ofVerb word).spelling ≠ word
  undeclared : subject.declaredDeed? (Action.ofVerb word) = none
  unlisted : ∀ custom ∈ subject.customActions, (Action.ofVerb word).spelling ∉ custom.verbs

variable {subject : Subject} {word : String}

theorem builtinVerbs_cases (hword : word ∈ subject.builtinVerbs) :
    (word = "go" ∧ subject.go.isSome) ∨ (word = "look" ∧ subject.look.isSome) ∨
      (word = "take" ∧ subject.take.isSome) ∨ (word = "remember" ∧ subject.remember.isSome) ∨
      word = "use" := by
  obtain ⟨⟨verb, declared⟩, hentry, hdeclared⟩ := List.mem_filterMap.mp hword
  have hdeclared : declared = true ∧ verb = word := by simpa using hdeclared
  obtain ⟨rfl, rfl⟩ := hdeclared
  simp only [List.mem_cons, Prod.mk.injEq, List.not_mem_nil, or_false] at hentry
  rcases hentry with ⟨rfl, hgo⟩ | ⟨rfl, hlook⟩ | ⟨rfl, htake⟩ | ⟨rfl, hremember⟩ | ⟨rfl, -⟩
  · exact Or.inl ⟨rfl, hgo.symm⟩
  · exact Or.inr (Or.inl ⟨rfl, hlook.symm⟩)
  · exact Or.inr (Or.inr (Or.inl ⟨rfl, htake.symm⟩))
  · exact Or.inr (Or.inr (Or.inr (Or.inl ⟨rfl, hremember.symm⟩)))
  · exact Or.inr (Or.inr (Or.inr (Or.inr rfl)))

/-- A built-in verb that is advertised for a subject alone names an action that it declares. -/
theorem isSome_declaredDeed?_of_mem_builtinVerbs (hword : word ∈ subject.builtinVerbs)
    (halone : word ≠ "use") : (subject.declaredDeed? (Action.ofVerb word)).isSome := by
  rcases builtinVerbs_cases hword with
    ⟨rfl, hgo⟩ | ⟨rfl, hlook⟩ | ⟨rfl, htake⟩ | ⟨rfl, hremember⟩ | huse
  · have hverb : Action.ofVerb "go" = .go := rfl
    rwa [hverb, declaredDeed?, Option.isSome_map]
  · have hverb : Action.ofVerb "look" = .look := rfl
    rwa [hverb, declaredDeed?, Option.isSome_map]
  · have hverb : Action.ofVerb "take" = .take := rfl
    rwa [hverb, declaredDeed?, Option.isSome_map]
  · have hverb : Action.ofVerb "remember" = .remember := rfl
    rwa [hverb, declaredDeed?, Option.isSome_map]
  · exact absurd huse halone

theorem Advertises.mem_declaredVerbs (hword : subject.Advertises word) :
    word ∈ subject.declaredVerbs := by
  rw [declaredVerbs, List.mem_append]
  cases hword with
  | builtin hword halone => exact Or.inl hword
  | own hcustom hword hverb => exact Or.inr (List.mem_flatMap.mpr ⟨_, hcustom, hword⟩)

theorem Advertises.isVerb (hword : subject.Advertises word) : Line.IsVerb word := by
  cases hword with
  | own hcustom hword hverb => exact hverb
  | builtin hword halone =>
      rcases builtinVerbs_cases hword with
        ⟨rfl, -⟩ | ⟨rfl, -⟩ | ⟨rfl, -⟩ | ⟨rfl, -⟩ | rfl
      all_goals exact ⟨by decide, by decide, by decide⟩

end Subject

/-! ## Verdicts -/

/-- The verdict says that nothing answers the command: its subject does not define the action, or
the number of subjects does not fit. -/
def Verdict.isUnanswered : Verdict → Bool
  | .refused (.undefinedAction _ _) | .refused .noValidSubject => true
  | _ => false

namespace Interpreter

variable {interpreter : Interpreter} {subject : Subject} {word text : String}

/-- What is legal is answered, even if the subject cannot be taken as it is held. -/
theorem Legal.isUnanswered_run {inventories : Inventories} {command : Command} {deed : Deed}
    (hlegal : interpreter.Legal inventories command deed) :
    (interpreter.run inventories command).1.verdict.isUnanswered = false := by
  rcases interpreter.run_cases inventories command with
    ⟨_, outcome, after, -, hperforms, hrun⟩ | ⟨held, -, -, hrun⟩ | ⟨hillegal, -⟩
  · rw [hrun, hperforms.verdict_eq]
    rfl
  · rw [hrun]
    rfl
  · exact absurd hlegal (hillegal deed)

theorem not_legal_of_misses (hnames : (interpreter.registry.subjects.map (·.name)).Nodup)
    (hsubject : subject ∈ interpreter.registry.subjects) (hmisses : subject.Misses word)
    (inventories : Inventories) (deed : Deed) :
    ¬interpreter.Legal inventories ⟨Action.ofVerb word, [subject]⟩ deed := by
  have haction := Action.ofVerb_of_spelling_ne hmisses.synonym
  obtain ⟨-, hundeclared, hunlisted⟩ := hmisses
  generalize Action.ofVerb word = action at haction hundeclared hunlisted ⊢
  intro hlegal
  cases hlegal with
  | declared hdeclared =>
      rw [hundeclared] at hdeclared
      cases hdeclared
  | custom hundeclared hcustom =>
      obtain ⟨custom, hmem, hlists⟩ :=
        (Registry.isSome_customAction?_iff hnames hsubject _).mp (Option.isSome_of_eq_some hcustom)
      exact hunlisted custom hmem hlists
  | drop hplain hheld => simp at haction
  | forget hplain hheld => simp at haction

/-- Another word for an action that the subject does not answer is not answered. -/
theorem isUnanswered_run_of_misses (hnames : (interpreter.registry.subjects.map (·.name)).Nodup)
    (hsubject : subject ∈ interpreter.registry.subjects) (hmisses : subject.Misses word)
    (inventories : Inventories) :
    (interpreter.run inventories ⟨Action.ofVerb word, [subject]⟩).1.verdict.isUnanswered := by
  have hillegal := not_legal_of_misses hnames hsubject hmisses inventories
  rcases interpreter.run_cases inventories ⟨Action.ofVerb word, [subject]⟩ with
    ⟨deed, _, _, hlegal, -, -⟩ | ⟨_, hlegal, -, -⟩ | ⟨-, hrun⟩
  · exact absurd hlegal (hillegal deed)
  · exact absurd hlegal (hillegal .take)
  · rw [hrun]
    rcases Action.ofVerb_of_spelling_ne hmisses.synonym with htake | hlook
    · rw [htake]
      rfl
    · rw [hlook]
      rfl

/-- A verb that is advertised for a subject stands for something that the subject declares or has
for itself, unless the subject misses it. -/
theorem exists_legal_of_not_misses
    (hnames : (interpreter.registry.subjects.map (·.name)).Nodup)
    (hsubject : subject ∈ interpreter.registry.subjects) (hword : subject.Advertises word)
    (hmisses : ¬subject.Misses word) (inventories : Inventories) :
    ∃ deed, interpreter.Legal inventories ⟨Action.ofVerb word, [subject]⟩ deed := by
  cases hdeclared : subject.declaredDeed? (Action.ofVerb word) with
  | some deed => exact ⟨deed, .declared hdeclared⟩
  | none =>
      have hlisted : ∃ custom ∈ subject.customActions,
          (Action.ofVerb word).spelling ∈ custom.verbs := by
        by_cases hspelling : (Action.ofVerb word).spelling = word
        · cases hword with
          | builtin hword halone =>
              have hsome := Subject.isSome_declaredDeed?_of_mem_builtinVerbs hword halone
              simp [hdeclared] at hsome
          | own hcustom hword hverb => exact ⟨_, hcustom, hspelling.symm ▸ hword⟩
        · by_contra hunlisted
          apply hmisses
          refine ⟨hspelling, hdeclared, ?_⟩
          intro custom hcustom hlists
          exact hunlisted ⟨custom, hcustom, hlists⟩
      obtain ⟨custom, hcustom⟩ := Option.isSome_iff_exists.mp
        ((Registry.isSome_customAction?_iff hnames hsubject _).mpr hlisted)
      exact ⟨.custom, .custom hdeclared hcustom⟩

/-- A verb that the help listing names for a subject is answered by the subject, in front of any
text that mentions the subject alone, unless it is another word for taking or looking and the
subject answers to neither word. -/
theorem isUnanswered_interpret_iff
    (hnames : (interpreter.registry.subjects.map (·.name)).Nodup)
    (hword : subject.Advertises word) (htext : Text.trimmed text = text)
    (hmentioned : interpreter.registry.mentioned text = [subject]) (inventories : Inventories) :
    word ∈ interpreter.registry.availableVerbs ∧
      ((interpreter.interpret inventories (word ++ " " ++ text)).1.verdict.isUnanswered = true ↔
        subject.Misses word) := by
  have hmem : subject ∈ interpreter.registry.mentioned text := by simp [hmentioned]
  have hsubject := Registry.mem_of_mem_mentioned hmem
  have hcommand : Command.ofLine interpreter.registry (word ++ " " ++ text) =
      ⟨Action.ofVerb word, [subject]⟩ := by
    rw [Command.ofLine_of_isVerb hword.isVerb htext, hmentioned]
  refine ⟨Registry.mem_availableVerbs hsubject hword.mem_declaredVerbs, ?_⟩
  rw [interpret, hcommand]
  constructor
  · intro hunanswered
    by_contra hmisses
    obtain ⟨deed, hlegal⟩ :=
      exists_legal_of_not_misses hnames hsubject hword hmisses inventories
    rw [hlegal.isUnanswered_run] at hunanswered
    cases hunanswered
  · intro hmisses
    exact isUnanswered_run_of_misses hnames hsubject hmisses inventories

/-- A rose with words of its own for smelling it and for looking at it. -/
def gardenRose : Subject where
  name := "rose"
  keywords := ["rose"]
  customActions := [{ verbs := ["smell", "examine"], description := "It is fragrant." }]

/-- The rose is at hand. -/
def gardenInterpreter : Interpreter := { registry := ⟨[gardenRose]⟩ }

/-- The rose answers to the one word, and misses the other. -/
theorem isUnanswered_interpret_iff_rose :
    gardenRose.Advertises "smell" ∧ ¬gardenRose.Misses "smell" ∧
      (gardenInterpreter.interpret .empty ("smell" ++ " " ++ "rose")).1.verdict.isUnanswered =
        false ∧
      gardenRose.Advertises "examine" ∧ gardenRose.Misses "examine" ∧
      (gardenInterpreter.interpret .empty ("examine" ++ " " ++ "rose")).1.verdict.isUnanswered =
        true := by
  have hsmell : gardenRose.Advertises "smell" :=
    .own List.mem_cons_self (by decide) ⟨by decide, by decide, by decide⟩
  have hexamine : gardenRose.Advertises "examine" :=
    .own List.mem_cons_self (by decide) ⟨by decide, by decide, by decide⟩
  have hmisses : gardenRose.Misses "examine" := ⟨by decide, by decide, by decide⟩
  have hanswers : ¬gardenRose.Misses "smell" := fun hmisses => hmisses.synonym rfl
  have hnames : (gardenInterpreter.registry.subjects.map (·.name)).Nodup := by decide
  have htext : Text.trimmed "rose" = "rose" := by decide
  have hmentioned : gardenInterpreter.registry.mentioned "rose" = [gardenRose] := by decide
  have hone := isUnanswered_interpret_iff hnames hsmell htext hmentioned .empty
  have hother := isUnanswered_interpret_iff hnames hexamine htext hmentioned .empty
  exact ⟨hsmell, hanswers, by simpa using mt hone.2.mp hanswers, hexamine, hmisses,
    hother.2.mpr hmisses⟩

/-- A rose with words of its own that are lost when a line is read: another word for looking, a word
with a blank in it, a word with a capital, and the empty word. -/
def wildRose : Subject where
  name := "rose"
  keywords := ["rose"]
  customActions := [{ verbs := ["examine", "pick up", "Sniff", ""] }]

/-- The listing names words for the rose that the rose does not answer. -/
theorem exists_advertised_unanswered :
    wildRose.customActions.flatMap (·.verbs) = ["examine", "pick up", "Sniff", ""] ∧
      Registry.availableVerbs ⟨[wildRose]⟩ = ["examine", "pick up", "Sniff", ""] ∧
      Text.trimmed "rose" = "rose" ∧ Registry.mentioned ⟨[wildRose]⟩ "rose" = [wildRose] ∧
      ∀ word ∈ ["examine", "pick up", "Sniff", ""],
        (interpret { registry := ⟨[wildRose]⟩ } .empty
          (word ++ " " ++ "rose")).1.verdict.isUnanswered = true := by
  refine ⟨rfl, by decide, by decide, by decide, ?_⟩
  decide +kernel

end Interpreter

end TextAdventure
