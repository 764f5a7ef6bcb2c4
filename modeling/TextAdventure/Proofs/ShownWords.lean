import Mathlib.Data.List.Nodup
import TextAdventure.Proofs.Deeds
import TextAdventure.Proofs.SplitLines

/-!
# Words that are shown

A subject is shown under its first keyword, or under its name if it has no keyword, but it is found
by its keywords alone, and a line is stripped of the blank space at its end and behind its first
word.  So the word under which a subject is shown can be typed if it is a keyword that is not empty
and has no blank space at its ends.  A subject without keywords cannot be found at all.
-/

namespace TextAdventure

theorem Text.occursIn_self (cs : List Char) : occursIn cs cs = true :=
  occursIn_iff.mpr ⟨[], [], by simp⟩

theorem Registry.mem_names_mentioned_iff {registry : Registry} {subject : Subject}
    (hnames : (registry.subjects.map (·.name)).Nodup) (hsubject : subject ∈ registry.subjects)
    (text : String) :
    subject.name ∈ (registry.mentioned text).map (·.name) ↔ subject ∈ registry.mentioned text := by
  constructor
  · intro hname
    obtain ⟨other, hmentioned, hsame⟩ := List.mem_map.mp hname
    have hother := (mem_mentioned_iff.mp hmentioned).1
    rwa [← List.inj_on_of_nodup_map hnames hother hsubject hsame]
  · exact List.mem_map_of_mem

/-- The word under which the subject is shown has a keyword of the subject in it, once the blank
space around it is stripped. -/
def Subject.FindsItself (subject : Subject) : Prop :=
  ∃ keyword ∈ subject.keywords, keyword ≠ "" ∧
    Text.occursIn (Text.lower keyword.toList)
      (Text.lower (Text.trimmed subject.displayName).toList) = true

namespace Interpreter

variable {interpreter : Interpreter} {subject : Subject} {verb : String}

/-- The verb and the word under which the subject is shown make up a line that names the subject. -/
def NamesShown (interpreter : Interpreter) (inventories : Inventories) (verb : String)
    (subject : Subject) : Prop :=
  subject.name ∈
    (interpreter.interpret inventories (verb ++ " " ++ subject.displayName)).1.subjects

instance (interpreter : Interpreter) (inventories : Inventories) (verb : String)
    (subject : Subject) : Decidable (interpreter.NamesShown inventories verb subject) :=
  inferInstanceAs (Decidable (_ ∈ _))

theorem namesShown_iff_mem_names (hsome : verb ≠ "")
    (hsolid : Text.IsSolid verb) (inventories : Inventories) :
    interpreter.NamesShown inventories verb subject ↔ subject.name ∈
      (interpreter.registry.mentioned (Text.trimmed subject.displayName)).map (·.name) := by
  rw [NamesShown, interpret, subjects_run, Command.ofLine_append _ hsome hsolid, Command.names]

theorem namesShown_iff (hnames : (interpreter.registry.subjects.map (·.name)).Nodup)
    (hsubject : subject ∈ interpreter.registry.subjects) (hsome : verb ≠ "")
    (hsolid : Text.IsSolid verb) (inventories : Inventories) :
    interpreter.NamesShown inventories verb subject ↔ subject.FindsItself := by
  rw [namesShown_iff_mem_names hsome hsolid, Registry.mem_names_mentioned_iff hnames hsubject,
    Registry.mem_mentioned_iff, and_iff_right hsubject, Subject.FindsItself]

/-- A subject can be named by the word under which it is shown if that is a keyword that is not
empty and has no blank space at its ends.  With distinct names at hand, it can be named in this way
exactly if the word has some keyword of the subject in it once it is stripped; so a subject without
keywords cannot, nor one that is shown under a blank word. -/
theorem namesShown_and_iff_findsItself (hsubject : subject ∈ interpreter.registry.subjects)
    (hsome : verb ≠ "") (hsolid : Text.IsSolid verb)
    (inventories : Inventories) :
    (∀ keyword others, subject.keywords = keyword :: others → keyword ≠ "" →
      Text.trimmed keyword = keyword → interpreter.NamesShown inventories verb subject) ∧
    ((interpreter.registry.subjects.map (·.name)).Nodup →
      (interpreter.NamesShown inventories verb subject ↔ subject.FindsItself) ∧
      (subject.keywords = [] ∨ Text.trimmed subject.displayName = "" →
        ¬interpreter.NamesShown inventories verb subject)) := by
  constructor
  · intro keyword others hkeywords hkeyword htrimmed
    have hshown : subject.displayName = keyword := by simp [Subject.displayName, hkeywords]
    rw [namesShown_iff_mem_names hsome hsolid, hshown, htrimmed]
    apply List.mem_map_of_mem
    apply Registry.mem_mentioned_iff.mpr
    exact ⟨hsubject, keyword, by simp [hkeywords], hkeyword, Text.occursIn_self _⟩
  · intro hnames
    rw [namesShown_iff hnames hsubject hsome hsolid]
    refine ⟨Iff.rfl, ?_⟩
    rintro hlost ⟨keyword, hmem, hkeyword, hoccurs⟩
    rcases hlost with hnone | hblank
    · rw [hnone] at hmem
      cases hmem
    · rw [hblank] at hoccurs
      have hempty : Text.lower keyword.toList = [] := List.isEmpty_iff.mp hoccurs
      exact Text.lower_ne_nil (by simpa using hkeyword) hempty

/-- A lamp that is shown under a keyword of two words. -/
def brassLamp : Subject where
  name := "lamp"
  keywords := ["Brass Lamp"]

/-- A key whose first keyword ends with a blank; the second one is found in the first. -/
def spareKey : Subject where
  name := "key"
  keywords := ["key ", "KEY"]

/-- A stone without keywords. -/
def bareStone : Subject where
  name := "stone"

/-- The lamp, the key and the stone are at hand. -/
def shelfInterpreter : Interpreter := { registry := ⟨[brassLamp, spareKey, bareStone]⟩ }

theorem namesShown_and_iff_findsItself_shelf :
    (shelfInterpreter.registry.subjects.map (·.name)).Nodup ∧
      shelfInterpreter.NamesShown .empty "Take" brassLamp ∧
      spareKey.FindsItself ∧ shelfInterpreter.NamesShown .empty "Take" spareKey ∧
      ¬shelfInterpreter.NamesShown .empty "Take" bareStone := by
  have hnames : (shelfInterpreter.registry.subjects.map (·.name)).Nodup := by decide
  have hsolid : Text.IsSolid "Take" := by decide
  have hlamp : brassLamp ∈ shelfInterpreter.registry.subjects := by decide
  have hkey : spareKey ∈ shelfInterpreter.registry.subjects := by decide
  have hstone : bareStone ∈ shelfInterpreter.registry.subjects := by decide
  have hfinds : spareKey.FindsItself := ⟨"KEY", by decide, by decide, by decide +kernel⟩
  have hshown := namesShown_and_iff_findsItself hlamp (by decide) hsolid .empty
  have hexact := namesShown_and_iff_findsItself hkey (by decide) hsolid .empty
  have hlost := namesShown_and_iff_findsItself hstone (by decide) hsolid .empty
  exact ⟨hnames, hshown.1 "Brass Lamp" [] rfl (by decide) (by decide), hfinds,
    (hexact.2 hnames).1.mpr hfinds, (hlost.2 hnames).2 (Or.inl rfl)⟩

/-- The stone without keywords, a ghost whose keyword is empty, and a jar whose keyword ends with a
blank. -/
def oddSubjects : List Subject :=
  [bareStone, { name := "ghost", keywords := [""] }, { name := "jar", keywords := ["jar "] }]

/-- A subject that is not secret need not be named by the word under which it is shown. -/
theorem exists_shown_not_named :
    (Registry.mk oddSubjects).displayNames false = ["stone", "", "jar "] ∧
      ∀ subject ∈ oddSubjects, subject.secret = false ∧
        ¬NamesShown { registry := ⟨oddSubjects⟩ } .empty "look" subject := by
  decide +kernel

end Interpreter

end TextAdventure
