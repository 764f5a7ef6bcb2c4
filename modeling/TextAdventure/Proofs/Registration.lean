import Mathlib.Data.List.Nodup
import TextAdventure.Interpreter

/-!
# Registering subjects

Subjects are registered one by one, and the first whose name is taken ends the registration.  Each
name is checked against a registry that has grown by the subjects before it, so what is registered
is the longest part in front whose names differ from each other and from those that were there.  It
stays registered when the registration fails.  Names are distinct after any sequence of calls,
therefore, and a look-up by name finds the only subject of the name.
-/

namespace TextAdventure

namespace Registry

variable {registry : Registry} {subject : Subject} {subjects : List Subject}

/-! ## Look-up by name -/

theorem contains_eq_true_iff (registry : Registry) (name : String) :
    registry.contains name = true ↔ name ∈ registry.subjects.map (·.name) := by
  simp [contains, get?, List.find?_isSome]

theorem get?_of_mem (hnames : (registry.subjects.map (·.name)).Nodup)
    (hsubject : subject ∈ registry.subjects) : registry.get? subject.name = some subject := by
  cases hfind : registry.subjects.find? (·.name == subject.name) with
  | none =>
      have hnone := List.find?_eq_none.mp hfind subject hsubject
      simp at hnone
  | some found =>
      have hname : found.name = subject.name := by simpa using List.find?_some hfind
      have hfound := List.mem_of_find?_eq_some hfind
      rw [get?, hfind, List.inj_on_of_nodup_map hnames hfound hsubject hname]

/-- Under distinct names a name finds the only subject that has it. -/
theorem get?_eq_some_iff (hnames : (registry.subjects.map (·.name)).Nodup) {name : String} :
    registry.get? name = some subject ↔ subject ∈ registry.subjects ∧ subject.name = name := by
  constructor
  · intro hget
    exact ⟨List.mem_of_find?_eq_some hget, by simpa using List.find?_some hget⟩
  · rintro ⟨hsubject, rfl⟩
    exact get?_of_mem hnames hsubject

/-! ## New names -/

/-- The names of the subjects differ from each other and from the names at hand. -/
structure AllNew (registry : Registry) (subjects : List Subject) : Prop where
  distinct : (subjects.map (·.name)).Nodup
  unused : ∀ subject ∈ subjects, subject.name ∉ registry.subjects.map (·.name)

theorem allNew_nil (registry : Registry) : registry.AllNew [] :=
  ⟨List.nodup_nil, by simp⟩

/-- The first name is new to the registry, and the others are new to the registry that has grown by
the first subject. -/
theorem allNew_cons_iff :
    registry.AllNew (subject :: subjects) ↔
      subject.name ∉ registry.subjects.map (·.name) ∧
        AllNew ⟨registry.subjects ++ [subject]⟩ subjects := by
  constructor
  · rintro ⟨hdistinct, hunused⟩
    rw [List.map_cons, List.nodup_cons] at hdistinct
    obtain ⟨hsubject, hsubjects⟩ := List.forall_mem_cons.mp hunused
    refine ⟨hsubject, hdistinct.2, ?_⟩
    intro other hother hused
    rw [List.map_append, List.mem_append, List.map_singleton, List.mem_singleton] at hused
    rcases hused with hold | hsame
    · exact hsubjects other hother hold
    · exact hdistinct.1 (hsame ▸ List.mem_map_of_mem hother)
  · rintro ⟨hsubject, hdistinct, hunused⟩
    have hgrown : ∀ other ∈ subjects,
        other.name ∉ registry.subjects.map (·.name) ∧ other.name ≠ subject.name := by
      simpa using hunused
    constructor
    · rw [List.map_cons, List.nodup_cons]
      refine ⟨?_, hdistinct⟩
      intro hsame
      obtain ⟨other, hother, hname⟩ := List.mem_map.mp hsame
      exact (hgrown other hother).2 hname
    · exact List.forall_mem_cons.mpr ⟨hsubject, fun other hother => (hgrown other hother).1⟩

/-- Names stay distinct when subjects with new names are registered. -/
theorem AllNew.nodup_append (hnew : registry.AllNew subjects)
    (hnames : (registry.subjects.map (·.name)).Nodup) :
    ((registry.subjects ++ subjects).map (·.name)).Nodup := by
  rw [List.map_append, List.nodup_append]
  refine ⟨hnames, hnew.distinct, ?_⟩
  rintro name hold other hother rfl
  obtain ⟨subject, hsubject, rfl⟩ := List.mem_map.mp hother
  exact hnew.unused subject hsubject hold

/-- The longest part in front of the subjects whose names are new. -/
structure LongestNew (registry : Registry) (subjects new : List Subject) : Prop where
  begins : new <+: subjects
  allNew : registry.AllNew new
  longest : ∀ other, other <+: subjects → registry.AllNew other → other <+: new

theorem longestNew_of_allNew (hnew : registry.AllNew subjects) :
    registry.LongestNew subjects subjects :=
  ⟨List.prefix_rfl, hnew, fun _ hother _ => hother⟩

theorem longestNew_of_taken (htaken : subject.name ∈ registry.subjects.map (·.name)) :
    registry.LongestNew (subject :: subjects) [] := by
  refine ⟨List.nil_prefix, allNew_nil registry, ?_⟩
  intro other hother hnew
  rcases List.prefix_cons_iff.mp hother with rfl | ⟨rest, rfl, -⟩
  · exact List.prefix_rfl
  · exact absurd htaken (hnew.unused subject List.mem_cons_self)

theorem LongestNew.cons {new : List Subject}
    (hlongest : LongestNew ⟨registry.subjects ++ [subject]⟩ subjects new)
    (hunused : subject.name ∉ registry.subjects.map (·.name)) :
    registry.LongestNew (subject :: subjects) (subject :: new) := by
  refine ⟨(List.prefix_cons_inj subject).mpr hlongest.begins,
    allNew_cons_iff.mpr ⟨hunused, hlongest.allNew⟩, ?_⟩
  intro other hother hnew
  rcases List.prefix_cons_iff.mp hother with rfl | ⟨rest, rfl, hrest⟩
  · exact List.nil_prefix
  · exact (List.prefix_cons_inj subject).mpr
      (hlongest.longest rest hrest (allNew_cons_iff.mp hnew).2)

/-! ## Registration -/

theorem register_of_unused (hunused : subject.name ∉ registry.subjects.map (·.name)) :
    registry.register subject = .ok ⟨registry.subjects ++ [subject]⟩ := by
  rw [← contains_eq_true_iff] at hunused
  simp [register, hunused]

theorem register_of_taken (htaken : subject.name ∈ registry.subjects.map (·.name)) :
    registry.register subject = .error (.duplicateSubject subject.name) := by
  rw [← contains_eq_true_iff] at htaken
  simp [register, htaken]

/-- What registering subjects reports when all but these have been registered: the fault of the
first one, whose name is taken. -/
def reportOn : List Subject → Except Fault Unit
  | [] => .ok ()
  | subject :: _ =>
    .error {
      kind := .duplicateSubject subject.name
      context := some { stack := ["subject " ++ subject.name] } }

/-- The longest part in front with new names is registered, and the first subject behind it is
reported. -/
theorem exists_longestNew_registerAll (registry : Registry) (subjects : List Subject) :
    ∃ new rest, subjects = new ++ rest ∧ registry.LongestNew subjects new ∧
      registry.registerAll subjects = (⟨registry.subjects ++ new⟩, reportOn rest) := by
  induction subjects generalizing registry with
  | nil =>
      refine ⟨[], [], rfl, longestNew_of_allNew (allNew_nil registry), ?_⟩
      simp [registerAll, reportOn]
  | cons subject rest ih =>
      by_cases hname : subject.name ∈ registry.subjects.map (·.name)
      · refine ⟨[], subject :: rest, rfl, longestNew_of_taken hname, ?_⟩
        rw [registerAll, register_of_taken hname, List.append_nil]
        rfl
      · obtain ⟨new, left, hsplit, hlongest, hregister⟩ := ih ⟨registry.subjects ++ [subject]⟩
        refine ⟨subject :: new, left, by rw [hsplit, List.cons_append], hlongest.cons hname, ?_⟩
        rw [registerAll, register_of_unused hname]
        simpa using hregister

/-- Subjects are all registered when their names are new. -/
theorem registerAll_of_allNew (hnew : registry.AllNew subjects) :
    registry.registerAll subjects = (⟨registry.subjects ++ subjects⟩, .ok ()) := by
  obtain ⟨new, rest, hsplit, hlongest, hregister⟩ := exists_longestNew_registerAll registry subjects
  have hbeyond := hlongest.longest subjects List.prefix_rfl hnew
  have hall := hlongest.begins.eq_of_length_le hbeyond.length_le
  obtain rfl : rest = [] := by simpa [hall] using hsplit
  rw [hregister, hall, reportOn]

end Registry

namespace Interpreter

/-! ## Calls -/

/-- A call that changes the subjects at hand. -/
inductive RegistryCall where
  | beginScene
  | register (subjects : List Subject)
  deriving DecidableEq, Repr

/-- The interpreter after a call, whether the call succeeded or not. -/
def call (interpreter : Interpreter) : RegistryCall → Interpreter
  | .beginScene => interpreter.beginScene
  | .register subjects => (interpreter.register subjects).1

/-- The interpreter after calls that follow one another. -/
def callAll (interpreter : Interpreter) (calls : List RegistryCall) : Interpreter :=
  calls.foldl call interpreter

theorem register_eq (interpreter : Interpreter) (subjects : List Subject) :
    interpreter.register subjects =
      ({ interpreter with registry := (interpreter.registry.registerAll subjects).1 },
        (interpreter.registry.registerAll subjects).2) := rfl

theorem names_nodup_call {interpreter : Interpreter}
    (hnames : (interpreter.registry.subjects.map (·.name)).Nodup) (step : RegistryCall) :
    ((interpreter.call step).registry.subjects.map (·.name)).Nodup := by
  cases step with
  | beginScene => exact List.nodup_nil
  | register subjects =>
      obtain ⟨new, rest, -, hlongest, hregister⟩ :=
        interpreter.registry.exists_longestNew_registerAll subjects
      rw [call, register_eq, hregister]
      exact hlongest.allNew.nodup_append hnames

theorem names_nodup_callAll {interpreter : Interpreter}
    (hnames : (interpreter.registry.subjects.map (·.name)).Nodup) (calls : List RegistryCall) :
    ((interpreter.callAll calls).registry.subjects.map (·.name)).Nodup := by
  induction calls generalizing interpreter with
  | nil => exact hnames
  | cons step rest ih => exact ih (names_nodup_call hnames step)

/-- After any calls the names at hand are distinct, and a name finds the only subject that has it.
Registering subjects keeps what is at hand and adds the longest part in front of the subjects whose
names are new.  It succeeds if that is all of them, and otherwise reports the first subject behind
that part. -/
theorem get?_callAll_and_longestNew_register :
    (∀ (settings : Settings) (calls : List RegistryCall),
      ((callAll { settings } calls).registry.subjects.map (·.name)).Nodup ∧
        ∀ name subject, (callAll { settings } calls).registry.get? name = some subject ↔
          subject ∈ (callAll { settings } calls).registry.subjects ∧ subject.name = name) ∧
    ∀ (interpreter : Interpreter) (subjects : List Subject), ∃ new,
      interpreter.registry.LongestNew subjects new ∧
      (interpreter.register subjects).1 =
        { interpreter with registry := ⟨interpreter.registry.subjects ++ new⟩ } ∧
      ((interpreter.register subjects).2 = .ok () ↔ new = subjects) ∧
      ∀ subject others, subjects = new ++ subject :: others →
        (interpreter.register subjects).2 = .error {
          kind := .duplicateSubject subject.name
          context := some { stack := ["subject " ++ subject.name] } } := by
  constructor
  · intro settings calls
    have hnone : (({ settings } : Interpreter).registry.subjects.map (·.name)).Nodup :=
      List.nodup_nil
    have hnames := names_nodup_callAll hnone calls
    exact ⟨hnames, fun name subject => Registry.get?_eq_some_iff hnames⟩
  · intro interpreter subjects
    obtain ⟨new, rest, hsplit, hlongest, hregister⟩ :=
      interpreter.registry.exists_longestNew_registerAll subjects
    refine ⟨new, hlongest, by rw [register_eq, hregister], ?_, ?_⟩
    · rw [register_eq, hregister, hsplit]
      cases rest with
      | nil => simp [Registry.reportOn]
      | cons subject others => simp [Registry.reportOn]
    · rintro subject others hbehind
      obtain rfl : rest = subject :: others := List.append_cancel_left (hsplit.symm.trans hbehind)
      rw [register_eq, hregister, Registry.reportOn]

/-- A scene is left, and the registration for the next one fails at a second lamp. -/
def lampCalls : List RegistryCall :=
  [.register [{ name := "key" }], .beginScene,
    .register [{ name := "lamp" }, { name := "key" }, { name := "lamp", secret := true },
      { name := "rope" }]]

/-- The subjects in front of a second key. -/
def newcomers : List Subject := [{ name := "rope" }, { name := "gem" }]

/-- The newcomers, a second key, and a bell behind it. -/
def crowd : List Subject := newcomers ++ [{ name := "key" }, { name := "bell" }]

theorem get?_callAll_and_longestNew_register_crowd :
    (callAll {} lampCalls).registry.get? "key" = some { name := "key" } ∧
      (callAll {} lampCalls).registry.LongestNew crowd newcomers ∧
      crowd = newcomers ++ { name := "key" } :: [{ name := "bell" }] ∧
      ((callAll {} lampCalls).register crowd).2 = .error {
        kind := .duplicateSubject "key"
        context := some { stack := ["subject key"] } } := by
  have hkey := (get?_callAll_and_longestNew_register.1 {} lampCalls).2 "key" { name := "key" }
  obtain ⟨new, hlongest, hregister, -, hfault⟩ :=
    get?_callAll_and_longestNew_register.2 (callAll {} lampCalls) crowd
  have hnew : new = newcomers := by
    have hsubjects := congrArg (·.registry.subjects) hregister
    have hafter : ((callAll {} lampCalls).register crowd).1.registry.subjects =
        (callAll {} lampCalls).registry.subjects ++ newcomers := by decide
    exact List.append_cancel_left (hsubjects.symm.trans hafter)
  rw [hnew] at hlongest hfault
  exact ⟨hkey.mpr (by decide), hlongest, rfl, hfault _ _ rfl⟩

end Interpreter

end TextAdventure
