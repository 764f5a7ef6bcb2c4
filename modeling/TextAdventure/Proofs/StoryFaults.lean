import TextAdventure.Proofs.WellFormedStory

/-!
# The faults of a story

The check of a story walks over scenes, subjects and callbacks and reports the first fault that it
meets.  Which faults there are to meet is said here without that walk, by the declarations that are
at odds.  A name counts as repeated wherever it stands, so the names that the walk has seen already
occur only in the lemmas on its parts.
-/

namespace TextAdventure

/-- A subject can run a callback: when it is remembered, when it is used with another one, or by an
action of its own. -/
inductive Subject.Calls (subject : Subject) : String → Prop
  | remember {remember : Remember} {callback : String}
      (hremember : subject.remember = some remember)
      (htrigger : remember.trigger = some callback) : Calls subject callback
  | use {pairing : Pairing} {callback : String} (huse : pairing ∈ subject.uses)
      (htrigger : pairing.trigger = some callback) : Calls subject callback
  | custom {action : CustomAction} {callback : String} (haction : action ∈ subject.customActions)
      (htrigger : action.trigger = some callback) : Calls subject callback

theorem Subject.mem_triggers_iff (subject : Subject) (callback : String) :
    callback ∈ subject.triggers ↔ subject.Calls callback := by
  simp only [triggers, List.mem_append, Option.mem_toList, Option.bind_eq_some_iff,
    List.mem_filterMap]
  constructor
  · rintro ((⟨remember, hremember, htrigger⟩ | ⟨pairing, huse, htrigger⟩) |
      ⟨action, haction, htrigger⟩)
    · exact .remember hremember htrigger
    · exact .use huse htrigger
    · exact .custom haction htrigger
  · intro hcalls
    cases hcalls with
    | remember hremember htrigger => exact Or.inl (Or.inl ⟨_, hremember, htrigger⟩)
    | use huse htrigger => exact Or.inl (Or.inr ⟨_, huse, htrigger⟩)
    | custom haction htrigger => exact Or.inr ⟨_, haction, htrigger⟩

theorem NameMap.contains_iff_mem_names {α : Type} (entries : NameMap α) (name : String) :
    entries.contains name = true ↔ name ∈ entries.names := by
  simp [contains, get?, names, List.find?_isSome]

/-- What is repeated in a list was seen before, or stands in the list twice. -/
theorem mem_repeated_iff (word : String) (words seen : List String) :
    word ∈ repeated seen words ↔ word ∈ words ∧ (word ∈ seen ∨ 2 ≤ words.count word) := by
  induction words generalizing seen with
  | nil => simp [repeated]
  | cons first rest ih =>
      have hcount : word ∈ rest ↔ 1 ≤ rest.count word := List.one_le_count_iff.symm
      by_cases hseen : first ∈ seen
      · simp only [repeated, List.contains_eq_mem, hseen, decide_true, if_true, List.mem_cons, ih]
        grind
      · simp only [repeated, List.contains_eq_mem, hseen, decide_false, Bool.false_eq_true,
          if_false, ih, List.mem_cons]
        grind

namespace Story

/-- A fault that is true of the story, with the place where it is found: a scene is declared twice,
a name is given twice in a scene, or something that is not declared is referred to. -/
inductive HasFault (story : Story) : Fault → Prop
  | sceneTwice {id : String} (htwice : 2 ≤ story.sceneIds.count id) :
      HasFault story { kind := .storyFormat ("scene '" ++ id ++ "' is declared twice") }
  | start (hstart : story.start ∉ story.sceneIds) :
      HasFault story {
        kind := .unknownScene story.start
        context := some { stack := ["start"] } }
  | subjectTwice {scene : Scene} {name : String} (hscene : scene ∈ story.scenes)
      (htwice : 2 ≤ (scene.placements.map (·.subject.name)).count name) :
      HasFault story {
        kind := .duplicateSubject name
        context := some { scene := some scene.id } }
  | exit {scene : Scene} {placement : Placement} {target : String} (hscene : scene ∈ story.scenes)
      (hplacement : placement ∈ scene.placements) (hgo : placement.subject.go = some target)
      (htarget : target ∉ story.sceneIds) :
      HasFault story {
        kind := .unknownScene target
        context := some { scene := some scene.id } }
  | trigger {scene : Scene} {placement : Placement} {callback : String}
      (hscene : scene ∈ story.scenes) (hplacement : placement ∈ scene.placements)
      (hcalls : placement.subject.Calls callback) (hcallback : callback ∉ story.callbacks.names) :
      HasFault story {
        kind := .unknownCallback callback
        context := some { scene := some scene.id } }
  | goto {callback target : String} {effects : List Effect}
      (hcallback : (callback, effects) ∈ story.callbacks.entries)
      (hgoto : Effect.goto target ∈ effects) (htarget : target ∉ story.sceneIds) :
      HasFault story {
        kind := .unknownScene target
        context := some { stack := ["callback " ++ callback] } }

/-! ## The parts of the check -/

theorem mem_sceneFault_iff (story : Story) (id : String) (kind : FaultKind) :
    kind ∈ story.sceneFault id ↔ kind = .unknownScene id ∧ id ∉ story.sceneIds := by
  by_cases hid : id ∈ story.sceneIds <;> simp [sceneFault, hid]

theorem mem_callbackFault_iff (story : Story) (id : String) (kind : FaultKind) :
    kind ∈ story.callbackFault id ↔ kind = .unknownCallback id ∧ id ∉ story.callbacks.names := by
  rw [← NameMap.contains_iff_mem_names]
  by_cases hid : story.callbacks.contains id = true <;> simp [callbackFault, hid]

theorem mem_referenceFaults_iff (story : Story) (subject : Subject) (kind : FaultKind) :
    kind ∈ story.referenceFaults subject ↔
      (∃ target, subject.go = some target ∧ kind = .unknownScene target ∧
        target ∉ story.sceneIds) ∨
      ∃ callback, subject.Calls callback ∧ kind = .unknownCallback callback ∧
        callback ∉ story.callbacks.names := by
  simp only [referenceFaults, List.mem_append, List.mem_flatMap, Option.mem_toList,
    Subject.mem_triggers_iff, mem_sceneFault_iff, mem_callbackFault_iff]

theorem mem_subjectFaults_iff (story : Story) (kind : FaultKind) (subjects : List Subject)
    (seen : List String) :
    kind ∈ story.subjectFaults seen subjects ↔
      (∃ name ∈ subjects.map (·.name), kind = .duplicateSubject name ∧
        (name ∈ seen ∨ 2 ≤ (subjects.map (·.name)).count name)) ∨
      ∃ subject ∈ subjects, kind ∈ story.referenceFaults subject := by
  induction subjects generalizing seen with
  | nil => simp [subjectFaults]
  | cons subject rest ih =>
      have hcount : ∀ name, name ∈ rest.map (·.name) ↔ 1 ≤ (rest.map (·.name)).count name :=
        fun name => List.one_le_count_iff.symm
      simp only [subjectFaults, List.mem_append, ih, List.map_cons]
      grind

/-- The faults within a scene, said of what the scene declares. -/
theorem mem_sceneFaults_iff (story : Story) (scene : Scene) (kind : FaultKind) :
    kind ∈ story.subjectFaults [] (scene.placements.map (·.subject)) ↔
      (∃ name, 2 ≤ (scene.placements.map (·.subject.name)).count name ∧
        kind = .duplicateSubject name) ∨
      ∃ placement ∈ scene.placements,
        (∃ target, placement.subject.go = some target ∧ kind = .unknownScene target ∧
          target ∉ story.sceneIds) ∨
        ∃ callback, placement.subject.Calls callback ∧ kind = .unknownCallback callback ∧
          callback ∉ story.callbacks.names := by
  have hnames : (scene.placements.map (·.subject)).map (·.name) =
      scene.placements.map (·.subject.name) := by simp
  rw [mem_subjectFaults_iff, hnames]
  simp only [List.not_mem_nil, false_or, mem_referenceFaults_iff]
  constructor
  · rintro (⟨name, -, hkind, htwice⟩ | ⟨subject, hsubject, hreference⟩)
    · exact Or.inl ⟨name, htwice, hkind⟩
    · obtain ⟨placement, hplacement, rfl⟩ := List.mem_map.mp hsubject
      exact Or.inr ⟨placement, hplacement, hreference⟩
  · rintro (⟨name, htwice, hkind⟩ | ⟨placement, hplacement, hreference⟩)
    · have hname := List.one_le_count_iff.mp (Nat.le_of_lt htwice)
      exact Or.inl ⟨name, hname, hkind, htwice⟩
    · exact Or.inr ⟨placement.subject, List.mem_map_of_mem hplacement, hreference⟩

theorem mem_effectFaults_iff (story : Story) (effects : List Effect) (kind : FaultKind) :
    kind ∈ story.effectFaults effects ↔
      ∃ target, Effect.goto target ∈ effects ∧ kind = .unknownScene target ∧
        target ∉ story.sceneIds := by
  simp only [effectFaults, List.mem_flatMap]
  constructor
  · rintro ⟨effect, heffect, hkind⟩
    cases effect with
    | goto target =>
        exact ⟨target, heffect, (story.mem_sceneFault_iff target kind).mp hkind⟩
    | say | setFlag | clearFlag | give | discard => cases hkind
  · rintro ⟨target, hgoto, hkind⟩
    exact ⟨.goto target, hgoto, (story.mem_sceneFault_iff target kind).mpr hkind⟩

/-- The faults that the check lists are exactly those that the story has. -/
theorem mem_faults_iff (story : Story) (fault : Fault) :
    fault ∈ story.faults ↔ story.HasFault fault := by
  simp only [faults, List.mem_append, List.mem_map, List.mem_flatMap, mem_repeated_iff,
    List.not_mem_nil, false_or, mem_sceneFault_iff, mem_sceneFaults_iff, mem_effectFaults_iff,
    or_assoc]
  constructor
  · rintro (⟨id, ⟨-, htwice⟩, rfl⟩ | ⟨kind, ⟨rfl, hstart⟩, rfl⟩ |
      ⟨scene, hscene, kind, hkind, rfl⟩ | ⟨⟨callback, effects⟩, hcallback, kind, hkind, rfl⟩)
    · exact .sceneTwice htwice
    · exact .start hstart
    · rcases hkind with ⟨name, htwice, rfl⟩ | ⟨placement, hplacement, hkind⟩
      · exact .subjectTwice hscene htwice
      · rcases hkind with ⟨target, hgo, rfl, htarget⟩ | ⟨called, hcalls, rfl, hcalled⟩
        · exact .exit hscene hplacement hgo htarget
        · exact .trigger hscene hplacement hcalls hcalled
    · obtain ⟨target, hgoto, rfl, htarget⟩ := hkind
      exact .goto hcallback hgoto htarget
  · intro hfault
    cases hfault with
    | sceneTwice htwice =>
        have hid := List.one_le_count_iff.mp (Nat.le_of_lt htwice)
        exact Or.inl ⟨_, ⟨hid, htwice⟩, rfl⟩
    | start hstart => exact Or.inr (Or.inl ⟨_, ⟨rfl, hstart⟩, rfl⟩)
    | @subjectTwice scene name hscene htwice =>
        refine Or.inr (Or.inr (Or.inl ⟨scene, hscene, .duplicateSubject name, ?_, rfl⟩))
        exact Or.inl ⟨name, htwice, rfl⟩
    | @exit scene placement target hscene hplacement hgo htarget =>
        refine Or.inr (Or.inr (Or.inl ⟨scene, hscene, .unknownScene target, ?_, rfl⟩))
        exact Or.inr ⟨placement, hplacement, Or.inl ⟨target, hgo, rfl, htarget⟩⟩
    | @trigger scene placement callback hscene hplacement hcalls hcallback =>
        refine Or.inr (Or.inr (Or.inl ⟨scene, hscene, .unknownCallback callback, ?_, rfl⟩))
        exact Or.inr ⟨placement, hplacement, Or.inr ⟨callback, hcalls, rfl, hcallback⟩⟩
    | @goto callback target effects hcallback hgoto htarget =>
        refine Or.inr (Or.inr (Or.inr
          ⟨(callback, effects), hcallback, .unknownScene target, ?_, rfl⟩))
        exact ⟨target, hgoto, rfl, htarget⟩

/-! ## The fault that is reported -/

theorem mem_faults_of_check {story : Story} {fault : Fault} (hcheck : story.check = .error fault) :
    fault ∈ story.faults := by
  unfold check at hcheck
  cases hfaults : story.faults with
  | nil =>
      rw [hfaults] at hcheck
      cases hcheck
  | cons first rest =>
      rw [hfaults] at hcheck
      obtain rfl := Except.error.inj hcheck
      exact List.mem_cons_self

/-- A scene that is declared twice is reported before anything else, so the scene that another
fault names is the only one of its id. -/
theorem sceneIds_nodup_of_check {story : Story} {fault : Fault}
    (hcheck : story.check = .error fault) (hother : ∀ detail, fault.kind ≠ .storyFormat detail) :
    story.sceneIds.Nodup := by
  cases hrepeated : repeated [] story.sceneIds with
  | nil => exact ((repeated_eq_nil_iff story.sceneIds []).mp hrepeated).1
  | cons id rest =>
      simp only [check, faults, hrepeated, List.map_cons, List.cons_append] at hcheck
      obtain rfl := Except.error.inj hcheck
      exact absurd rfl (hother _)

/-- A story passes its check exactly when the ids of its scenes are distinct, the names within each
scene are distinct, and its start, the exits and callbacks of its subjects and the targets of its
callbacks are declared.  The fault that is reported of another story is true of it. -/
theorem check_eq_ok_iff_and_hasFault (story : Story) :
    (story.check = .ok () ↔
      story.sceneIds.Nodup ∧ story.start ∈ story.sceneIds ∧
        (∀ scene ∈ story.scenes, (scene.placements.map (·.subject.name)).Nodup ∧
          ∀ placement ∈ scene.placements,
            (∀ target, placement.subject.go = some target → target ∈ story.sceneIds) ∧
              ∀ callback, placement.subject.Calls callback → callback ∈ story.callbacks.names) ∧
        ∀ callback effects, (callback, effects) ∈ story.callbacks.entries →
          ∀ target, Effect.goto target ∈ effects → target ∈ story.sceneIds) ∧
    ∀ fault, story.check = .error fault → story.HasFault fault ∧
      ((∀ detail, fault.kind ≠ .storyFormat detail) → story.sceneIds.Nodup) := by
  constructor
  · rw [check_eq_ok_iff]
    constructor
    · intro hwell
      refine ⟨hwell.idsDistinct, hwell.startDeclared, ?_, ?_⟩
      · intro scene hscene
        refine ⟨hwell.namesDistinct scene hscene, ?_⟩
        intro placement hplacement
        refine ⟨hwell.exitsDeclared scene hscene placement hplacement, ?_⟩
        intro callback hcalls
        have htrigger := (placement.subject.mem_triggers_iff callback).mpr hcalls
        exact (NameMap.contains_iff_mem_names _ _).mp
          (hwell.triggersDeclared scene hscene placement hplacement callback htrigger)
      · intro callback effects hcallback
        exact hwell.gotosDeclared (callback, effects) hcallback
    · rintro ⟨hids, hstart, hscenes, hcallbacks⟩
      refine ⟨hids, hstart, ?_, ?_, ?_, ?_⟩
      · intro scene hscene
        exact (hscenes scene hscene).1
      · intro scene hscene placement hplacement
        exact ((hscenes scene hscene).2 placement hplacement).1
      · intro scene hscene placement hplacement callback htrigger
        have hcalls := (placement.subject.mem_triggers_iff callback).mp htrigger
        exact (NameMap.contains_iff_mem_names _ _).mpr
          (((hscenes scene hscene).2 placement hplacement).2 callback hcalls)
      · rintro ⟨callback, effects⟩ hcallback
        exact hcallbacks callback effects hcallback
  · intro fault hcheck
    exact ⟨(story.mem_faults_iff fault).mp (mem_faults_of_check hcheck),
      sceneIds_nodup_of_check hcheck⟩

/-- A mill whose wheel is declared twice and whose stairs lead nowhere. -/
def millStory : Story where
  start := "mill"
  scenes := [{
    id := "mill"
    placements := [
      { subject := { name := "wheel", uses := [{ partner := "rope", trigger := some "turn" }] } },
      { subject := { name := "wheel" } },
      { subject := { name := "stairs", go := some "loft" } }] }]
  callbacks := .ofList [("turn", [.say "It creaks.", .goto "mill"])]

theorem check_eq_ok_iff_and_hasFault_millStory :
    millStory.check = .error {
        kind := .duplicateSubject "wheel"
        context := some { scene := some "mill" } } ∧
      millStory.HasFault {
        kind := .duplicateSubject "wheel"
        context := some { scene := some "mill" } } ∧
      millStory.sceneIds.Nodup := by
  have hcheck : millStory.check = .error {
      kind := .duplicateSubject "wheel"
      context := some { scene := some "mill" } } := rfl
  obtain ⟨hfault, hids⟩ := millStory.check_eq_ok_iff_and_hasFault.2 _ hcheck
  exact ⟨hcheck, hfault, hids (by simp)⟩

end Story

end TextAdventure
