import TextAdventure.Story.Check
import Mathlib.Data.List.Nodup

/-!
# Well-formed stories

A story is well formed when no two scenes share an id, no two subjects of one scene share a name,
and everything that the story refers to is declared.  This is exactly what the check of a story
asks for, so a session that has started can rely on it.
-/

namespace TextAdventure

/-- No word of a list is repeated exactly when the list has no duplicates and meets none of the
words seen before. -/
theorem repeated_eq_nil_iff (words seen : List String) :
    repeated seen words = [] ↔ words.Nodup ∧ ∀ word ∈ words, word ∉ seen := by
  induction words generalizing seen with
  | nil => simp [repeated]
  | cons word rest ih =>
      by_cases hword : word ∈ seen
      · simp [repeated, hword]
      · simp only [repeated, List.contains_eq_mem, hword, decide_false, Bool.false_eq_true,
          if_false, ih, List.mem_cons, List.nodup_cons]
        grind

namespace Story

/-- Ids and names are distinct, and every scene and callback that is referred to is declared. -/
structure WellFormed (story : Story) : Prop where
  idsDistinct : story.sceneIds.Nodup
  startDeclared : story.start ∈ story.sceneIds
  namesDistinct : ∀ scene ∈ story.scenes, (scene.placements.map (·.subject.name)).Nodup
  exitsDeclared : ∀ scene ∈ story.scenes, ∀ placement ∈ scene.placements,
    ∀ target, placement.subject.go = some target → target ∈ story.sceneIds
  triggersDeclared : ∀ scene ∈ story.scenes, ∀ placement ∈ scene.placements,
    ∀ callback ∈ placement.subject.triggers, story.callbacks.contains callback = true
  gotosDeclared : ∀ entry ∈ story.callbacks.entries, ∀ target,
    Effect.goto target ∈ entry.2 → target ∈ story.sceneIds

theorem sceneFault_eq_nil_iff (story : Story) (id : String) :
    story.sceneFault id = [] ↔ id ∈ story.sceneIds := by
  simp [sceneFault]

theorem callbackFault_eq_nil_iff (story : Story) (id : String) :
    story.callbackFault id = [] ↔ story.callbacks.contains id = true := by
  simp [callbackFault]

/-- A subject refers to nothing that is missing exactly when its exit and its callbacks are
declared. -/
theorem referenceFaults_eq_nil_iff (story : Story) (subject : Subject) :
    story.referenceFaults subject = [] ↔
      (∀ target, subject.go = some target → target ∈ story.sceneIds) ∧
        ∀ callback ∈ subject.triggers, story.callbacks.contains callback = true := by
  simp [referenceFaults, List.flatMap_eq_nil_iff, sceneFault_eq_nil_iff,
    callbackFault_eq_nil_iff]

/-- The subjects of a scene have no fault exactly when their names are new and distinct, and
none of them refers to anything that is missing. -/
theorem subjectFaults_eq_nil_iff (story : Story) (subjects : List Subject) (seen : List String) :
    story.subjectFaults seen subjects = [] ↔
      (subjects.map (·.name)).Nodup ∧ (∀ subject ∈ subjects, subject.name ∉ seen) ∧
        ∀ subject ∈ subjects, story.referenceFaults subject = [] := by
  induction subjects generalizing seen with
  | nil => simp [subjectFaults]
  | cons subject rest ih =>
      by_cases hseen : subject.name ∈ seen
      · simp [subjectFaults, hseen]
      · simp only [subjectFaults, List.contains_eq_mem, hseen, decide_false, Bool.false_eq_true,
          if_false, List.nil_append, List.append_eq_nil_iff, ih, List.mem_cons,
          List.map_cons, List.nodup_cons, List.mem_map]
        grind

/-- The effects of a callback have no fault exactly when every scene that they enter is
declared. -/
theorem effectFaults_eq_nil_iff (story : Story) (effects : List Effect) :
    story.effectFaults effects = [] ↔
      ∀ target, Effect.goto target ∈ effects → target ∈ story.sceneIds := by
  simp only [effectFaults, List.flatMap_eq_nil_iff]
  constructor
  · intro hfaults target hgoto
    exact (story.sceneFault_eq_nil_iff target).mp (hfaults _ hgoto)
  · intro hdeclared effect heffect
    cases effect with
    | goto target => exact (story.sceneFault_eq_nil_iff target).mpr (hdeclared target heffect)
    | say | setFlag | clearFlag | give | discard => rfl

/-- A story passes its check exactly when it is well formed. -/
theorem check_eq_ok_iff (story : Story) : story.check = .ok () ↔ story.WellFormed := by
  have hcheck : story.check = .ok () ↔ story.faults = [] := by
    unfold check
    cases story.faults with
    | nil => simp
    | cons fault rest => simp
  rw [hcheck]
  simp only [faults, List.append_eq_nil_iff, List.map_eq_nil_iff, List.flatMap_eq_nil_iff,
    repeated_eq_nil_iff, sceneFault_eq_nil_iff, subjectFaults_eq_nil_iff,
    referenceFaults_eq_nil_iff, effectFaults_eq_nil_iff, List.map_map]
  constructor
  · rintro ⟨⟨⟨hids, hstart⟩, hscenes⟩, hcallbacks⟩
    exact {
      idsDistinct := hids.1
      startDeclared := hstart
      namesDistinct := fun scene hscene => (hscenes scene hscene).1
      exitsDeclared := fun scene hscene placement hplacement =>
        ((hscenes scene hscene).2.2 _ (List.mem_map_of_mem hplacement)).1
      triggersDeclared := fun scene hscene placement hplacement =>
        ((hscenes scene hscene).2.2 _ (List.mem_map_of_mem hplacement)).2
      gotosDeclared := hcallbacks }
  · intro hwell
    refine ⟨⟨⟨⟨hwell.idsDistinct, by simp⟩, hwell.startDeclared⟩, ?_⟩, hwell.gotosDeclared⟩
    intro scene hscene
    refine ⟨hwell.namesDistinct scene hscene, by simp, ?_⟩
    intro subject hsubject
    obtain ⟨placement, hplacement, rfl⟩ := List.mem_map.mp hsubject
    exact ⟨hwell.exitsDeclared scene hscene placement hplacement,
      hwell.triggersDeclared scene hscene placement hplacement⟩

/-- A scene is found by its id among the scenes of the story. -/
theorem mem_scenes_of_scene? {story : Story} {id : String} {scene : Scene}
    (hscene : story.scene? id = some scene) : scene ∈ story.scenes ∧ scene.id = id := by
  unfold scene? at hscene
  have hid := List.find?_some hscene
  exact ⟨List.mem_of_find?_eq_some hscene, by simpa using hid⟩

/-- Every declared id leads to a scene. -/
theorem exists_scene?_of_mem {story : Story} {id : String} (hid : id ∈ story.sceneIds) :
    ∃ scene, story.scene? id = some scene := by
  obtain ⟨scene, hscene, rfl⟩ := List.mem_map.mp hid
  cases hfound : story.scene? scene.id with
  | none =>
      have hnone := List.find?_eq_none.mp hfound scene hscene
      simp at hnone
  | some found => exact ⟨found, rfl⟩

/-- What a declared callback enters is declared. -/
theorem WellFormed.mem_sceneIds_of_goto {story : Story} (hwell : story.WellFormed)
    {callback target : String} {effects : List Effect}
    (hcallback : story.callback? callback = some effects)
    (hgoto : Effect.goto target ∈ effects) : target ∈ story.sceneIds := by
  obtain ⟨entry, hfound, rfl⟩ := Option.map_eq_some_iff.mp hcallback
  exact hwell.gotosDeclared entry (List.mem_of_find?_eq_some hfound) target hgoto

theorem WellFormed.exists_scene?_of_goto {story : Story} (hwell : story.WellFormed)
    {callback target : String} {effects : List Effect}
    (hcallback : story.callback? callback = some effects)
    (hgoto : Effect.goto target ∈ effects) : ∃ scene, story.scene? target = some scene :=
  exists_scene?_of_mem (hwell.mem_sceneIds_of_goto hcallback hgoto)

end Story

end TextAdventure
