import TextAdventure.Proofs.Registration
import TextAdventure.Proofs.WellFormedStory
import TextAdventure.Session

/-!
# Entering a scene

Entering a scene first forgets the subjects at hand and then registers those that are there, which
fails at a repeated name.  In a well-formed story no scene repeats a name, and leaving out subjects
repeats none either, so a declared scene is always entered completely.
-/

namespace TextAdventure

namespace Session

/-! ## The subjects that are there -/

theorem present_sublist (session : Session) (scene : Scene) :
    (session.present scene).Sublist (scene.placements.map (·.subject)) :=
  List.filter_sublist.map _

/-- The subjects of a scene that are there have distinct names. -/
theorem present_names_nodup (session : Session) {story : Story} (hwell : story.WellFormed)
    {id : String} {scene : Scene} (hscene : story.scene? id = some scene) :
    ((session.present scene).map (·.name)).Nodup := by
  have hdeclared := hwell.namesDistinct scene (Story.mem_scenes_of_scene? hscene).1
  have hsublist := (session.present_sublist scene).map Subject.name
  rw [List.map_map] at hsublist
  exact hdeclared.sublist hsublist

/-- Which subjects are there depends on the flags, the inventories and the settings alone. -/
theorem present_congr {first second : Session}
    (hflags : ∀ flag, first.flags.contains flag = second.flags.contains flag)
    (hinventories : first.inventories = second.inventories)
    (hsettings : first.interpreter.settings = second.interpreter.settings) (scene : Scene) :
    first.present scene = second.present scene := by
  have hcontains : first.flags.contains = second.flags.contains := funext hflags
  have hpresent : first.isPresent = second.isPresent := by
    funext placement
    simp only [isPresent, hcontains, hinventories, hsettings]
  simp only [present, hpresent]

/-! ## Complete entry -/

/-- The session with a scene as its current one and with the subjects at hand that are there. -/
def inScene (session : Session) (scene : Scene) : Session :=
  { session with
    interpreter := { session.interpreter with registry := ⟨session.present scene⟩ }
    scene := scene.id }

@[simp] theorem inScene_story (session : Session) (scene : Scene) :
    (session.inScene scene).story = session.story := rfl

@[simp] theorem inScene_scene (session : Session) (scene : Scene) :
    (session.inScene scene).scene = scene.id := rfl

@[simp] theorem inScene_subjects (session : Session) (scene : Scene) :
    (session.inScene scene).interpreter.registry.subjects = session.present scene := rfl

@[simp] theorem inScene_present (session : Session) (scene other : Scene) :
    (session.inScene scene).present other = session.present other := rfl

theorem enter_of_undeclared (session : Session) {id : String}
    (hscene : session.story.scene? id = none) :
    session.enter id = (session, .error { kind := .unknownScene id }) := by
  simp [enter, hscene]

/-- In a well-formed story all subjects of a scene that are there can be registered. -/
theorem register_present (session : Session) (hwell : session.story.WellFormed) {id : String}
    {scene : Scene} (hscene : session.story.scene? id = some scene) :
    session.interpreter.beginScene.register (session.present scene) =
      ({ session.interpreter with registry := ⟨session.present scene⟩ }, .ok ()) := by
  have hnames := session.present_names_nodup hwell hscene
  have hnew : Registry.AllNew ⟨[]⟩ (session.present scene) := ⟨hnames, by simp⟩
  have hregister := Registry.registerAll_of_allNew hnew
  simp [Interpreter.register, Interpreter.beginScene, Registry.empty, hregister]

/-- In a well-formed story a declared scene is entered completely. -/
theorem enter_of_declared (session : Session) (hwell : session.story.WellFormed) {id : String}
    {scene : Scene} (hscene : session.story.scene? id = some scene) :
    session.enter id = (session.inScene scene, .ok ()) := by
  have hregister := session.register_present hwell hscene
  have hid := (Story.mem_scenes_of_scene? hscene).2
  simp only [enter, hscene, hregister, inScene, hid]

/-! ## Sessions whose subjects are up to date -/

/-- The subjects at hand are those of the current scene that are there now, in the order of the
story. -/
def InSync (session : Session) : Prop :=
  ∃ scene, session.story.scene? session.scene = some scene ∧
    session.interpreter.registry.subjects = session.present scene

instance (session : Session) : Decidable session.InSync :=
  decidable_of_iff ((session.story.scene? session.scene).map session.present =
    some session.interpreter.registry.subjects)
    (Option.map_eq_some_iff.trans (exists_congr fun _ => and_congr_right fun _ => eq_comm))

/-- A session that has just entered a declared scene is in sync. -/
theorem inSync_inScene (session : Session) {id : String} {scene : Scene}
    (hscene : session.story.scene? id = some scene) : (session.inScene scene).InSync := by
  have hid := (Story.mem_scenes_of_scene? hscene).2
  exact ⟨scene, by simp [hid, hscene], by simp⟩

/-- Showing the current scene anew brings a session in sync. -/
theorem inSync_render (session : Session) (hwell : session.story.WellFormed) {scene : Scene}
    (hscene : session.story.scene? session.scene = some scene) : session.render.InSync := by
  rw [render, session.enter_of_declared hwell hscene]
  exact session.inSync_inScene hscene

end Session

end TextAdventure
