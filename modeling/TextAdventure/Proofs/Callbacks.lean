import TextAdventure.Proofs.SceneEntry

/-!
# Callbacks and the subjects at hand

A callback does its effects one by one.  Its effects on flags, inventories and message do not
depend on the scenes that it enters, but the subjects at hand are those that were there when the
last scene was entered.  They are shown anew after the last effect only if no scene was entered at
all, so what is done after the last entry may leave them out of date.  This module tells exactly
when it does.
-/

namespace TextAdventure

namespace Effect

/-- The session with what an effect does to flags, inventories and message.  A scene is not
entered. -/
def actOn (session : Session) : Effect → Session
  | .say text => { session with message := some text }
  | .setFlag flag => { session with flags := session.flags.insert flag }
  | .clearFlag flag => { session with flags := session.flags.erase flag }
  | .give inventory item =>
    { session with inventories := session.inventories.add inventory item }
  | .discard inventory item =>
    { session with inventories := session.inventories.remove inventory item }
  | .goto _ => session

end Effect

namespace Session

/-- The session with what effects do to flags, inventories and message, one after another. -/
def affectedBy (session : Session) (effects : List Effect) : Session :=
  effects.foldl Effect.actOn session

/-- The session without its place: neither the current scene nor the subjects at hand. -/
def unplaced (session : Session) : Session :=
  { session with interpreter := { session.interpreter with registry := {} }, scene := "" }

/-- Entering a scene changes the place only, whether the scene could be entered or not. -/
theorem unplaced_enter (session : Session) (id : String) :
    (session.enter id).1.unplaced = session.unplaced := by
  unfold enter
  split
  · rfl
  · simp only [Interpreter.register]
    split <;> rfl

theorem unplaced_actOn (session : Session) (effect : Effect) :
    (effect.actOn session).unplaced = effect.actOn session.unplaced := by
  cases effect <;> rfl

/-- What effects do besides entering scenes is the same at every place. -/
theorem unplaced_affectedBy (session : Session) (effects : List Effect) :
    (session.affectedBy effects).unplaced = session.unplaced.affectedBy effects := by
  induction effects generalizing session with
  | nil => rfl
  | cons effect rest ih =>
      have hrest := ih (effect.actOn session)
      rwa [unplaced_actOn] at hrest

/-- Two sessions differ in their place only when they agree on everything else. -/
theorem unplaced_eq_iff {first second : Session} :
    first.unplaced = second.unplaced ↔
      first.story = second.story ∧
        first.interpreter.settings = second.interpreter.settings ∧
        first.inventories = second.inventories ∧ first.flags = second.flags ∧
        first.message = second.message ∧ first.refusals = second.refusals := by
  simp [unplaced]

@[simp] theorem enter_story (session : Session) (id : String) :
    (session.enter id).1.story = session.story :=
  (unplaced_eq_iff.mp (session.unplaced_enter id)).1

@[simp] theorem enter_settings (session : Session) (id : String) :
    (session.enter id).1.interpreter.settings = session.interpreter.settings :=
  (unplaced_eq_iff.mp (session.unplaced_enter id)).2.1

/-- Which subjects are there does not depend on the place. -/
theorem present_eq_of_unplaced_eq {first second : Session}
    (hsame : first.unplaced = second.unplaced) (scene : Scene) :
    first.present scene = second.present scene := by
  obtain ⟨-, hsettings, hinventories, hflags, -⟩ := unplaced_eq_iff.mp hsame
  exact present_congr (by simp [hflags]) hinventories hsettings scene

end Session

namespace CallbackRun

/-- An effect that enters no scene acts on the session and leaves the scene alone. -/
theorem step_of_ne_goto (run : CallbackRun) {effect : Effect}
    (hstays : ∀ target, effect ≠ .goto target) :
    (run.step effect).session = effect.actOn run.session ∧
      (run.step effect).moved = run.moved := by
  cases effect with
  | goto target => exact absurd rfl (hstays target)
  | say | setFlag | clearFlag | give | discard => exact ⟨rfl, rfl⟩

/-- One effect does the same to flags, inventories and message at every place. -/
theorem unplaced_step (run : CallbackRun) (effect : Effect) :
    (run.step effect).session.unplaced = effect.actOn run.session.unplaced := by
  cases effect with
  | goto target => exact run.session.unplaced_enter target
  | say | setFlag | clearFlag | give | discard => rfl

/-- Entering scenes on the way does not disturb what the effects do to flags, inventories and
message. -/
theorem unplaced_foldl_step (effects : List Effect) (run : CallbackRun) :
    (effects.foldl step run).session.unplaced = (run.session.affectedBy effects).unplaced := by
  rw [Session.unplaced_affectedBy]
  induction effects generalizing run with
  | nil => rfl
  | cons effect rest ih =>
      rw [List.foldl_cons, ih, unplaced_step]
      rfl

/-- Effects that enter no scene keep the place. -/
theorem foldl_step_of_no_goto {effects : List Effect}
    (hstays : ∀ target, Effect.goto target ∉ effects) (run : CallbackRun) :
    (effects.foldl step run).session = run.session.affectedBy effects ∧
      (effects.foldl step run).moved = run.moved := by
  induction effects generalizing run with
  | nil => exact ⟨rfl, rfl⟩
  | cons effect rest ih =>
      have heffect : ∀ target, effect ≠ .goto target := by
        rintro target rfl
        exact hstays target (by simp)
      have hfirst := run.step_of_ne_goto heffect
      have hrest := ih (fun target hgoto => hstays target (by simp [hgoto])) (run.step effect)
      rw [hfirst.1, hfirst.2] at hrest
      exact hrest

/-- An effect that is not recorded as a change leaves the same subjects there. -/
theorem step_of_not_changed (run : CallbackRun) (effect : Effect)
    (hchanged : (run.step effect).changed = false) :
    run.changed = false ∧
      ∀ scene, (effect.actOn run.session).present scene = run.session.present scene := by
  cases effect with
  | say text => exact ⟨hchanged, fun scene => rfl⟩
  | goto target => exact ⟨hchanged, fun scene => rfl⟩
  | give inventory item => simp [step] at hchanged
  | discard inventory item => simp [step] at hchanged
  | setFlag flag =>
      simp only [step, Bool.or_eq_false_iff, Bool.not_eq_false'] at hchanged
      refine ⟨hchanged.1, Session.present_congr ?_ rfl rfl⟩
      intro other
      simp only [Effect.actOn, NameSet.contains_insert]
      by_cases hother : other = flag
      · simp [hother, hchanged.2]
      · simp [hother]
  | clearFlag flag =>
      simp only [step, Bool.or_eq_false_iff] at hchanged
      refine ⟨hchanged.1, Session.present_congr ?_ rfl rfl⟩
      intro other
      simp only [Effect.actOn, NameSet.contains_erase]
      by_cases hother : other = flag
      · simp [hother, hchanged.2]
      · simp [hother]

/-- Effects that are not recorded as a change leave the same subjects there. -/
theorem foldl_step_of_not_changed (effects : List Effect) (run : CallbackRun)
    (hchanged : (effects.foldl step run).changed = false) :
    run.changed = false ∧
      ∀ scene, (run.session.affectedBy effects).present scene = run.session.present scene := by
  induction effects generalizing run with
  | nil => exact ⟨hchanged, fun scene => rfl⟩
  | cons effect rest ih =>
      have hrest := ih (run.step effect) hchanged
      have hfirst := run.step_of_not_changed effect hrest.1
      -- A goto takes the run to another place than the effect alone, with the same subjects there.
      have hbefore : (run.step effect).session.unplaced =
          (effect.actOn run.session).unplaced := by
        rw [unplaced_step, Session.unplaced_actOn]
      have hafter : ((run.step effect).session.affectedBy rest).unplaced =
          (run.session.affectedBy (effect :: rest)).unplaced := by
        rw [Session.unplaced_affectedBy, hbefore, ← Session.unplaced_affectedBy]
        rfl
      refine ⟨hfirst.1, ?_⟩
      intro scene
      calc
        (run.session.affectedBy (effect :: rest)).present scene =
            ((run.step effect).session.affectedBy rest).present scene :=
          (Session.present_eq_of_unplaced_eq hafter scene).symm
        _ = (run.step effect).session.present scene := hrest.2 scene
        _ = (effect.actOn run.session).present scene :=
          Session.present_eq_of_unplaced_eq hbefore scene
        _ = run.session.present scene := hfirst.2 scene

end CallbackRun

namespace Session

/-! ## The last scene that a callback enters -/

/-- What no single effect changes, a list of effects does not change. -/
theorem affectedBy_frame {α : Type} {part : Session → α}
    (hpart : ∀ session effect, part (Effect.actOn session effect) = part session)
    (session : Session) (effects : List Effect) :
    part (session.affectedBy effects) = part session := by
  induction effects generalizing session with
  | nil => rfl
  | cons effect rest ih =>
      calc
        part (session.affectedBy (effect :: rest)) = part (effect.actOn session) :=
          ih (effect.actOn session)
        _ = part session := hpart session effect

@[simp] theorem affectedBy_story (session : Session) (effects : List Effect) :
    (session.affectedBy effects).story = session.story :=
  affectedBy_frame (fun _ effect => by cases effect <;> rfl) session effects

@[simp] theorem affectedBy_scene (session : Session) (effects : List Effect) :
    (session.affectedBy effects).scene = session.scene :=
  affectedBy_frame (fun _ effect => by cases effect <;> rfl) session effects

@[simp] theorem affectedBy_interpreter (session : Session) (effects : List Effect) :
    (session.affectedBy effects).interpreter = session.interpreter :=
  affectedBy_frame (fun _ effect => by cases effect <;> rfl) session effects

/-- A callback does to flags, inventories and message what its effects do, at whatever place. -/
theorem unplaced_invoke (session : Session) {callback : String} {effects : List Effect}
    (hcallback : session.story.callback? callback = some effects) :
    (session.invoke callback).unplaced = (session.affectedBy effects).unplaced := by
  have hrun := CallbackRun.unplaced_foldl_step effects { session }
  simp only [invoke, hcallback, CallbackRun.finish]
  split
  · rw [render, unplaced_enter]
    exact hrun
  · exact hrun

theorem invoke_story (session : Session) (callback : String) :
    (session.invoke callback).story = session.story := by
  cases hcallback : session.story.callback? callback with
  | none => simp only [invoke, hcallback]
  | some effects =>
      have hstory := (unplaced_eq_iff.mp (session.unplaced_invoke hcallback)).1
      rw [hstory, affectedBy_story]

/-- A list of effects enters no scene, or some scene is the last one that it enters. -/
theorem exists_last_goto (effects : List Effect) :
    (∀ target, Effect.goto target ∉ effects) ∨
      ∃ before target after, effects = before ++ .goto target :: after ∧
        ∀ other, Effect.goto other ∉ after := by
  induction effects with
  | nil => exact Or.inl (by simp)
  | cons effect rest ih =>
      rcases ih with hnone | ⟨before, target, after, rfl, hlast⟩
      · cases effect with
        | goto target => exact Or.inr ⟨[], target, rest, rfl, hnone⟩
        | say | setFlag | clearFlag | give | discard => exact Or.inl (by simpa using hnone)
      · exact Or.inr ⟨effect :: before, target, after, rfl, hlast⟩

/-- A callback that enters no scene leaves a session in sync that was so before. -/
theorem inSync_invoke_of_no_goto {session : Session} (hwell : session.story.WellFormed)
    (hsync : session.InSync) {callback : String} {effects : List Effect}
    (hcallback : session.story.callback? callback = some effects)
    (hstays : ∀ target, Effect.goto target ∉ effects) : (session.invoke callback).InSync := by
  obtain ⟨scene, hscene, hsubjects⟩ := hsync
  have hrun := CallbackRun.foldl_step_of_no_goto hstays { session }
  simp only [invoke, hcallback, CallbackRun.finish, hrun]
  cases hchanged : (effects.foldl CallbackRun.step { session }).changed with
  | true => exact inSync_render _ (by simpa using hwell) (by simpa using hscene)
  | false =>
      have hpresent := (CallbackRun.foldl_step_of_not_changed effects { session } hchanged).2
      refine ⟨scene, by simpa using hscene, ?_⟩
      simpa [hpresent] using hsubjects

/-- After a callback the current scene is the last one that it entered, with the subjects that
were there then. -/
theorem invoke_of_last_goto {session : Session} (hwell : session.story.WellFormed)
    {callback : String} {before after : List Effect} {target : String} {scene : Scene}
    (hcallback : session.story.callback? callback = some (before ++ .goto target :: after))
    (hlast : ∀ other, Effect.goto other ∉ after)
    (hscene : session.story.scene? target = some scene) :
    (session.invoke callback).scene = target ∧
      (session.invoke callback).interpreter.registry.subjects =
        (session.affectedBy before).present scene := by
  let entering := before.foldl CallbackRun.step { session }
  have hentering : entering.session.unplaced = (session.affectedBy before).unplaced :=
    CallbackRun.unplaced_foldl_step before { session }
  have hstory : entering.session.story = session.story := by
    simpa using (unplaced_eq_iff.mp hentering).1
  have henter : entering.session.transition target = entering.session.inScene scene := by
    rw [transition, enter_of_declared _ (hstory ▸ hwell) (hstory ▸ hscene)]
  have hrest := CallbackRun.foldl_step_of_no_goto hlast (entering.step (.goto target))
  have hfold : (before ++ .goto target :: after).foldl CallbackRun.step { session } =
      after.foldl CallbackRun.step (entering.step (.goto target)) := by
    simp [entering]
  -- A scene was entered, so nothing is shown anew after the last effect.
  have hinvoke : session.invoke callback =
      (entering.session.inScene scene).affectedBy after := by
    simp only [invoke, hcallback, CallbackRun.finish, hfold, hrest]
    simp [CallbackRun.step, henter]
  constructor
  · simp [hinvoke, (Story.mem_scenes_of_scene? hscene).2]
  · simp [hinvoke, present_eq_of_unplaced_eq hentering]

/-- A callback leaves a session in sync exactly when the subjects of the last scene that it enters
are the same at that entry and at the end; if it enters no scene, it always does. -/
theorem inSync_invoke_iff (session : Session) (hcheck : session.story.check = .ok ())
    (hsync : session.InSync) {callback : String} {effects : List Effect}
    (hcallback : session.story.callback? callback = some effects) :
    (session.invoke callback).InSync ↔
      ∀ before target after scene, effects = before ++ .goto target :: after →
        (∀ other, Effect.goto other ∉ after) → session.story.scene? target = some scene →
          (session.affectedBy before).present scene =
            (session.affectedBy effects).present scene := by
  have hwell := session.story.check_eq_ok_iff.mp hcheck
  have hstory := session.invoke_story callback
  have hpresent := present_eq_of_unplaced_eq (session.unplaced_invoke hcallback)
  constructor
  · rintro ⟨shown, hshown, hsubjects⟩ before target after scene rfl hlast hscene
    obtain ⟨htarget, hregistry⟩ := invoke_of_last_goto hwell hcallback hlast hscene
    rw [hstory, htarget, hscene] at hshown
    obtain rfl := Option.some.inj hshown
    rw [← hregistry, hsubjects, hpresent]
  · intro hsame
    rcases exists_last_goto effects with hnone | ⟨before, target, after, rfl, hlast⟩
    · exact inSync_invoke_of_no_goto hwell hsync hcallback hnone
    · have hmem : Effect.goto target ∈ before ++ .goto target :: after := by simp
      obtain ⟨scene, hscene⟩ := hwell.exists_scene?_of_goto hcallback hmem
      obtain ⟨htarget, hregistry⟩ := invoke_of_last_goto hwell hcallback hlast hscene
      refine ⟨scene, by rw [hstory, htarget, hscene], ?_⟩
      rw [hregistry, hsame before target after scene rfl hlast hscene, hpresent]

/-- A cellar with a lamp that is there until it is dark. -/
def lampStory : Story where
  start := "cellar"
  scenes := [{
    id := "cellar"
    placements := [{
      subject := { name := "lamp", keywords := ["lamp"] }
      unlessFlag := some "dark" }] }]
  callbacks := .ofList [
    ("snuff", [.goto "cellar", .setFlag "dark"]),
    ("leave", [.setFlag "dark", .goto "cellar"])]

/-- The cellar when the story has just begun. -/
def lampSession : Session where
  story := lampStory
  interpreter := { registry := ⟨[{ name := "lamp", keywords := ["lamp"] }]⟩ }
  scene := "cellar"

theorem inSync_invoke_iff_lampSession :
    lampSession.story.check = .ok () ∧ lampSession.InSync ∧
      ((lampSession.invoke "leave").InSync ↔
        ∀ before target after scene,
          [Effect.setFlag "dark", .goto "cellar"] = before ++ .goto target :: after →
            (∀ other, Effect.goto other ∉ after) →
              lampSession.story.scene? target = some scene →
                (lampSession.affectedBy before).present scene =
                  (lampSession.affectedBy [.setFlag "dark", .goto "cellar"]).present scene) := by
  have hcheck : lampSession.story.check = .ok () := rfl
  have hsync : lampSession.InSync := by decide
  have hcallback : lampSession.story.callback? "leave" =
      some [.setFlag "dark", .goto "cellar"] := rfl
  exact ⟨hcheck, hsync, inSync_invoke_iff lampSession hcheck hsync hcallback⟩

/-- A flag that is set after the last entry is overlooked: the lamp stays at hand in the dark. -/
theorem exists_invoke_not_inSync :
    ∃ session : Session, ∃ callback effects, session.story.check = .ok () ∧ session.InSync ∧
      session.story.callback? callback = some effects ∧ ¬(session.invoke callback).InSync :=
  ⟨lampSession, "snuff", [.goto "cellar", .setFlag "dark"], rfl, by decide, rfl, by decide⟩

end Session

end TextAdventure
