import TextAdventure.Proofs.Remarks

/-!
# What a callback does to each part of a session

Every effect concerns one part of a session: its flags, what is held, the message, or the scene.  A
callback acts on each part by the effects that concern it and reads no other part, although it shows
scenes on the way, and what is shown is read off flags and inventories.  Only the subjects at hand
depend on how effects on different parts follow one another.
-/

namespace TextAdventure

namespace Effect

/-- The parts of a session that effects concern. -/
inductive Part where
  | flags
  | inventories
  | message
  | scene
  deriving DecidableEq

/-- The part that an effect concerns. -/
def part : Effect → Part
  | .say _ => .message
  | .setFlag _ | .clearFlag _ => .flags
  | .give _ _ | .discard _ _ => .inventories
  | .goto _ => .scene

/-- The effects that concern a part, in their order. -/
def concerning (part : Part) (effects : List Effect) : List Effect :=
  effects.filter (·.part = part)

/-- What an effect makes of the flags. -/
def onFlags (flags : NameSet) : Effect → NameSet
  | .setFlag flag => flags.insert flag
  | .clearFlag flag => flags.erase flag
  | .say _ | .give _ _ | .discard _ _ | .goto _ => flags

/-- What an effect makes of the inventories. -/
def onInventories (inventories : Inventories) : Effect → Inventories
  | .give inventory item => inventories.add inventory item
  | .discard inventory item => inventories.remove inventory item
  | .say _ | .setFlag _ | .clearFlag _ | .goto _ => inventories

/-- The scene that an effect asks for. -/
def target? : Effect → Option String
  | .goto target => some target
  | .say _ | .setFlag _ | .clearFlag _ | .give _ _ | .discard _ _ => none

theorem mem_concerning_iff {part : Part} {effect : Effect} {effects : List Effect} :
    effect ∈ concerning part effects ↔ effect ∈ effects ∧ effect.part = part := by
  simp [concerning]

theorem foldl_concerning {α : Type} {act : α → Effect → α} {part : Part}
    (hidle : ∀ state effect, effect.part ≠ part → act state effect = state)
    (effects : List Effect) (state : α) :
    (concerning part effects).foldl act state = effects.foldl act state := by
  rw [concerning, List.foldl_filter]
  congr 1
  funext state effect
  by_cases hpart : effect.part = part
  · simp [hpart]
  · simp [hpart, hidle state effect hpart]

theorem filterMap_concerning {α : Type} {read : Effect → Option α} {part : Part}
    (hidle : ∀ effect, effect.part ≠ part → read effect = none) (effects : List Effect) :
    (concerning part effects).filterMap read = effects.filterMap read := by
  rw [concerning, List.filterMap_filter]
  congr 1
  funext effect
  by_cases hpart : effect.part = part
  · simp [hpart]
  · simp [hpart, hidle effect hpart]

end Effect

open Effect (concerning)

/-- The last scene that effects enter. -/
def lastTarget? (effects : List Effect) : Option String :=
  (effects.filterMap Effect.target?).getLast?

theorem lastTarget?_of_no_goto {effects : List Effect}
    (hstays : ∀ target, Effect.goto target ∉ effects) : lastTarget? effects = none := by
  have hnone : effects.filterMap Effect.target? = [] := by
    rw [List.filterMap_eq_nil_iff]
    intro effect heffect
    cases effect with
    | goto target => exact absurd heffect (hstays target)
    | say | setFlag | clearFlag | give | discard => rfl
  rw [lastTarget?, hnone, List.getLast?_nil]

theorem lastTarget?_of_last_goto {before after : List Effect} {target : String}
    (hlast : ∀ other, Effect.goto other ∉ after) :
    lastTarget? (before ++ .goto target :: after) = some target := by
  have hafter := lastTarget?_of_no_goto hlast
  rw [lastTarget?] at hafter
  simp [lastTarget?, Effect.target?, List.getLast?_append, List.getLast?_cons, hafter]

theorem lastTarget?_concerning (effects : List Effect) :
    lastTarget? (concerning .scene effects) = lastTarget? effects := by
  rw [lastTarget?, Effect.filterMap_concerning, lastTarget?]
  intro effect heffect
  cases effect with
  | goto target => exact absurd rfl heffect
  | say | setFlag | clearFlag | give | discard => rfl

theorem lastText?_concerning (effects : List Effect) :
    lastText? (concerning .message effects) = lastText? effects := by
  rw [lastText?, Effect.filterMap_concerning, lastText?]
  intro effect heffect
  cases effect with
  | say text => exact absurd rfl heffect
  | setFlag | clearFlag | give | discard | goto => rfl

namespace Session

theorem affectedBy_flags (session : Session) (effects : List Effect) :
    (session.affectedBy effects).flags =
      (concerning .flags effects).foldl Effect.onFlags session.flags := by
  rw [Effect.foldl_concerning]
  · induction effects generalizing session with
    | nil => rfl
    | cons effect rest ih =>
        have hrest := ih (effect.actOn session)
        cases effect <;> exact hrest
  · intro flags effect heffect
    cases effect with
    | setFlag | clearFlag => exact absurd rfl heffect
    | say | give | discard | goto => rfl

theorem affectedBy_inventories (session : Session) (effects : List Effect) :
    (session.affectedBy effects).inventories =
      (concerning .inventories effects).foldl Effect.onInventories session.inventories := by
  rw [Effect.foldl_concerning]
  · induction effects generalizing session with
    | nil => rfl
    | cons effect rest ih =>
        have hrest := ih (effect.actOn session)
        cases effect <;> exact hrest
  · intro inventories effect heffect
    cases effect with
    | give | discard => exact absurd rfl heffect
    | say | setFlag | clearFlag | goto => rfl

@[simp] theorem render_scene (session : Session) : session.render.scene = session.scene := by
  unfold render enter
  split
  · rfl
  · simp only [Interpreter.register]
    split <;> rfl

variable {session : Session} {callback : String} {effects : List Effect}

theorem invoke_flags (hcallback : session.story.callback? callback = some effects) :
    (session.invoke callback).flags =
      (concerning .flags effects).foldl Effect.onFlags session.flags := by
  have hparts := unplaced_eq_iff.mp (session.unplaced_invoke hcallback)
  rw [hparts.2.2.2.1, affectedBy_flags]

theorem invoke_inventories (hcallback : session.story.callback? callback = some effects) :
    (session.invoke callback).inventories =
      (concerning .inventories effects).foldl Effect.onInventories session.inventories := by
  have hparts := unplaced_eq_iff.mp (session.unplaced_invoke hcallback)
  rw [hparts.2.2.1, affectedBy_inventories]

theorem invoke_remarks (hcallback : session.story.callback? callback = some effects) :
    (session.invoke callback).remarks = session.remarks.hearing (lastText? effects) := by
  have hremarks := session.remarks_meet (.invoke callback)
  rwa [Story.saidAt, Story.saidBy, hcallback] at hremarks

/-- In a story whose references are declared no entry fails, so the last one decides. -/
theorem invoke_scene (hwell : session.story.WellFormed)
    (hcallback : session.story.callback? callback = some effects) :
    (session.invoke callback).scene = (lastTarget? effects).getD session.scene := by
  rcases exists_last_goto effects with hnone | ⟨before, target, after, rfl, hlast⟩
  · have hrun := CallbackRun.foldl_step_of_no_goto hnone { session }
    rw [lastTarget?_of_no_goto hnone]
    simp only [invoke, hcallback, CallbackRun.finish, hrun]
    split <;> simp
  · have hmem : Effect.goto target ∈ before ++ .goto target :: after := by simp
    obtain ⟨scene, hscene⟩ := hwell.exists_scene?_of_goto hcallback hmem
    rw [(invoke_of_last_goto hwell hcallback hlast hscene).1, lastTarget?_of_last_goto hlast]
    rfl

end Session

/-! ## Effects in another order -/

/-- The story with other effects for a callback. -/
def Story.redeclaring (story : Story) (callback : String) (effects : List Effect) : Story :=
  { story with callbacks := story.callbacks.insert callback effects }

theorem Story.callback?_redeclaring (story : Story) (callback : String) (effects : List Effect) :
    (story.redeclaring callback effects).callback? callback = some effects := by
  simp [redeclaring, callback?, NameMap.get?_insert]

theorem Story.WellFormed.redeclaring {story : Story} (hwell : story.WellFormed)
    (callback : String) {effects : List Effect}
    (hgotos : ∀ target, Effect.goto target ∈ effects → target ∈ story.sceneIds) :
    (story.redeclaring callback effects).WellFormed := by
  refine ⟨hwell.idsDistinct, hwell.startDeclared, hwell.namesDistinct, hwell.exitsDeclared, ?_, ?_⟩
  · intro scene hscene placement hplacement trigger htrigger
    have hcontains := hwell.triggersDeclared scene hscene placement hplacement trigger htrigger
    rw [NameMap.contains] at hcontains ⊢
    rw [Story.redeclaring, NameMap.get?_insert]
    split
    · rfl
    · exact hcontains
  · intro entry hentry target hgoto
    rcases NameMap.mem_placed hentry with rfl | hold
    · exact hgotos target hgoto
    · exact hwell.gotosDeclared entry hold target hgoto

namespace Session

/-- The session in the story with other effects for a callback. -/
def redeclaring (session : Session) (callback : String) (effects : List Effect) : Session :=
  { session with story := session.story.redeclaring callback effects }

/-- In a story that passes its check, a callback acts on flags, inventories, message and scene by
the effects that concern them, and leaves the count of refusals alone.  So these four parts are the
same after every rearrangement of its effects that keeps those on each part in their order. -/
theorem parts_invoke (session : Session) (hcheck : session.story.check = .ok ())
    {callback : String} {effects : List Effect}
    (hcallback : session.story.callback? callback = some effects) :
    (session.invoke callback).flags =
        (concerning .flags effects).foldl Effect.onFlags session.flags ∧
      (session.invoke callback).inventories =
        (concerning .inventories effects).foldl Effect.onInventories session.inventories ∧
      (session.invoke callback).message = (lastText? effects).or session.message ∧
      (session.invoke callback).scene = (lastTarget? effects).getD session.scene ∧
      (session.invoke callback).refusals = session.refusals ∧
      ∀ rearranged, (∀ part, concerning part rearranged = concerning part effects) →
        let other := (session.redeclaring callback rearranged).invoke callback
        other.flags = (session.invoke callback).flags ∧
          other.inventories = (session.invoke callback).inventories ∧
          other.message = (session.invoke callback).message ∧
          other.scene = (session.invoke callback).scene := by
  have hwell := session.story.check_eq_ok_iff.mp hcheck
  have hremarks := invoke_remarks hcallback
  refine ⟨invoke_flags hcallback, invoke_inventories hcallback, congrArg Remarks.message hremarks,
    invoke_scene hwell hcallback, congrArg Remarks.refusals hremarks, ?_⟩
  intro rearranged hparts
  have hother : (session.redeclaring callback rearranged).story.callback? callback =
      some rearranged := session.story.callback?_redeclaring callback rearranged
  have hwellOther : (session.redeclaring callback rearranged).story.WellFormed := by
    apply hwell.redeclaring
    intro target hgoto
    have hmem : Effect.goto target ∈ concerning .scene effects := by
      rw [← hparts .scene]
      exact Effect.mem_concerning_iff.mpr ⟨hgoto, rfl⟩
    exact hwell.mem_sceneIds_of_goto hcallback (Effect.mem_concerning_iff.mp hmem).1
  refine ⟨?_, ?_, ?_, ?_⟩
  · rw [invoke_flags hother, invoke_flags hcallback, hparts]
    rfl
  · rw [invoke_inventories hother, invoke_inventories hcallback, hparts]
    rfl
  · have hsaid : lastText? rearranged = lastText? effects := by
      rw [← lastText?_concerning, hparts, lastText?_concerning]
    have hremarksOther := invoke_remarks hother
    rw [hsaid] at hremarksOther
    exact (congrArg Remarks.message hremarksOther).trans (congrArg Remarks.message hremarks).symm
  · rw [invoke_scene hwellOther hother, invoke_scene hwell hcallback,
      ← lastTarget?_concerning, hparts, lastTarget?_concerning]
    rfl

/-- A chapel whose bell can be tolled, above a crypt. -/
def chapelStory : Story where
  start := "chapel"
  scenes := [
    { id := "chapel"
      placements := [
        { subject := { name := "bell", keywords := ["bell"] }, unlessFlag := some "heard" }] },
    { id := "crypt" }]
  callbacks := .ofList [
    ("toll", [.say "Dong.", .goto "crypt", .setFlag "heard", .give "memorybank" "bell",
      .goto "chapel", .clearFlag "heard", .say "It dies away.", .discard "memorybank" "bell",
      .setFlag "heard"])]

/-- The chapel when the story has just begun. -/
def chapelSession : Session where
  story := chapelStory
  interpreter := { registry := ⟨[{ name := "bell", keywords := ["bell"] }]⟩ }
  scene := "chapel"

/-- The effects of the bell, those on the place last. -/
def tolling : List Effect :=
  [.setFlag "heard", .say "Dong.", .give "memorybank" "bell", .clearFlag "heard",
    .discard "memorybank" "bell", .setFlag "heard", .say "It dies away.", .goto "crypt",
    .goto "chapel"]

theorem parts_invoke_chapelSession :
    chapelSession.story.check = .ok () ∧
      (chapelSession.invoke "toll").flags = .ofList ["heard"] ∧
      (chapelSession.invoke "toll").inventories = ⟨.ofList [("memorybank", [])]⟩ ∧
      (chapelSession.invoke "toll").message = some "It dies away." ∧
      (chapelSession.invoke "toll").scene = "chapel" ∧
      (chapelSession.invoke "toll").refusals = 0 ∧
      (∀ part, concerning part tolling = concerning part
        ((chapelStory.callback? "toll").getD [])) ∧
      ((chapelSession.redeclaring "toll" tolling).invoke "toll").scene = "chapel" := by
  have hcheck : chapelSession.story.check = .ok () := rfl
  have hcallback : chapelSession.story.callback? "toll" =
      some ((chapelStory.callback? "toll").getD []) := rfl
  have hparts : ∀ part, concerning part tolling = concerning part
      ((chapelStory.callback? "toll").getD []) := by
    intro part
    cases part <;> rfl
  obtain ⟨hflags, hinventories, hmessage, hscene, hrefusals, hrearranged⟩ :=
    parts_invoke chapelSession hcheck hcallback
  exact ⟨hcheck, hflags.trans (by decide), hinventories.trans (by decide), hmessage, hscene,
    hrefusals, hparts, (hrearranged tolling hparts).2.2.2.trans hscene⟩

end Session

end TextAdventure
