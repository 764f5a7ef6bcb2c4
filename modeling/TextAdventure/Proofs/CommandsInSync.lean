import TextAdventure.Proofs.InventoryRecord
import TextAdventure.Proofs.ItemCounts
import TextAdventure.Proofs.SoundReferences

/-!
# Commands and the subjects at hand

Taking and dropping show the scene anew, and remembering and forgetting do not.  What is remembered
may still be hidden by that, as a subject can be remembered in the very inventory in which it is
looked for when the scene is shown.  This is the only way in which a command that runs no callback
leaves the subjects at hand out of date.
-/

namespace TextAdventure

/-- A scene has no two subjects of one name. -/
theorem Story.WellFormed.placement_eq {story : Story} (hwell : story.WellFormed) {id : String}
    {scene : Scene} (hscene : story.scene? id = some scene) {first second : Placement}
    (hfirst : first ∈ scene.placements) (hsecond : second ∈ scene.placements)
    (hname : first.subject.name = second.subject.name) : first = second := by
  have hdistinct := hwell.namesDistinct scene (Story.mem_scenes_of_scene? hscene).1
  exact List.inj_on_of_nodup_map hdistinct hfirst hsecond hname

namespace Session

variable {session : Session} {scene : Scene} {line : String}

/-! ## What is held and what is there -/

theorem mem_present_iff {subject : Subject} :
    subject ∈ session.present scene ↔
      ∃ placement ∈ scene.placements,
        session.isPresent placement = true ∧ placement.subject = subject := by
  simp [present, and_assoc]

/-- The subjects that are there stay the same if none of those that are hidden when held is picked
up or put down. -/
theorem present_eq_of_holds {first second : Session} (hflags : first.flags = second.flags)
    (hsettings : first.interpreter.settings = second.interpreter.settings)
    (hholds : ∀ placement ∈ scene.placements, placement.hiddenWhenHeld = true →
      first.inventories.holds (second.interpreter.settings.inventoryOf placement.subject)
          placement.subject.name =
        second.inventories.holds (second.interpreter.settings.inventoryOf placement.subject)
          placement.subject.name) :
    first.present scene = second.present scene := by
  have hsame : ∀ placement ∈ scene.placements,
      first.isPresent placement = second.isPresent placement := by
    intro placement hplacement
    by_cases hhidden : placement.hiddenWhenHeld = true
    · simp only [isPresent, hflags, hsettings, hholds placement hplacement hhidden]
    · simp [isPresent, hflags, hhidden]
  simp only [present, List.filter_congr hsame]

/-- A subject that is hidden when held is gone when it is held. -/
theorem not_isPresent_of_holds {placement : Placement} (hhidden : placement.hiddenWhenHeld = true)
    (hheld : session.inventories.holds
      (session.interpreter.settings.inventoryOf placement.subject) placement.subject.name = true) :
    session.isPresent placement = false := by
  simp [isPresent, hhidden, hheld]

/-- A line names subjects of the current scene that are there. -/
theorem exists_placement_of_mentioned
    (hsubjects : session.interpreter.registry.subjects = session.present scene) {subject : Subject}
    (hsole : (Command.ofLine session.interpreter.registry line).subjects = [subject]) :
    ∃ placement ∈ scene.placements,
      session.isPresent placement = true ∧ placement.subject = subject := by
  have hmentioned : subject ∈ (Command.ofLine session.interpreter.registry line).subjects := by
    simp [hsole]
  have hregistered := Command.mem_of_mem_ofLine hmentioned
  rw [hsubjects] at hregistered
  exact mem_present_iff.mp hregistered

/-- A line that names a subject of the name of a placed one names the placed one, and this one is
there. -/
theorem isPresent_of_mentioned (hwell : session.story.WellFormed)
    (hscene : session.story.scene? session.scene = some scene)
    (hsubjects : session.interpreter.registry.subjects = session.present scene) {subject : Subject}
    (hsole : (Command.ofLine session.interpreter.registry line).subjects = [subject])
    {placement : Placement} (hplacement : placement ∈ scene.placements)
    (hname : placement.subject.name = subject.name) :
    session.isPresent placement = true ∧ placement.subject = subject := by
  obtain ⟨mentioned, hmentioned, hpresent, rfl⟩ := exists_placement_of_mentioned hsubjects hsole
  obtain rfl := hwell.placement_eq hscene hplacement hmentioned hname
  exact ⟨hpresent, rfl⟩

/-! ## Commands that ask for a scene -/

theorem InSync.coherent (hsync : session.InSync) (hwell : session.story.WellFormed) :
    session.Coherent := by
  have hfilled : session.Filled := ⟨session.inventories, session.flags, hsync⟩
  exact hfilled.coherent hwell

variable {outcome : Outcome} {after : Inventories}

/-- A command without a callback asks for a scene at most. -/
theorem submit_of_no_callback
    (hinterpret : session.interpreter.interpret session.inventories line = (outcome, after))
    (hcallback : outcome.callback = none) :
    (session.submit line).2 =
      (outcome.scene.map (·.toHost)).toList.foldl meet (session.settled outcome after) := by
  rw [session.submit_of_interpret hinterpret, Outcome.requests, hcallback]
  rfl

/-- A command that enters a scene or shows the current one leaves the session in sync. -/
theorem inSync_submit_of_request (hwell : session.story.WellFormed) (hsync : session.InSync)
    (hinterpret : session.interpreter.interpret session.inventories line = (outcome, after))
    (hcallback : outcome.callback = none) {request : SceneRequest}
    (hrequest : outcome.scene = some request) : (session.submit line).2.InSync := by
  rw [submit_of_no_callback hinterpret hcallback, hrequest]
  cases request with
  | transition target =>
      have hdeclared := (hsync.coherent hwell).outcome_declared hwell line
      rw [outcomeOf, hinterpret] at hdeclared
      obtain ⟨entered, hentered⟩ := hdeclared.2 target hrequest
      have henter := (session.settled outcome after).enter_of_declared hwell hentered
      have hinScene := (session.settled outcome after).inSync_inScene hentered
      simpa [SceneRequest.toHost, meet, transition, henter] using hinScene
  | rerender =>
      obtain ⟨current, hcurrent, -⟩ := hsync
      exact (session.settled outcome after).inSync_render hwell hcurrent

/-! ## Commands that ask for no scene -/

/-- The line asks to remember a subject of the current scene that is hidden when held, and this
subject is remembered in the inventory in which it would be held. -/
def RemembersHidden (session : Session) (line : String) : Prop :=
  ∃ scene placement, session.story.scene? session.scene = some scene ∧
    placement ∈ scene.placements ∧ placement.hiddenWhenHeld = true ∧
    Command.ofLine session.interpreter.registry line = ⟨.remember, [placement.subject]⟩ ∧
    placement.subject.remember.isSome = true ∧
    session.interpreter.settings.bankOf placement.subject =
      session.interpreter.settings.inventoryOf placement.subject

/-- A command that asks for no scene changes nothing that is hidden when held, unless it remembers
such a subject where it would be held. -/
theorem holds_of_no_request (hwell : session.story.WellFormed)
    (hscene : session.story.scene? session.scene = some scene)
    (hsubjects : session.interpreter.registry.subjects = session.present scene)
    (hinterpret : session.interpreter.interpret session.inventories line = (outcome, after))
    (hrequest : outcome.scene = none) (hremembers : ¬session.RemembersHidden line)
    {placement : Placement} (hplacement : placement ∈ scene.placements)
    (hhidden : placement.hiddenWhenHeld = true) :
    after.holds (session.interpreter.settings.inventoryOf placement.subject)
        placement.subject.name =
      session.inventories.holds (session.interpreter.settings.inventoryOf placement.subject)
        placement.subject.name := by
  rcases session.interpreter.run_cases session.inventories
      (Command.ofLine session.interpreter.registry line) with
    ⟨deed, done, left, hlegal, hdeed, hrun⟩ | ⟨held, -, -, hrun⟩ | ⟨-, hrun⟩
  · obtain ⟨rfl, rfl⟩ := Prod.mk.inj (hinterpret.symm.trans hrun)
    cases hdeed with
    | go | take | drop => cases hrequest
    | look | leave | use | help | custom => rfl
    | @remember subject remember hsole hremember =>
        apply Inventories.holds_eq_of_count_eq
        apply Inventories.count_add_of_ne
        intro hsame
        obtain ⟨hbank, hname⟩ := Prod.mk.inj hsame
        obtain ⟨-, rfl⟩ :=
          isPresent_of_mentioned hwell hscene hsubjects hsole hplacement hname
        have haction := hlegal.action_of_remember
        refine hremembers ⟨scene, placement, hscene, hplacement, hhidden, ?_, ?_, hbank.symm⟩
        · rw [← haction, ← hsole]
        · simp [hremember]
    | @forget subject hsole =>
        -- What is forgotten was held, so it would not have been there to be named.
        apply Inventories.holds_eq_of_count_eq
        apply Inventories.count_remove_of_ne
        intro hsame
        obtain ⟨hbank, hname⟩ := Prod.mk.inj hsame
        obtain ⟨hpresent, rfl⟩ :=
          isPresent_of_mentioned hwell hscene hsubjects hsole hplacement hname
        have hheld := hlegal.holds_of_source hsole rfl
        rw [← hbank] at hheld
        rw [not_isPresent_of_holds hhidden hheld] at hpresent
        cases hpresent
  · obtain ⟨-, rfl⟩ := Prod.mk.inj (hinterpret.symm.trans hrun)
    rfl
  · obtain ⟨-, rfl⟩ := Prod.mk.inj (hinterpret.symm.trans hrun)
    rfl

/-- The subject that was remembered is held where it is looked for, but it stays at hand. -/
theorem not_inSync_of_remembersHidden (hwell : session.story.WellFormed)
    (hcallback : (session.submit line).1.callback = none)
    (hremembers : session.RemembersHidden line) : ¬(session.submit line).2.InSync := by
  obtain ⟨scene, placement, hscene, hplacement, hhidden, hcommand, hdeclared, hbank⟩ := hremembers
  obtain ⟨remember, hremember⟩ := Option.isSome_iff_exists.mp hdeclared
  have hlegal : session.interpreter.Legal session.inventories
      ⟨.remember, [placement.subject]⟩ .remember :=
    .declared (by simp [Subject.declaredDeed?, hremember])
  have hrun := Interpreter.run_of_performs hlegal (.remember rfl hremember)
  rw [← hcommand, ← Interpreter.interpret] at hrun
  rw [session.submit_of_interpret hrun] at hcallback
  rw [submit_of_no_callback hrun hcallback]
  rintro ⟨current, hcurrent, hshown⟩
  obtain rfl := Option.some.inj (hscene.symm.trans hcurrent)
  have hnamed : placement.subject ∈
      (Command.ofLine session.interpreter.registry line).subjects := by
    simp [hcommand]
  have hregistered := Command.mem_of_mem_ofLine hnamed
  obtain ⟨shown, hmem, hpresent, hsame⟩ := mem_present_iff.mp (hshown ▸ hregistered)
  obtain rfl := hwell.placement_eq hscene hmem hplacement (congrArg Subject.name hsame)
  have hheld : (session.inventories.add (session.interpreter.settings.bankOf shown.subject)
      shown.subject.name).holds (session.interpreter.settings.inventoryOf shown.subject)
      shown.subject.name = true := by
    rw [hbank, Inventories.holds_iff_count_pos, Inventories.count_add_self]
    omega
  rw [not_isPresent_of_holds hhidden hheld] at hpresent
  cases hpresent

/-- A command that runs no callback keeps a session in sync, unless it remembers a subject that is
hidden when held in the inventory in which it would be held.  That subject stays at hand. -/
theorem inSync_submit_iff (session : Session) (hcheck : session.story.check = .ok ())
    (hsync : session.InSync) {line : String}
    (hcallback : (session.submit line).1.callback = none) :
    (session.submit line).2.InSync ↔ ¬session.RemembersHidden line := by
  have hwell := session.story.check_eq_ok_iff.mp hcheck
  constructor
  · intro hafter hremembers
    exact not_inSync_of_remembersHidden hwell hcallback hremembers hafter
  · intro hremembers
    obtain ⟨scene, hscene, hsubjects⟩ := id hsync
    cases hinterpret : session.interpreter.interpret session.inventories line with
    | mk outcome after =>
        rw [session.submit_of_interpret hinterpret] at hcallback
        cases hrequest : outcome.scene with
        | some request =>
            exact inSync_submit_of_request hwell hsync hinterpret hcallback hrequest
        | none =>
            have hpresent : (session.settled outcome after).present scene =
                session.present scene := by
              refine present_eq_of_holds rfl rfl ?_
              intro placement hplacement hhidden
              exact holds_of_no_request hwell hscene hsubjects hinterpret hrequest hremembers
                hplacement hhidden
            rw [submit_of_no_callback hinterpret hcallback, hrequest]
            exact ⟨scene, hscene, hsubjects.trans hpresent.symm⟩

/-- A shrine with a song that is kept in mind with what is held, and a bell that is not. -/
def shrine : Scene where
  id := "shrine"
  placements := [
    { subject := {
        name := "song", keywords := ["song"], remember := some { inventory := some "inventory" } }
      hiddenWhenHeld := true },
    { subject := { name := "bell", keywords := ["bell"], remember := some {} }
      hiddenWhenHeld := true }]

/-- A story that is played in the shrine alone. -/
def shrineStory : Story where
  start := "shrine"
  scenes := [shrine]

/-- The shrine when the story has just begun. -/
def shrineSession : Session := (opening shrineStory {}).inScene shrine

theorem inSync_submit_iff_shrineSession :
    shrineSession.story.check = .ok () ∧ shrineSession.InSync ∧
      (shrineSession.submit "remember bell").1.callback = none ∧
      ((shrineSession.submit "remember bell").2.InSync ↔
        ¬shrineSession.RemembersHidden "remember bell") := by
  have hcheck : shrineSession.story.check = .ok () := rfl
  have hsync : shrineSession.InSync := by decide
  have hcallback : (shrineSession.submit "remember bell").1.callback = none := by decide
  exact ⟨hcheck, hsync, hcallback, inSync_submit_iff shrineSession hcheck hsync hcallback⟩

/-- The song is remembered and held, but it is still at hand. -/
theorem exists_submit_not_inSync :
    ∃ session : Session, ∃ line, session.story.check = .ok () ∧ session.InSync ∧
      (session.submit line).1.callback = none ∧ ¬(session.submit line).2.InSync :=
  ⟨shrineSession, "remember song", rfl, by decide, by decide, by decide⟩

end Session

end TextAdventure
