import TextAdventure.Proofs.ItemCounts
import TextAdventure.Proofs.Loading
import TextAdventure.Proofs.SoundReferences

/-!
# Where flags and items come from

While a story is played and no save is restored, nothing appears from nowhere.  A flag is set by a
callback of the story.  An item is a subject that the story places somewhere, in the inventory into
which it is taken or in the one in which it is remembered, or a callback of the story gives it.
This rests on the subjects at hand being subjects of the story, and on commands finding the same
inventories as the declarations name.
-/

namespace TextAdventure

namespace Story

/-- The subject stands in a scene of the story. -/
def Places (story : Story) (subject : Subject) : Prop :=
  ∃ scene ∈ story.scenes, ∃ placement ∈ scene.placements, placement.subject = subject

/-- A callback of the story has the effect. -/
def Causes (story : Story) (effect : Effect) : Prop :=
  ∃ callback effects, story.callback? callback = some effects ∧ effect ∈ effects

/-- The story lets an item come into an inventory. -/
inductive Supplies (story : Story) (settings : Settings) : String → String → Prop
  | taken {subject : Subject} {take : Take} (hplaces : story.Places subject)
      (htake : subject.take = some take) (henabled : take.enabled = true) :
      Supplies story settings (settings.inventoryOf subject) subject.name
  | remembered {subject : Subject} {remember : Remember} (hplaces : story.Places subject)
      (hremember : subject.remember = some remember) :
      Supplies story settings (settings.bankOf subject) subject.name
  | given {inventory item : String} (hcauses : story.Causes (.give inventory item)) :
      Supplies story settings inventory item

end Story

/-- What is held after a deed on subjects of the story was held before, or the story supplies it. -/
theorem Interpreter.Performs.holds_or_supplies {story : Story} {interpreter : Interpreter}
    {inventories after : Inventories} {command : Command} {deed : Deed} {outcome : Outcome}
    (hdeed : interpreter.Performs inventories command deed outcome after)
    (hplaces : ∀ subject ∈ command.subjects, story.Places subject) {inventory item : String}
    (hheld : after.holds inventory item = true) :
    inventories.holds inventory item = true ∨
      story.Supplies interpreter.settings inventory item := by
  cases hdeed with
  | @take subject take hsole htake henabled hfree =>
      rcases Inventories.holds_of_holds_add hheld with hsame | hold
      · obtain ⟨rfl, rfl⟩ := Prod.mk.inj hsame
        exact Or.inr (.taken (hplaces subject (by simp [hsole])) htake henabled)
      · exact Or.inl hold
  | @remember subject remember hsole hremember =>
      rcases Inventories.holds_of_holds_add hheld with hsame | hold
      · obtain ⟨rfl, rfl⟩ := Prod.mk.inj hsame
        exact Or.inr (.remembered (hplaces subject (by simp [hsole])) hremember)
      · exact Or.inl hold
  | drop | forget => exact Or.inl (Inventories.holds_of_holds_remove hheld)
  | go | look | leave | use | help | custom => exact Or.inl hheld

namespace Session

variable {session : Session}

/-- Every flag that is set and every item that is held stems from the story. -/
structure Founded (session : Session) : Prop where
  flags : ∀ flag, session.flags.contains flag = true → session.story.Causes (.setFlag flag)
  items : ∀ inventory item, session.inventories.holds inventory item = true →
    session.story.Supplies session.interpreter.settings inventory item

/-- Where things come from does not depend on the place. -/
theorem Founded.of_unplaced_eq {other : Session} (hfounded : session.Founded)
    (hsame : other.unplaced = session.unplaced) : other.Founded := by
  obtain ⟨hstory, hsettings, hinventories, hflags, -⟩ := unplaced_eq_iff.mp hsame
  constructor
  · intro flag hflag
    rw [hflags] at hflag
    rw [hstory]
    exact hfounded.flags flag hflag
  · intro inventory item hheld
    rw [hinventories] at hheld
    rw [hstory, hsettings]
    exact hfounded.items inventory item hheld

theorem Founded.enter (hfounded : session.Founded) (id : String) : (session.enter id).1.Founded :=
  hfounded.of_unplaced_eq (session.unplaced_enter id)

/-! ## Callbacks -/

theorem Founded.actOn (hfounded : session.Founded) {effect : Effect}
    (hcauses : session.story.Causes effect) : (effect.actOn session).Founded := by
  cases effect with
  | say | goto => exact ⟨hfounded.flags, hfounded.items⟩
  | setFlag flag =>
      constructor
      · intro other hother
        simp only [Effect.actOn, NameSet.contains_insert, Bool.or_eq_true, beq_iff_eq] at hother
        rcases hother with rfl | hold
        · exact hcauses
        · exact hfounded.flags other hold
      · exact hfounded.items
  | clearFlag flag =>
      constructor
      · intro other hother
        simp only [Effect.actOn, NameSet.contains_erase, Bool.and_eq_true] at hother
        exact hfounded.flags other hother.2
      · exact hfounded.items
  | give inventory item =>
      constructor
      · exact hfounded.flags
      · intro other key hheld
        rcases Inventories.holds_of_holds_add hheld with hsame | hold
        · obtain ⟨rfl, rfl⟩ := Prod.mk.inj hsame
          exact .given hcauses
        · exact hfounded.items other key hold
  | discard inventory item =>
      constructor
      · exact hfounded.flags
      · intro other key hheld
        exact hfounded.items other key (Inventories.holds_of_holds_remove hheld)

theorem Founded.affectedBy {effects : List Effect} (hfounded : session.Founded)
    (hcauses : ∀ effect ∈ effects, session.story.Causes effect) :
    (session.affectedBy effects).Founded := by
  induction effects generalizing session with
  | nil => exact hfounded
  | cons effect rest ih =>
      have hfirst := hfounded.actOn (hcauses effect (by simp))
      have hstory : (effect.actOn session).story = session.story := by
        cases effect <;> rfl
      apply ih hfirst
      intro other hother
      rw [hstory]
      exact hcauses other (by simp [hother])

theorem Founded.invoke (hfounded : session.Founded) (callback : String) :
    (session.invoke callback).Founded := by
  cases hcallback : session.story.callback? callback with
  | none =>
      simp only [Session.invoke, hcallback]
      exact hfounded
  | some effects =>
      have haffected : (session.affectedBy effects).Founded := by
        apply hfounded.affectedBy
        intro effect heffect
        exact ⟨callback, effects, hcallback, heffect⟩
      exact haffected.of_unplaced_eq (session.unplaced_invoke hcallback)

/-! ## Commands and runs -/

theorem Founded.meet (hfounded : session.Founded) (request : HostRequest) :
    (session.meet request).Founded := by
  cases request with
  | invoke callback => exact hfounded.invoke callback
  | enter target => exact hfounded.enter target
  | render => exact hfounded.enter session.scene

theorem Founded.foldl_meet (requests : List HostRequest) (hfounded : session.Founded) :
    (requests.foldl Session.meet session).Founded := by
  induction requests generalizing session with
  | nil => exact hfounded
  | cons request rest ih => exact ih (hfounded.meet request)

theorem Coherent.places (hcoherent : session.Coherent) {subject : Subject}
    (hsubject : subject ∈ session.interpreter.registry.subjects) :
    session.story.Places subject := by
  obtain ⟨scene, hscene, hsublist, -⟩ := hcoherent
  obtain ⟨placement, hplacement, hplaced⟩ := List.mem_map.mp (hsublist.subset hsubject)
  exact ⟨scene, (Story.mem_scenes_of_scene? hscene).1, placement, hplacement, hplaced⟩

/-- What is held after a line was interpreted is supplied by the story. -/
theorem Founded.supplies_of_interpret (hfounded : session.Founded) (hcoherent : session.Coherent)
    {line : String} {outcome : Outcome} {after : Inventories}
    (hinterpret : session.interpreter.interpret session.inventories line = (outcome, after))
    {inventory item : String} (hheld : after.holds inventory item = true) :
    session.story.Supplies session.interpreter.settings inventory item := by
  rw [Interpreter.interpret] at hinterpret
  have hplaces : ∀ subject ∈ (Command.ofLine session.interpreter.registry line).subjects,
      session.story.Places subject := by
    intro subject hsubject
    exact hcoherent.places (Command.mem_of_mem_ofLine hsubject)
  rcases session.interpreter.run_cases session.inventories
      (Command.ofLine session.interpreter.registry line) with
    ⟨deed, done, left, -, hdeed, hrun⟩ | ⟨subject, -, -, hrun⟩ | ⟨-, hrun⟩
  · obtain ⟨-, rfl⟩ := Prod.mk.inj (hinterpret.symm.trans hrun)
    rcases hdeed.holds_or_supplies hplaces hheld with hold | hsupplies
    · exact hfounded.items inventory item hold
    · exact hsupplies
  · obtain ⟨-, rfl⟩ := Prod.mk.inj (hinterpret.symm.trans hrun)
    exact hfounded.items inventory item hheld
  · obtain ⟨-, rfl⟩ := Prod.mk.inj (hinterpret.symm.trans hrun)
    exact hfounded.items inventory item hheld

theorem Founded.submit (hfounded : session.Founded) (hcoherent : session.Coherent)
    (line : String) : (session.submit line).2.Founded := by
  cases hinterpret : session.interpreter.interpret session.inventories line with
  | mk outcome after =>
      rw [session.submit_of_interpret hinterpret]
      apply Founded.foldl_meet
      constructor
      · exact hfounded.flags
      · intro inventory item hheld
        exact hfounded.supplies_of_interpret hcoherent hinterpret hheld

end Session

/-- The operation plays the story: nothing comes in from outside. -/
def Operation.IsPlay : Operation → Prop
  | .submit _ | .invoke _ | .transition _ | .render | .takeMessage => True
  | .restore _ | .load _ _ | .touch _ | .add _ _ | .remove _ _ => False

namespace Session

variable {session : Session}

theorem Founded.perform (hfounded : session.Founded) (hcoherent : session.Coherent)
    {operation : Operation} (hplay : operation.IsPlay) :
    (session.perform operation).Founded := by
  cases operation with
  | submit line => exact hfounded.submit hcoherent line
  | invoke callback => exact hfounded.invoke callback
  | transition target => exact hfounded.enter target
  | render => exact hfounded.enter session.scene
  | takeMessage => exact ⟨hfounded.flags, hfounded.items⟩
  | restore | load | touch | add | remove => cases hplay

theorem Founded.performAll {operations : List Operation} (hfounded : session.Founded)
    (hfilled : session.story.WellFormed ∧ session.Filled)
    (hplay : ∀ operation ∈ operations, operation.IsPlay) :
    (session.performAll operations).Founded := by
  induction operations generalizing session with
  | nil => exact hfounded
  | cons operation rest ih =>
      apply ih
      · exact hfounded.perform (hfilled.2.coherent hfilled.1) (hplay operation (by simp))
      · exact stable_filled.perform hfilled operation
      · intro other hother
        exact hplay other (by simp [hother])

/-- When a story is played from its start, every flag that is set is set by a callback of the story,
and every item that is held is supplied by the story in its inventory. -/
theorem founded_of_play (story : Story) (settings : Settings) (hcheck : story.check = .ok ()) :
    ∃ first, start story settings = .ok first ∧
      ∀ operations, (∀ operation ∈ operations, Operation.IsPlay operation) →
        (∀ flag, (first.performAll operations).flags.contains flag = true →
          story.Causes (.setFlag flag)) ∧
        ∀ inventory item,
          (first.performAll operations).inventories.holds inventory item = true →
            story.Supplies settings inventory item := by
  obtain ⟨scene, -, hstart⟩ := start_of_check settings hcheck
  refine ⟨_, hstart, ?_⟩
  intro operations hplay
  have hreach : Reachable story settings
      (((opening story settings).inScene scene).performAll operations) :=
    ⟨_, operations, hstart, rfl⟩
  have hfirst : Reachable story settings ((opening story settings).inScene scene) :=
    ⟨_, [], hstart, rfl⟩
  -- Nothing is held and no flag is set when a story begins.
  have hbegun : ((opening story settings).inScene scene).Founded := by
    constructor
    · intro flag hflag
      cases hflag
    · intro inventory item hheld
      cases hheld
  have hfounded := hbegun.performAll (filled_of_reachable hcheck hfirst) hplay
  obtain ⟨hstory, hsettings⟩ := plays_of_reachable hcheck hreach
  constructor
  · intro flag hflag
    rw [← hstory]
    exact hfounded.flags flag hflag
  · intro inventory item hheld
    have hsupplies := hfounded.items inventory item hheld
    rwa [hstory, hsettings] at hsupplies

theorem founded_of_play_fallenSession :
    houseStory.check = .ok () ∧ start houseStory {} = .ok houseSession ∧
      fallenSession.flags.contains "dark" = true ∧ houseStory.Causes (.setFlag "dark") ∧
      fallenSession.inventories.holds "inventory" "key" = true ∧
      houseStory.Supplies {} "inventory" "key" := by
  have hcheck : houseStory.check = .ok () := rfl
  have hstart : start houseStory {} = .ok houseSession := rfl
  have hflag : fallenSession.flags.contains "dark" = true := by decide
  have hheld : fallenSession.inventories.holds "inventory" "key" = true := by decide
  obtain ⟨first, hfirst, hplayed⟩ := founded_of_play houseStory {} hcheck
  obtain rfl := Except.ok.inj (hfirst.symm.trans hstart)
  have hplay : ∀ operation ∈ [Operation.submit "take key", .invoke "fall"],
      operation.IsPlay := by
    simp [Operation.IsPlay]
  obtain ⟨hflags, hitems⟩ := hplayed _ hplay
  exact ⟨hcheck, hstart, hflag, hflags _ hflag, hheld, hitems _ _ hheld⟩

end Session

end TextAdventure
