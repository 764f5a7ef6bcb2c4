import TextAdventure.Proofs.CommandsInSync
import TextAdventure.Proofs.Loading
import TextAdventure.Proofs.Refusals

/-!
# Items that are held once

Commands and callbacks never make an inventory list an item twice.  A save may do so, as its lists
are taken as they are, and then dropping the item takes only one of the two away.  So an item that
is listed twice was listed twice by a save that was restored, and what is dropped is gone unless it
was listed twice.
-/

namespace TextAdventure

/-- From the first inventories to the second no item comes to be listed more often, unless it was
not listed and is listed once then. -/
def Inventories.AddsOnce (first second : Inventories) : Prop :=
  ∀ name item, second.count name item ≤ max 1 (first.count name item)

namespace Inventories

theorem AddsOnce.refl (inventories : Inventories) : inventories.AddsOnce inventories := by
  intro name item
  exact Nat.le_max_right _ _

theorem AddsOnce.trans {first second third : Inventories} (hfirst : first.AddsOnce second)
    (hsecond : second.AddsOnce third) : first.AddsOnce third := by
  intro name item
  have hone := hfirst name item
  have htwo := hsecond name item
  omega

theorem addsOnce_add (inventories : Inventories) (name item : String) :
    inventories.AddsOnce (inventories.add name item) := by
  intro other key
  by_cases hsame : (other, key) = (name, item)
  · obtain ⟨rfl, rfl⟩ := Prod.mk.inj hsame
    exact Nat.le_of_eq (inventories.count_add_self other key)
  · rw [inventories.count_add_of_ne hsame]
    exact Nat.le_max_right _ _

theorem addsOnce_remove (inventories : Inventories) (name item : String) :
    inventories.AddsOnce (inventories.remove name item) := by
  intro other key
  by_cases hsame : (other, key) = (name, item)
  · obtain ⟨rfl, rfl⟩ := Prod.mk.inj hsame
    rw [count_remove_self]
    omega
  · rw [inventories.count_remove_of_ne hsame]
    exact Nat.le_max_right _ _

theorem addsOnce_touch (inventories : Inventories) (name : String) :
    inventories.AddsOnce (inventories.touch name) := by
  intro other key
  by_cases hsame : other = name
  · subst hsame
    rw [touch, count_modify_self]
    exact Nat.le_max_right _ _
  · have hkept : (inventories.touch name).count other key = inventories.count other key := by
      simp [touch, count, get?_modify, hsame]
    rw [hkept]
    exact Nat.le_max_right _ _

end Inventories

/-! ## Commands -/

theorem Interpreter.addsOnce_interpret (interpreter : Interpreter) (inventories : Inventories)
    (line : String) : inventories.AddsOnce (interpreter.interpret inventories line).2 := by
  rw [interpret]
  rcases interpreter.run_cases inventories (Command.ofLine interpreter.registry line) with
    ⟨deed, outcome, after, -, hdeed, hrun⟩ | ⟨held, -, -, hrun⟩ | ⟨-, hrun⟩
  · rw [hrun]
    cases hdeed with
    | take | remember => exact inventories.addsOnce_add _ _
    | drop | forget => exact inventories.addsOnce_remove _ _
    | go | look | leave | use | help | custom => exact .refl inventories
  · rw [hrun]
    exact .refl inventories
  · rw [hrun]
    exact .refl inventories

namespace Session

/-! ## Callbacks and runs -/

@[simp] theorem enter_inventories (session : Session) (id : String) :
    (session.enter id).1.inventories = session.inventories := by
  have hunplaced := unplaced_eq_iff.mp (session.unplaced_enter id)
  exact hunplaced.2.2.1

theorem addsOnce_actOn (session : Session) (effect : Effect) :
    session.inventories.AddsOnce (effect.actOn session).inventories := by
  cases effect with
  | give inventory item => exact session.inventories.addsOnce_add inventory item
  | discard inventory item => exact session.inventories.addsOnce_remove inventory item
  | say | setFlag | clearFlag | goto => exact .refl session.inventories

theorem addsOnce_affectedBy (effects : List Effect) (session : Session) :
    session.inventories.AddsOnce (session.affectedBy effects).inventories := by
  induction effects generalizing session with
  | nil => exact .refl session.inventories
  | cons effect rest ih => exact (session.addsOnce_actOn effect).trans (ih (effect.actOn session))

theorem addsOnce_invoke (session : Session) (callback : String) :
    session.inventories.AddsOnce (session.invoke callback).inventories := by
  cases hcallback : session.story.callback? callback with
  | none =>
      simp only [invoke, hcallback]
      exact .refl session.inventories
  | some effects =>
      have hunplaced := unplaced_eq_iff.mp (session.unplaced_invoke hcallback)
      rw [hunplaced.2.2.1]
      exact addsOnce_affectedBy effects session

theorem addsOnce_meet (session : Session) (request : HostRequest) :
    session.inventories.AddsOnce (session.meet request).inventories := by
  cases request with
  | invoke callback => exact session.addsOnce_invoke callback
  | enter target =>
      rw [meet, transition, enter_inventories]
      exact .refl session.inventories
  | render =>
      rw [meet, render, enter_inventories]
      exact .refl session.inventories

theorem addsOnce_foldl_meet (requests : List HostRequest) (session : Session) :
    session.inventories.AddsOnce (requests.foldl meet session).inventories := by
  induction requests generalizing session with
  | nil => exact .refl session.inventories
  | cons request rest ih => exact (session.addsOnce_meet request).trans (ih (session.meet request))

theorem addsOnce_submit (session : Session) (line : String) :
    session.inventories.AddsOnce (session.submit line).2.inventories := by
  have hcommand := session.interpreter.addsOnce_interpret session.inventories line
  cases hinterpret : session.interpreter.interpret session.inventories line with
  | mk outcome after =>
      rw [hinterpret] at hcommand
      rw [session.submit_of_interpret hinterpret]
      exact hcommand.trans (addsOnce_foldl_meet _ (session.settled outcome after))

end Session

/-- The save that an operation restores, if it has one to restore. -/
def Operation.save? : Operation → Option Save
  | .restore save => some save
  | .load disk path =>
    match disk.read path with
    | .ok bytes => Save.decode? bytes
    | .error _ => none
  | _ => none

namespace Session

variable {session : Session} {inventory item : String}

theorem restore_inventories (session : Session) (save : Save) :
    (session.restore save).1.inventories = session.inventories ∨
      (session.restore save).1.inventories = save.inventories := by
  unfold restore
  split
  · exact Or.inl rfl
  · rw [enter_inventories]
    exact Or.inr rfl

/-- Loading leaves the inventories as they are, or takes them from the save in the file. -/
theorem load_inventories (session : Session) (disk : Disk) (path : String) :
    (session.perform (.load disk path)).inventories = session.inventories ∨
      ∃ save, (Operation.load disk path).save? = some save ∧
        (session.perform (.load disk path)).inventories = save.inventories := by
  have hperform : session.perform (.load disk path) =
      (session.withFile path (disk.read path)).1 := by
    rw [perform, run_load]
    rfl
  rw [hperform, Operation.save?]
  rcases disk.read path with (_ | _) | bytes
  · exact Or.inl rfl
  · exact Or.inl rfl
  · simp only [withFile, restoreBytes]
    cases hsave : Save.decode? bytes with
    | none => exact Or.inl rfl
    | some save =>
        rcases session.restore_inventories save with hkept | hrestored
        · exact Or.inl hkept
        · exact Or.inr ⟨save, rfl, hrestored⟩

/-- An operation adds items once, or replaces the inventories by those of a save. -/
theorem addsOnce_perform (session : Session) (operation : Operation) :
    session.inventories.AddsOnce (session.perform operation).inventories ∨
      ∃ save, operation.save? = some save ∧
        (session.perform operation).inventories = save.inventories := by
  have hsame : (session.perform operation).inventories = session.inventories →
      session.inventories.AddsOnce (session.perform operation).inventories := by
    intro hkept
    rw [hkept]
    exact .refl session.inventories
  cases operation with
  | submit line =>
      left
      rw [perform]
      exact session.addsOnce_submit line
  | invoke callback => exact Or.inl (session.addsOnce_invoke callback)
  | add inventory item => exact Or.inl (session.inventories.addsOnce_add inventory item)
  | remove inventory item => exact Or.inl (session.inventories.addsOnce_remove inventory item)
  | touch inventory => exact Or.inl (session.inventories.addsOnce_touch inventory)
  | transition target => exact Or.inl (hsame (session.enter_inventories target))
  | render => exact Or.inl (hsame (session.enter_inventories session.scene))
  | takeMessage => exact Or.inl (hsame rfl)
  | restore save =>
      rcases session.restore_inventories save with hkept | hrestored
      · exact Or.inl (hsame hkept)
      · exact Or.inr ⟨save, rfl, hrestored⟩
  | load disk path => exact (session.load_inventories disk path).imp_left hsame

/-- What a run leaves listed twice was so before, or in a save that was restored on the way. -/
theorem exists_save_of_performAll (operations : List Operation) (session : Session)
    (htwice : 1 < (session.performAll operations).inventories.count inventory item) :
    1 < session.inventories.count inventory item ∨
      ∃ operation ∈ operations, ∃ save, operation.save? = some save ∧
        1 < save.inventories.count inventory item := by
  induction operations generalizing session with
  | nil => exact Or.inl htwice
  | cons operation rest ih =>
      rcases ih (session.perform operation) htwice with hfirst | ⟨later, hlater, hsave⟩
      · rcases session.addsOnce_perform operation with hadds | ⟨save, hsave, hrestored⟩
        · have hcount := hadds inventory item
          exact Or.inl (by omega)
        · rw [hrestored] at hfirst
          exact Or.inr ⟨operation, by simp, save, hsave, hfirst⟩
      · exact Or.inr ⟨later, List.mem_cons_of_mem _ hlater, hsave⟩

/-! ## What is dropped or forgotten -/

theorem meet_toHost_inventories (session : Session) (request : SceneRequest) :
    (session.meet request.toHost).inventories = session.inventories := by
  cases request with
  | transition target => exact session.enter_inventories target
  | rerender => exact session.enter_inventories session.scene

/-- Without a callback nothing is picked up or put down after a command. -/
theorem foldl_meet_inventories {outcome : Outcome} (hcallback : outcome.callback = none)
    (session : Session) :
    (outcome.requests.foldl meet session).inventories = session.inventories := by
  rw [Outcome.requests, hcallback]
  cases outcome.scene with
  | none => rfl
  | some request => exact session.meet_toHost_inventories request

theorem submit_inventories_of_removed {line : String}
    (hchange : (session.submit line).1.change = some (.removed inventory item)) :
    (session.submit line).2.inventories = session.inventories.remove inventory item := by
  rcases session.interpreter.run_cases session.inventories
      (Command.ofLine session.interpreter.registry line) with
    ⟨deed, outcome, after, -, hdeed, hrun⟩ | ⟨held, -, -, hrun⟩ | ⟨-, hrun⟩
  · rw [session.submit_of_interpret hrun] at hchange ⊢
    have hcallback : outcome.callback = none := by
      cases hdeed with
      | drop | forget => rfl
      | go | look | leave | take | remember | use | help | custom => cases hchange
    have hafter := hdeed.after_eq
    rw [hchange] at hafter
    exact (foldl_meet_inventories hcallback _).trans hafter
  · rw [session.submit_of_interpret hrun] at hchange
    cases hchange
  · rw [session.submit_of_interpret hrun] at hchange
    cases hchange

/-- Removing takes one away, so what is removed is still held exactly when it was listed twice. -/
theorem holds_after_removed_iff {line : String}
    (hchange : (session.submit line).1.change = some (.removed inventory item)) :
    (session.submit line).2.inventories.holds inventory item = true ↔
      1 < session.inventories.count inventory item := by
  rw [submit_inventories_of_removed hchange, Inventories.holds_iff_count_pos,
    Inventories.count_remove_self]
  omega

/-- Every run of a story starts with no item listed twice, and an item is listed twice at its end
only if it was so in a save that was restored on the way.  What a line removes from an inventory is
gone from it, unless it was listed twice. -/
theorem exists_save_of_listed_twice (story : Story) (settings : Settings)
    (hcheck : story.check = .ok ()) :
    ∃ first, start story settings = .ok first ∧ ∀ operations,
      (∀ inventory item,
        1 < (first.performAll operations).inventories.count inventory item →
          ∃ operation ∈ operations, ∃ save, operation.save? = some save ∧
            1 < save.inventories.count inventory item) ∧
      ∀ line inventory item,
        ((first.performAll operations).submit line).1.change =
            some (.removed inventory item) →
          (((first.performAll operations).submit line).2.inventories.holds inventory item = true ↔
            1 < (first.performAll operations).inventories.count inventory item) := by
  obtain ⟨scene, -, hstart⟩ := start_of_check settings hcheck
  refine ⟨_, hstart, ?_⟩
  intro operations
  constructor
  · intro inventory item htwice
    rcases exists_save_of_performAll operations _ htwice with hfirst | hsave
    · -- Nothing is held when a story begins.
      have hnone : ((opening story settings).inScene scene).inventories.count inventory item =
          0 := rfl
      omega
    · exact hsave
  · intro line inventory item hchange
    exact holds_after_removed_iff hchange

/-- A vault with a coin. -/
def vault : Scene where
  id := "vault"
  placements := [
    { subject := { name := "coin", keywords := ["coin"], take := some { enabled := true } } }]

/-- A story that is played in the vault alone. -/
def vaultStory : Story where
  start := "vault"
  scenes := [vault]

/-- The vault when the story has just begun. -/
def vaultSession : Session := (opening vaultStory {}).inScene vault

/-- A save in which the coin is held twice. -/
def heapSave : Save := ⟨"vault", ⟨.ofList [("inventory", ["coin", "coin"])]⟩, .empty⟩

/-- A disk with the save. -/
def heapDisk : Disk := (Disk.empty.write "heap" heapSave.encode).2

/-- The vault after the save was loaded. -/
def heapSession : Session := (vaultSession.withProgress heapSave).inScene vault

theorem performAll_load_heap :
    vaultSession.performAll [.load heapDisk "heap"] = heapSession := by
  have hwell : vaultStory.WellFormed := vaultStory.check_eq_ok_iff.mp rfl
  have hfits : heapSave.Fits := by decide
  have hread : Files.reading "heap" heapDisk = .ok heapSave.encode := rfl
  have hscene : vaultStory.scene? heapSave.scene = some vault := rfl
  have hload := vaultSession.load_of_reading hwell hfits hscene hread
  rw [performAll, List.foldl_cons, List.foldl_nil, perform, hload]
  rfl

theorem exists_save_of_listed_twice_heap :
    vaultStory.check = .ok () ∧ start vaultStory {} = .ok vaultSession ∧
      1 < (vaultSession.performAll [.load heapDisk "heap"]).inventories.count
        "inventory" "coin" ∧
      (∃ operation ∈ [Operation.load heapDisk "heap"], ∃ save, operation.save? = some save ∧
        1 < save.inventories.count "inventory" "coin") ∧
      ((vaultSession.performAll [.load heapDisk "heap"]).submit
        "drop coin").2.inventories.holds "inventory" "coin" = true := by
  have hcheck : vaultStory.check = .ok () := rfl
  have hstart : start vaultStory {} = .ok vaultSession := rfl
  obtain ⟨first, hfirst, hruns⟩ := exists_save_of_listed_twice vaultStory {} hcheck
  rw [hstart] at hfirst
  obtain rfl := Except.ok.inj hfirst
  obtain ⟨htwice, hremoved⟩ := hruns [.load heapDisk "heap"]
  rw [performAll_load_heap] at htwice hremoved ⊢
  have hcount : 1 < heapSession.inventories.count "inventory" "coin" := by decide
  have hchange : (heapSession.submit "drop coin").1.change =
      some (.removed "inventory" "coin") := by decide
  exact ⟨hcheck, hstart, hcount, htwice _ _ hcount, (hremoved _ _ _ hchange).mpr hcount⟩

/-- A file may hold the coin twice, and then a coin that was dropped is held. -/
theorem exists_removed_and_held :
    ∃ story first, ∃ disk : Disk, ∃ path, story.check = .ok () ∧
      start story {} = .ok first ∧
      ∃ session, session = first.performAll [.load disk path] ∧
        session.inventories.count "inventory" "coin" = 2 ∧
        (session.submit "drop coin").1.change = some (.removed "inventory" "coin") ∧
        (session.submit "drop coin").2.inventories.holds "inventory" "coin" = true :=
  ⟨vaultStory, vaultSession, heapDisk, "heap", rfl, rfl, heapSession, performAll_load_heap.symm,
    by decide, by decide, by decide⟩

end Session

end TextAdventure
