import TextAdventure.Proofs.Callbacks

/-!
# What a session keeps for its reader

A session keeps its message, the count of refused lines, and whether refusals are told.  All of this
is for the reader: entering scenes and running callbacks reads none of it, and changes none of it
but the message, which is the last text that was said.
-/

namespace TextAdventure

/-- What a session keeps for its reader. -/
structure Remarks where
  /-- Refusals are told. -/
  verbose : Bool
  message : Option String
  refusals : ℕ

/-- The remarks after a text was said, or none. -/
def Remarks.hearing (remarks : Remarks) (text : Option String) : Remarks :=
  { remarks with message := text.or remarks.message }

theorem Remarks.hearing_hearing (remarks : Remarks) (first second : Option String) :
    (remarks.hearing first).hearing second = remarks.hearing (second.or first) := by
  simp [hearing, Option.or_assoc]

/-- The text that an effect says. -/
def Effect.text? : Effect → Option String
  | .say text => some text
  | .setFlag _ | .clearFlag _ | .give _ _ | .discard _ _ | .goto _ => none

/-- The last text that effects say. -/
def lastText? (effects : List Effect) : Option String :=
  (effects.filterMap Effect.text?).getLast?

theorem lastText?_cons (effect : Effect) (rest : List Effect) :
    lastText? (effect :: rest) = (lastText? rest).or effect.text? := by
  cases htext : effect.text? with
  | none => simp [lastText?, htext]
  | some text =>
      simp only [lastText?, List.filterMap_cons, htext, List.getLast?_cons]
      cases (rest.filterMap Effect.text?).getLast? <;> rfl

/-- The last text that a callback of the story says. -/
def Story.saidBy (story : Story) (callback : String) : Option String :=
  (story.callback? callback).bind lastText?

/-- The text that is said when a request is met. -/
def Story.saidAt (story : Story) : HostRequest → Option String
  | .invoke callback => story.saidBy callback
  | .enter _ | .render => none

/-- The interpreter of a player who wants to be told why lines are refused, or does not. -/
def Interpreter.telling (interpreter : Interpreter) (verbose : Bool) : Interpreter :=
  { interpreter with settings := { interpreter.settings with verbose } }

namespace Session

/-- What the session keeps for its reader. -/
def remarks (session : Session) : Remarks where
  verbose := session.interpreter.settings.verbose
  message := session.message
  refusals := session.refusals

/-- The session with other remarks. -/
def withRemarks (session : Session) (remarks : Remarks) : Session :=
  { session with
    interpreter := session.interpreter.telling remarks.verbose
    message := remarks.message
    refusals := remarks.refusals }

@[simp] theorem withRemarks_self (session : Session) :
    session.withRemarks session.remarks = session := rfl

@[simp] theorem remarks_withRemarks (session : Session) (remarks : Remarks) :
    (session.withRemarks remarks).remarks = remarks := rfl

@[simp] theorem withRemarks_story (session : Session) (remarks : Remarks) :
    (session.withRemarks remarks).story = session.story := rfl

/-! ## Scenes -/

theorem enter_withRemarks (session : Session) (remarks : Remarks) (id : String) :
    (session.withRemarks remarks).enter id =
      ((session.enter id).1.withRemarks remarks, (session.enter id).2) := by
  cases hscene : session.story.scene? id with
  | none =>
      rw [session.enter_of_undeclared hscene,
        (session.withRemarks remarks).enter_of_undeclared hscene]
  | some scene =>
      have hpresent : (session.withRemarks remarks).present scene = session.present scene := rfl
      have hregistry : (session.withRemarks remarks).interpreter.beginScene.registry =
          session.interpreter.beginScene.registry := rfl
      simp only [enter, withRemarks_story, hscene, hpresent, Interpreter.register, hregistry]
      split <;> rfl

theorem transition_withRemarks (session : Session) (remarks : Remarks) (target : String) :
    (session.withRemarks remarks).transition target =
      (session.transition target).withRemarks remarks := by
  rw [transition, enter_withRemarks, transition]

theorem render_withRemarks (session : Session) (remarks : Remarks) :
    (session.withRemarks remarks).render = session.render.withRemarks remarks :=
  session.transition_withRemarks remarks session.scene

end Session

/-! ## Callbacks -/

namespace CallbackRun

/-- The run with other remarks. -/
def withRemarks (run : CallbackRun) (remarks : Remarks) : CallbackRun :=
  { run with session := run.session.withRemarks remarks }

theorem step_withRemarks (run : CallbackRun) (remarks : Remarks) (effect : Effect) :
    (run.withRemarks remarks).step effect =
      (run.step effect).withRemarks (remarks.hearing effect.text?) := by
  cases effect with
  | goto target =>
      have htransition := run.session.transition_withRemarks remarks target
      simp only [step, withRemarks, htransition]
      rfl
  | say | setFlag | clearFlag | give | discard => rfl

theorem foldl_step_withRemarks (effects : List Effect) (run : CallbackRun) (remarks : Remarks) :
    effects.foldl step (run.withRemarks remarks) =
      (effects.foldl step run).withRemarks (remarks.hearing (lastText? effects)) := by
  induction effects generalizing run remarks with
  | nil => rfl
  | cons effect rest ih =>
      rw [List.foldl_cons, List.foldl_cons, step_withRemarks, ih, Remarks.hearing_hearing,
        lastText?_cons]

theorem finish_withRemarks (run : CallbackRun) (remarks : Remarks) :
    (run.withRemarks remarks).finish = run.finish.withRemarks remarks := by
  have hrender := run.session.render_withRemarks remarks
  by_cases hshown : (run.changed && !run.moved) = true
  · simp only [finish, withRemarks, hshown, if_true, hrender]
  · simp only [finish, withRemarks, hshown]
    rfl

end CallbackRun

namespace Session

theorem invoke_withRemarks (session : Session) (remarks : Remarks) (callback : String) :
    (session.withRemarks remarks).invoke callback =
      (session.invoke callback).withRemarks
        (remarks.hearing (session.story.saidBy callback)) := by
  cases hcallback : session.story.callback? callback with
  | none =>
      simp only [invoke, withRemarks_story, hcallback, Story.saidBy, Option.bind_none]
      rfl
  | some effects =>
      have hbegin : ({ session := session.withRemarks remarks } : CallbackRun) =
          ({ session } : CallbackRun).withRemarks remarks := rfl
      simp only [invoke, withRemarks_story, hcallback, hbegin, CallbackRun.foldl_step_withRemarks,
        CallbackRun.finish_withRemarks, Story.saidBy, Option.bind_some]

/-! ## Requests -/

theorem meet_withRemarks (session : Session) (remarks : Remarks) (request : HostRequest) :
    (session.withRemarks remarks).meet request =
      (session.meet request).withRemarks
        (remarks.hearing (session.story.saidAt request)) := by
  cases request with
  | invoke callback => exact session.invoke_withRemarks remarks callback
  | enter target => exact session.transition_withRemarks remarks target
  | render => exact session.render_withRemarks remarks

/-- A request that is met changes no remark but the message. -/
theorem remarks_meet (session : Session) (request : HostRequest) :
    (session.meet request).remarks =
      session.remarks.hearing (session.story.saidAt request) := by
  have hmeet := session.meet_withRemarks session.remarks request
  rw [withRemarks_self] at hmeet
  rw [hmeet, remarks_withRemarks]

/-- A change of the remarks that leaves the message alone can be made before requests are met as
well as after it. -/
theorem foldl_meet_withRemarks {change : Remarks → Remarks}
    (hchange : ∀ remarks text, (change remarks).hearing text = change (remarks.hearing text))
    (requests : List HostRequest) (session : Session) :
    requests.foldl meet (session.withRemarks (change session.remarks)) =
      (requests.foldl meet session).withRemarks
        (change (requests.foldl meet session).remarks) := by
  induction requests generalizing session with
  | nil => rfl
  | cons request rest ih =>
      rw [List.foldl_cons, List.foldl_cons, meet_withRemarks, hchange, ← remarks_meet, ih]

end Session

end TextAdventure
