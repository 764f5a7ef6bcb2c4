import TextAdventure.Fault
import TextAdventure.Story

/-!
# Checking a story

A story contradicts itself when it declares a scene twice or two subjects of one name in a scene, or
when it refers to a scene or callback that it does not declare.  The faults are listed in the order
of the story, and the first one is reported.
-/

namespace TextAdventure

/-- The words of a list that stood in it before, or stand among the words seen already. -/
def repeated (seen : List String) : List String → List String
  | [] => []
  | word :: rest =>
    if seen.contains word then word :: repeated seen rest else repeated (word :: seen) rest

namespace Story

/-- The fault of a reference to a scene, if the scene is not declared. -/
def sceneFault (story : Story) (id : String) : List FaultKind :=
  if story.sceneIds.contains id then [] else [.unknownScene id]

/-- The fault of a reference to a callback, if the callback is not declared. -/
def callbackFault (story : Story) (id : String) : List FaultKind :=
  if story.callbacks.contains id then [] else [.unknownCallback id]

/-- The faults of what a subject refers to: the scene to which it leads, then its callbacks. -/
def referenceFaults (story : Story) (subject : Subject) : List FaultKind :=
  subject.go.toList.flatMap story.sceneFault ++ subject.triggers.flatMap story.callbackFault

/-- The faults of the subjects of a scene, after subjects with the names seen already. -/
def subjectFaults (story : Story) (seen : List String) : List Subject → List FaultKind
  | [] => []
  | subject :: rest =>
    (if seen.contains subject.name then [.duplicateSubject subject.name] else []) ++
      story.referenceFaults subject ++ story.subjectFaults (subject.name :: seen) rest

/-- The faults of the effects of a callback. -/
def effectFaults (story : Story) (effects : List Effect) : List FaultKind :=
  effects.flatMap fun
    | .goto target => story.sceneFault target
    | _ => []

/-- All faults of a story, each at its place. -/
def faults (story : Story) : List Fault :=
  (repeated [] story.sceneIds).map
      (fun id => { kind := .storyFormat ("scene '" ++ id ++ "' is declared twice") }) ++
    (story.sceneFault story.start).map
      (fun kind => { kind, context := some { stack := ["start"] } }) ++
    story.scenes.flatMap (fun scene =>
      (story.subjectFaults [] (scene.placements.map (·.subject))).map
        fun kind => { kind, context := some { scene := some scene.id } }) ++
    story.callbacks.entries.flatMap fun (id, effects) =>
      (story.effectFaults effects).map
        fun kind => { kind, context := some { stack := ["callback " ++ id] } }

/-- Reports the first fault of a story. -/
def check (story : Story) : Except Fault Unit :=
  match story.faults with
  | [] => .ok ()
  | fault :: _ => .error fault

end Story

end TextAdventure
