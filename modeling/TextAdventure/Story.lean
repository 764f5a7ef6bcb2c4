import TextAdventure.NameMap
import TextAdventure.Subject

/-!
# Stories

A story declares scenes, the subjects that stand in them, and callbacks that commands can run.
-/

namespace TextAdventure

/-- A subject that stands in a scene, and when it is there. -/
structure Placement where
  subject : Subject
  /-- The subject is there only while this flag is set. -/
  requiresFlag : Option String := none
  /-- The subject is gone while this flag is set. -/
  unlessFlag : Option String := none
  /-- The subject is gone while it is held. -/
  hiddenWhenHeld : Bool := false
  deriving DecidableEq, Repr

/-- A scene of a story. -/
structure Scene where
  /-- The id, by which the story refers to the scene. -/
  id : String
  text : String := ""
  placements : List Placement := []
  deriving DecidableEq, Repr

/-- One thing that a callback does. -/
inductive Effect where
  | say (text : String)
  | setFlag (flag : String)
  | clearFlag (flag : String)
  | give (inventory item : String)
  | discard (inventory item : String)
  | goto (target : String)
  deriving DecidableEq, Repr

/-- A story as its author declares it. -/
structure Story where
  title : String := ""
  /-- The id of the scene where the story starts. -/
  start : String
  scenes : List Scene := []
  callbacks : NameMap (List Effect) := .empty
  deriving DecidableEq

namespace Story

/-- The ids of the scenes. -/
def sceneIds (story : Story) : List String :=
  story.scenes.map (·.id)

/-- The first scene of an id. -/
def scene? (story : Story) (id : String) : Option Scene :=
  story.scenes.find? (·.id == id)

/-- What a callback does, if it is declared. -/
def callback? (story : Story) (id : String) : Option (List Effect) :=
  story.callbacks.get? id

end Story

end TextAdventure
