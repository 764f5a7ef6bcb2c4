import TextAdventure.Action

/-!
# Outcomes

What a command led to: whether it was accepted, what it shows, what it changed in the inventories,
and what it asks of the game around it.
-/

namespace TextAdventure

/-- Why a command is refused. -/
inductive Refusal where
  | notInInventory (subject : String)
  | notInMemoryBank (subject : String)
  | useNeedsTwoSubjects
  | undefinedAction (action subject : String)
  | noUsePairing (first second : String)
  /-- The number of subjects does not fit the action. -/
  | noValidSubject
  | alreadyHeld (subject inventory : String)
  /-- The command does not fit the deed for which it is carried out. -/
  | unresolved (action subject : String)
  deriving DecidableEq, Repr

namespace Refusal

/-- The refusal in words. -/
def message : Refusal → String
  | notInInventory subject =>
    "You cannot drop " ++ subject ++ " because it's not in your inventory."
  | notInMemoryBank subject =>
    "You cannot forget " ++ subject ++ " because it's not in your memory bank."
  | useNeedsTwoSubjects => "The USE action requires two subjects. Only one was found."
  | undefinedAction action subject =>
    "The " ++ action ++ " action is not defined in the options for " ++ subject ++ "."
  | noUsePairing first second =>
    "Neither " ++ first ++ " nor " ++ second ++ " has the other defined in their USE property."
  | noValidSubject => "No valid subjects found in the command."
  | alreadyHeld subject inventory => subject ++ " is already in " ++ inventory ++ "."
  | unresolved action subject =>
    "The " ++ action ++ " action could not be resolved for " ++ subject ++ "."

end Refusal

/-- Whether a command was carried out. -/
inductive Verdict where
  | accepted
  /-- The command was refused, and nothing was done. -/
  | refused (refusal : Refusal)
  deriving DecidableEq, Repr

/-- What a command asks of the scene. -/
inductive SceneRequest where
  | transition (target : String)
  | rerender
  deriving DecidableEq, Repr

/-- What a command did to an inventory. -/
inductive InventoryChange where
  | added (inventory item : String)
  | removed (inventory item : String)
  deriving DecidableEq, Repr

/-- What a command led to. -/
structure Outcome where
  action : Action
  /-- The names of the subjects of the command. -/
  subjects : List String
  verdict : Verdict := .accepted
  message : Option String := none
  scene : Option SceneRequest := none
  callback : Option String := none
  change : Option InventoryChange := none
  deriving DecidableEq, Repr

/-- What an outcome asks of the game around the command. -/
inductive HostRequest where
  | invoke (callback : String)
  | enter (target : String)
  | render
  deriving DecidableEq, Repr

namespace SceneRequest

/-- The request as it is put to the game. -/
def toHost : SceneRequest → HostRequest
  | transition target => .enter target
  | rerender => .render

end SceneRequest

namespace Outcome

/-- The command was refused. -/
def isRefused (outcome : Outcome) : Bool :=
  match outcome.verdict with
  | .accepted => false
  | .refused _ => true

/-- The requests of an outcome in the order in which they are met: the callback comes first. -/
def requests (outcome : Outcome) : List HostRequest :=
  (outcome.callback.map .invoke).toList ++ (outcome.scene.map (·.toHost)).toList

end Outcome

end TextAdventure
