/-!
# The action language

An action is one step of a behavior: show a text, change the inventory, change the tile or
the avatar's target, broadcast an event, or run further actions under a condition or one at
a time in sequence.
-/

namespace TileAdventure

/-- How an item count is compared with a threshold. -/
inductive Comparison where
  | equal
  | notEqual
  | less
  | lessOrEqual
  | greater
  | greaterOrEqual
  deriving DecidableEq, Repr

namespace Comparison

/-- Whether `count` compares with `threshold` as demanded. -/
def holds (c : Comparison) (count threshold : Int) : Bool :=
  match c with
  | .equal => count = threshold
  | .notEqual => count ≠ threshold
  | .less => count < threshold
  | .lessOrEqual => count ≤ threshold
  | .greater => threshold < count
  | .greaterOrEqual => threshold ≤ count

end Comparison

/-- A step of a behavior. -/
inductive Action where
  /-- Show a text. -/
  | dialog (text : String)
  /-- Put items into the inventory, or take them if not `giving`. -/
  | giveItem (item : String) (quantity : Int) (giving : Bool)
  /-- Give the acting tile another sprite. -/
  | transformSelf (sprite : String)
  /-- Redirect the avatar. -/
  | moveAvatar (room : Nat) (x y : Int)
  /-- Mark the acting tile for removal. -/
  | removeSelf
  /-- Run the behaviors for an event on every tile of the world. -/
  | triggerEvent (event : String)
  /-- Run all the actions if the count of an item compares as demanded. -/
  | conditional (comparison : Comparison) (item : String) (quantity : Int)
      (actions : List Action)
  /-- Run the next one of the actions. -/
  | sequence (looping shuffled : Bool) (actions : List Action)
  deriving Inhabited, Repr

/-- The kinds of action, in the order in which a message lists them. -/
inductive ActionKind where
  | dialog
  | giveItem
  | transformSelf
  | moveAvatar
  | removeSelf
  | triggerEvent
  | conditional
  | sequence
  deriving DecidableEq, Repr

namespace ActionKind

/-- The kinds in order. -/
def all : List ActionKind :=
  [.dialog, .giveItem, .transformSelf, .moveAvatar, .removeSelf, .triggerEvent, .conditional,
    .sequence]

/-- The name of a kind in documents. -/
def name : ActionKind → String
  | .dialog => "dialog"
  | .giveItem => "give_item"
  | .transformSelf => "transform_self"
  | .moveAvatar => "move_avatar"
  | .removeSelf => "remove_self"
  | .triggerEvent => "trigger_event"
  | .conditional => "conditional"
  | .sequence => "sequence"

end ActionKind

namespace Action

/-- The kind of an action. -/
def kind : Action → ActionKind
  | .dialog .. => .dialog
  | .giveItem .. => .giveItem
  | .transformSelf .. => .transformSelf
  | .moveAvatar .. => .moveAvatar
  | .removeSelf => .removeSelf
  | .triggerEvent .. => .triggerEvent
  | .conditional .. => .conditional
  | .sequence .. => .sequence

/-- Whether the action is a broadcast of `event`. -/
def triggers (a : Action) (event : String) : Bool :=
  match a with
  | .triggerEvent name => name = event
  | _ => false

end Action

end TileAdventure
