import TileAdventure.Acting.Bookmarks
import TileAdventure.Grid.Location

/-!
# The dialog gate

While a dialog shows, actions wait in the gate's queue, each with all it needs to run later.
-/

namespace TileAdventure

/-- An action held back by a dialog. -/
structure Deferred where
  action : Action
  tile : TileAddress
  /-- Where the avatar was about to go. -/
  target : Location
  path : ActionPath
  deriving Repr

/-- Whether a dialog shows, and the actions that wait for its end, first come first. -/
structure Gate where
  showing : Bool
  queue : List Deferred
  deriving Repr

namespace Gate

/-- No dialog and nothing waiting. -/
def idle : Gate := ⟨false, []⟩

/-- A dialog begins. -/
def close (g : Gate) : Gate :=
  { g with showing := true }

/-- The dialog ends. -/
def lift (g : Gate) : Gate :=
  { g with showing := false }

/-- Hold an action back. -/
def defer (g : Gate) (d : Deferred) : Gate :=
  { g with queue := g.queue ++ [d] }

/-- The action to resume next, and the gate without it. Nothing resumes under a dialog. -/
def next? (g : Gate) : Option (Deferred × Gate) :=
  if g.showing then none
  else
    match g.queue with
    | [] => none
    | d :: queue => some (d, { g with queue })

end Gate

/-- A dialog goes to the bottom of the screen if the row it concerns is in the upper half of
the room. Meant for rows from `-2 ^ 30` to below `2 ^ 30`, whose doubles fit 32 bits. -/
def displayAtBottom (y roomHeight : Int) : Bool :=
  y * 2 < roomHeight

end TileAdventure
