import TileAdventure.Acting.Gate
import TileAdventure.Acting.Inventory

/-!
# The state of play

The state of play is all that an evaluation may change besides the rooms: where the avatar
is, the inventory, the bookmarks in sequences, and the dialog gate. A failed evaluation is
undone by going back to an earlier state and earlier rooms.
-/

namespace TileAdventure

/-- Where in its room the avatar stands, and which way it looks. -/
structure Avatar where
  x : Int
  y : Int
  facing : Facing
  deriving DecidableEq, Repr

/-- All that an evaluation may change besides the rooms. -/
structure PlayState where
  room : Nat
  /-- The index of the room's palette. -/
  palette : Nat
  avatar : Avatar
  inventory : Inventory
  bookmarks : Bookmarks
  gate : Gate
  deriving Repr

namespace PlayState

/-- The state of an avatar that has just been put down. -/
def ofLocation (l : Location) : PlayState where
  room := l.room
  palette := 0
  avatar := ⟨l.x, l.y, .right⟩
  inventory := .empty
  bookmarks := .empty
  gate := .idle

/-- Where the avatar is. -/
def location (s : PlayState) : Location :=
  ⟨s.room, s.avatar.x, s.avatar.y⟩

end PlayState

end TileAdventure
