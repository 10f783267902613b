import TileAdventure.Json.Value
import TileAdventure.World.Action

/-!
# Sprites

A sprite says how its tiles look and what they do: the frames of its animation, its colour,
its roles, and a behavior for each event it answers. A `Catalogue` finds sprites by name;
the first one under a name counts.
-/

namespace TileAdventure

/-- The actions that answer an event. -/
structure Behavior where
  event : String
  actions : List Action

namespace Behavior

/-- The event of the avatar walking onto a tile. -/
def pushEvent : String := "push"

end Behavior

/-- What tiles of one name look like and do. -/
structure Sprite where
  name : String
  /-- The frames of the animation, of which only the number matters here. -/
  frames : List Json
  colorIndex : Nat
  isAvatar : Bool
  isWall : Bool
  isItem : Bool
  isTransparent : Bool
  behaviors : List Behavior
  deriving Inhabited

namespace Sprite

/-- The first behavior for `event`. -/
def behavior? (s : Sprite) (event : String) : Option Behavior :=
  s.behaviors.find? (·.event = event)

/-- The frame to show at index `index` of the animation. -/
def frameAt (s : Sprite) (index : Nat) : Nat :=
  if s.frames.isEmpty then 0 else index % s.frames.length

end Sprite

/-- The sprites of a world in order. -/
structure Catalogue where
  sprites : List Sprite

namespace Catalogue

/-- The first sprite called `name`. -/
def find? (c : Catalogue) (name : String) : Option Sprite :=
  c.sprites.find? (·.name = name)

/-- The number of sprites. -/
def size (c : Catalogue) : Nat :=
  c.sprites.length

/-- Whether there are no sprites. -/
def isEmpty (c : Catalogue) : Bool :=
  c.sprites.isEmpty

end Catalogue

end TileAdventure
