import TileAdventure.Random.Stream

/-!
# Configuration

The settings of a play-through. Times are in milliseconds.
-/

namespace TileAdventure

/-- The settings of a play-through. -/
structure Config where
  inputInterval : Float
  frameInterval : Float
  animationFrames : Nat
  /-- How long a drag has to be to count, in pointer units. -/
  swipeThreshold : Float32
  /-- How deep actions may nest. -/
  depthLimit : Nat
  /-- The seed of the shuffles. -/
  seed : Random.Seed

namespace Config

/-- The settings that hold unless given otherwise. A play-through that is not to be repeated
takes a seed of its own. -/
def default : Config where
  inputInterval := 200
  frameInterval := 400
  animationFrames := 12
  swipeThreshold := 20
  depthLimit := 256
  seed := 0

end Config

end TileAdventure
