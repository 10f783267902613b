import TileAdventure.Grid.Direction
import TileAdventure.World.Basic

/-!
# Notices

Play reports what there is to see as notices: sprites to prepare, pictures to draw, dialogs
that begin and end, and lines of text.
-/

namespace TileAdventure

/-- Something for the player to see. -/
inductive Notice where
  /-- Drop all prepared sprites. -/
  | dropSprites
  /-- Prepare a sprite in the colours of a palette. -/
  | prepare (sprite : Sprite) (palette : Palette) (flipped : Bool)
  | drawBackground (palette : Palette)
  | drawTile (sprite : Sprite) (frame : Nat) (x y : Int)
  | drawAvatar (sprite : Sprite) (frame : Nat) (x y : Int) (facing : Facing)
  | dialogBegan (text : String) (atBottom : Bool)
  | dialogEnded
  /-- A page of the dialog was finished. -/
  | pageFinished
  /-- A line of text. -/
  | line (text : String)

namespace Notice

/-- The text of a line. -/
def line? : Notice → Option String
  | line text => some text
  | _ => none

end Notice

end TileAdventure
