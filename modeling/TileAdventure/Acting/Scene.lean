import TileAdventure.Acting.Gate
import TileAdventure.Acting.Inventory
import TileAdventure.Random.Stream
import TileAdventure.Stage.Basic

/-!
# Settings and scenes

An action reads the `Setting` and changes the `Scene`. An `Attempt` at something gives a
result or halts, and the scene stays as it was changed in either case.
-/

namespace TileAdventure

/-- What an action reads. -/
structure Setting where
  dimensions : Dimensions
  sprites : Catalogue
  palette : Palette
  /-- How deep actions may nest. -/
  depthLimit : Nat

/-- What an action changes. -/
structure Scene where
  rooms : Rooms
  inventory : Inventory
  bookmarks : Bookmarks
  gate : Gate
  stage : Stage
  random : Random.Stream
  /-- Where the avatar is about to go. -/
  target : Location

/-- A result or a halt, and the scene after it. -/
abbrev Attempt (α : Type) := Except Halt α × Scene

/-- Take `step` on each of the given things in order, until one halts. -/
def inTurn {α β : Type} (step : α → Scene → Attempt β) : List α → Scene → Attempt Unit
  | [], scene => (.ok (), scene)
  | a :: as, scene =>
    match step a scene with
    | (.ok _, scene) => inTurn step as scene
    | (.error halt, scene) => (.error halt, scene)

namespace Scene

/-- Hold an action back until the dialog ends. -/
def defer (scene : Scene) (action : Action) (tile : TileAddress) (path : ActionPath) : Scene :=
  { scene with gate := scene.gate.defer ⟨action, tile, scene.target, path⟩ }

/-- Begin a dialog, away from the target's half of the room. -/
def beginDialog (scene : Scene) (setting : Setting) (text : String) : Scene :=
  let atBottom := displayAtBottom scene.target.y setting.dimensions.roomHeight
  { scene with gate := scene.gate.close, stage := scene.stage.beginDialog text atBottom }

/-- Change the count of an item. -/
def addItem (scene : Scene) (item : String) (change : Int) : Scene :=
  { scene with inventory := scene.inventory.add item change }

/-- Change a tile, if it is still there. -/
def modifyTile (scene : Scene) (tile : TileAddress) (f : Tile → Tile) : Scene :=
  { scene with rooms := scene.rooms.modifyTile tile f }

/-- Mark a tile for removal, if it is still there. -/
def markRemoved (scene : Scene) (tile : TileAddress) : Scene :=
  scene.modifyTile tile Tile.mark

/-- Mark the tile at a position of a room for removal. -/
def markAt (scene : Scene) (room position : Nat) : Scene :=
  { scene with rooms := scene.rooms.modifyAt room position Tile.mark }

/-- Give a tile another sprite, if it is still there, and prepare the sprite. -/
def transform (scene : Scene) (setting : Setting) (tile : TileAddress) (sprite : Sprite) :
    Scene :=
  let scene := scene.modifyTile tile fun t => { t with sprite := sprite.name }
  { scene with stage := scene.stage.tell [.prepare sprite setting.palette false] }

/-- The index of the action that a sequence runs now. -/
def currentIndex (scene : Scene) (key : SequenceKey) (form : SequenceForm) : Attempt Nat :=
  let (index, bookmarks, random) := scene.bookmarks.current key form scene.random
  (index, { scene with bookmarks, random })

/-- Move a sequence past the action it has run. -/
def advance (scene : Scene) (key : SequenceKey) (form : SequenceForm) : Scene :=
  let (bookmarks, random) := scene.bookmarks.advance key form scene.random
  { scene with bookmarks, random }

end Scene

end TileAdventure
