import TileAdventure.Acting.Perform

/-!
# Encounters

Before the avatar goes to a cell it meets the tiles there, in the order of the room
(`Setting.meetCell`): a wall blocks the way, an item is picked up, and a tile with a push
behavior is pushed unless the avatar stands on that cell already. A push may redirect the
avatar; the tiles that follow are then compared with the new cell, still in the room of the
start.
-/

namespace TileAdventure

/-- What the avatar met. -/
structure Encounter where
  passable : Bool
  /-- The items picked up, in order. -/
  pickedUp : List String
  /-- How many tiles were pushed. -/
  pushed : Nat
  deriving DecidableEq, Repr

namespace Encounter

/-- Nothing met yet. -/
def nothing : Encounter := ⟨true, [], 0⟩

/-- Meet a sprite in its role. -/
def note (e : Encounter) (sprite : Sprite) : Encounter :=
  { e with
    passable := e.passable && !sprite.isWall
    pickedUp := if sprite.isItem then e.pickedUp ++ [sprite.name] else e.pickedUp }

end Encounter

namespace Scene

/-- Whether a tile stands on the target's cell. -/
def isOnTarget (scene : Scene) (tile : Tile) : Bool :=
  tile.x = scene.target.x && tile.y = scene.target.y

/-- Whether the target's cell is the one at the given column and row. -/
def targetIs (scene : Scene) (cell : Int × Int) : Bool :=
  (scene.target.x, scene.target.y) = cell

/-- Take an item tile into the inventory: the tile at a position of a room. -/
def pickUp (scene : Scene) (sprite : Sprite) (room position : Nat) : Scene :=
  (scene.addItem sprite.name 1).markAt room position

/-- The tile at a position in a room. -/
def tileAt? (scene : Scene) (room position : Nat) : Option Tile :=
  scene.rooms[room]?.bind fun r => r.tiles[position]?

theorem target_ite_pickUp (scene : Scene) (taken : Bool) (sprite : Sprite)
    (room position : Nat) :
    (if taken then scene.pickUp sprite room position else scene).target = scene.target := by
  split <;> rfl

/-- An item that is taken does not redirect the avatar. -/
theorem targetIs_ite_pickUp (scene : Scene) (taken : Bool) (sprite : Sprite)
    (room position : Nat) (cell : Int × Int) :
    (if taken then scene.pickUp sprite room position else scene).targetIs cell =
      scene.targetIs cell := by
  rw [targetIs, target_ite_pickUp, targetIs]

end Scene

namespace Setting

/-- Perform the push behavior of a tile. -/
def push (setting : Setting) (behavior : Behavior) (tile : TileAddress) (scene : Scene) :
    Attempt Unit :=
  inTurn
    (fun (action, index) => setting.run action tile (.root Behavior.pushEvent index))
    behavior.actions.zipIdx scene

/-- Meet the tile at a position of the room. `avatarCell` is where the avatar stands. -/
def meetTile (setting : Setting) (avatarCell : Int × Int) (room position : Nat) (tile : Tile)
    (met : Encounter) (scene : Scene) : Attempt Encounter :=
  if !scene.isOnTarget tile then (.ok met, scene)
  else
    match setting.sprites.find? tile.sprite with
    | none => (.error (.failed (.unknownSprite tile.sprite)), scene)
    | some sprite =>
      if sprite.isAvatar then (.ok met, scene)
      else
        let address : TileAddress := ⟨room, tile.id⟩
        let met := met.note sprite
        let scene := if sprite.isItem then scene.pickUp sprite room position else scene
        if scene.targetIs avatarCell then (.ok met, scene)
        else
          match sprite.behavior? Behavior.pushEvent with
          | none => (.ok met, scene)
          | some behavior =>
            let (result, scene) := setting.push behavior address scene
            (result.map fun _ => { met with pushed := met.pushed + 1 }, scene)

/-- Meet the tiles at the given positions of the room, in order. -/
def meetTiles (setting : Setting) (avatarCell : Int × Int) (room : Nat) :
    List Nat → Encounter → Scene → Attempt Encounter
  | [], met, scene => (.ok met, scene)
  | position :: positions, met, scene =>
    match scene.tileAt? room position with
    | none => meetTiles setting avatarCell room positions met scene
    | some tile =>
      match setting.meetTile avatarCell room position tile met scene with
      | (.ok met, scene) => meetTiles setting avatarCell room positions met scene
      | (.error halt, scene) => (.error halt, scene)

/-- Meet all tiles on the target's cell. -/
def meetCell (setting : Setting) (avatarCell : Int × Int) (scene : Scene) :
    Attempt Encounter :=
  let room := scene.target.room
  match scene.rooms[room]? with
  | none => (.error (.failed (.unknownRoom room scene.rooms.length)), scene)
  | some r => setting.meetTiles avatarCell room (List.range r.tiles.length) .nothing scene

end Setting

end TileAdventure
