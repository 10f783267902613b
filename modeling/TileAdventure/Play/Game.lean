import TileAdventure.Acting.Scene
import TileAdventure.Play.State

/-!
# A game under way

A `Game` is a world with a state of play, the stage and the stream of random words. Actions
are performed in a scene that is set up from the game and taken back into it (`inScene`).
Rooms are entered and cells occupied as a whole or not at all (`enterRoom`, `occupy`).
-/

namespace TileAdventure

/-- A world in play. -/
structure Game where
  world : World
  state : PlayState
  stage : Stage
  random : Random.Stream

namespace Game

/-- The palette of the current room. -/
def palette? (g : Game) : Except Failure Palette :=
  match g.world.palettes[g.state.palette]? with
  | some palette => .ok palette
  | none => .error (.unknownPalette ("#" ++ toString g.state.palette))

/-- The sprite called `name`. -/
def sprite? (g : Game) (name : String) : Except Failure Sprite :=
  match g.world.sprites.find? name with
  | some sprite => .ok sprite
  | none => .error (.unknownSprite name)

/-- The sprites of some tiles, in order. -/
def sprites? (g : Game) : List Tile → Except Failure (List Sprite)
  | [] => .ok []
  | tile :: tiles => do
    let sprite ← g.sprite? tile.sprite
    let sprites ← g.sprites? tiles
    return sprite :: sprites

/-- The room numbered `room`. -/
def room? (g : Game) (room : Nat) : Except Failure Room :=
  match g.world.rooms[room]? with
  | some r => .ok r
  | none => .error (.unknownRoom room g.world.rooms.length)

/-- The game with notices logged. -/
def tell (g : Game) (notices : List Notice) : Game :=
  { g with stage := g.stage.tell notices }

/-! ## Scenes -/

/-- The scene for actions, with a target. -/
def scene (g : Game) (target : Location) : Scene where
  rooms := g.world.rooms
  inventory := g.state.inventory
  bookmarks := g.state.bookmarks
  gate := g.state.gate
  stage := g.stage
  random := g.random
  target := target

/-- The game after a scene. -/
def absorb (g : Game) (s : Scene) : Game where
  world := { g.world with rooms := s.rooms }
  state :=
    { g.state with inventory := s.inventory, bookmarks := s.bookmarks, gate := s.gate }
  stage := s.stage
  random := s.random

/-- Make an attempt in the scene of the game. The result comes with the target that the
attempt leaves. -/
def inScene {α : Type} (g : Game) (depthLimit : Nat) (target : Location)
    (attempt : Setting → Scene → Attempt α) : Except Halt α × Location × Game :=
  match g.palette? with
  | .error f => (.error (.failed f), target, g)
  | .ok palette =>
    let setting : Setting := ⟨g.world.dimensions, g.world.sprites, palette, depthLimit⟩
    let (result, s) := attempt setting (g.scene target)
    (result, s.target, g.absorb s)

/-! ## Tiles and rooms -/

/-- Drop the tiles marked for removal, and the bookmarks of their sequences. -/
def sweep (g : Game) : Game :=
  { g with
    world := { g.world with rooms := g.world.rooms.sweep }
    state :=
      { g.state with bookmarks := g.state.bookmarks.forget g.world.rooms.removedIds } }

/-- The notices of an entry: drop all sprites, then prepare those of the room, and the
avatar's in both orientations. -/
def entryNotices (sprites : List Sprite) (avatar : Sprite) (palette : Palette) :
    List Notice :=
  .dropSprites :: sprites.map (.prepare · palette false)
    ++ [.prepare avatar palette false, .prepare avatar palette true]

/-- Make a room the current one. -/
def enterRoom (g : Game) (avatarName : String) (room : Nat) : Except Failure Game := do
  let r ← g.room? room
  match g.world.palette? r.palette with
  | none => .error (.unknownPalette r.palette)
  | some (palette, index) =>
    let avatar ← g.sprite? avatarName
    let sprites ← g.sprites? r.tiles
    let g := g.tell (entryNotices sprites avatar palette)
    return { g with state := { g.state with room := room, palette := index } }

/-- Put the avatar on the target's cell, entering its room if it is another one. The flag
tells whether it is. -/
def occupy (g : Game) (avatarName : String) (target : Location) :
    Except Failure (Bool × Game) := do
  if !g.world.dimensions.containsCell target.x target.y then
    .error (.cellOutside target.room target.x target.y)
  else
    let entered := target.room ≠ g.state.room
    let g ← if entered then g.enterRoom avatarName target.room else .ok g
    let avatar := { g.state.avatar with x := target.x, y := target.y }
    return (entered, { g with state := { g.state with avatar } })

/-! ## Drawing -/

/-- Draw the tiles in order, except those of avatar sprites. -/
def drawTiles (g : Game) (frame : Nat) : List Tile → Except Failure Unit × Game
  | [] => (.ok (), g)
  | tile :: tiles =>
    match g.sprite? tile.sprite with
    | .error f => (.error f, g)
    | .ok sprite =>
      if sprite.isAvatar then g.drawTiles frame tiles
      else
        (g.tell [.drawTile sprite (sprite.frameAt frame) tile.x tile.y]).drawTiles frame tiles

/-- Draw the current room: its background, its tiles, and the avatar. -/
def draw (g : Game) (avatarName : String) (frame : Nat) : Except Failure Unit × Game :=
  match g.palette?, g.room? g.state.room with
  | .error f, _ => (.error f, g)
  | _, .error f => (.error f, g)
  | .ok palette, .ok room =>
    match (g.tell [.drawBackground palette]).drawTiles frame room.tiles with
    | (.error f, g) => (.error f, g)
    | (.ok _, g) =>
      match g.sprite? avatarName with
      | .error f => (.error f, g)
      | .ok avatar =>
        let a := g.state.avatar
        (.ok (), g.tell [.drawAvatar avatar (avatar.frameAt frame) a.x a.y a.facing])

end Game

end TileAdventure
