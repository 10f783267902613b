import TileAdventure.Control.Clock
import TileAdventure.Control.Controls
import TileAdventure.Play.Game
import TileAdventure.Session.Config

/-!
# Sessions

A session plays a world from its beginning: a game under way, the controls and the clock. A
session starts with the avatar on its tile (`Session.start`) and can be summed up at any
time (`Session.summary`).
-/

namespace TileAdventure

/-- A world being played. -/
structure Session where
  config : Config
  avatarName : String
  game : Game
  controls : Controls
  clock : Clock

namespace Session

/-- The avatar's sprite: the first one that is an avatar, else the first one. -/
def avatarSprite? (w : World) : Option Sprite :=
  (w.sprites.sprites.find? (·.isAvatar)).or w.sprites.sprites.head?

/-- The cells where tiles of a sprite stand, in order. -/
def cellsOf (w : World) (sprite : String) : List Location :=
  w.rooms.zipIdx.flatMap fun (room, i) =>
    (room.tiles.filter (·.sprite = sprite)).map fun t => ⟨i, t.x, t.y⟩

/-- Put the avatar on its last tile, or on the first cell of the first room, and enter that
room. -/
def start (w : World) (config : Config) (stage : Stage) : Except Failure Session := do
  match avatarSprite? w with
  | none => .error .noSprites
  | some avatar =>
    let location := (cellsOf w avatar.name).getLast?.getD ⟨0, 0, 0⟩
    let game : Game := ⟨w, .ofLocation location, stage, .ofSeed config.seed⟩
    let game ← game.enterRoom avatar.name location.room
    let clock := Clock.start config.frameInterval config.inputInterval config.animationFrames
    return ⟨config, avatar.name, game, .ofThreshold config.swipeThreshold, clock⟩

/-- Whether a dialog shows. -/
def dialogShowing (s : Session) : Bool :=
  s.game.state.gate.showing

/-- The notices since the last time, and the session with none. -/
def takeLog (s : Session) : List Notice × Session :=
  let stage := { s.game.stage with log := [] }
  (s.game.stage.log, { s with game := { s.game with stage } })

/-! ## Summaries -/

/-- What a session comes to. -/
structure Summary where
  room : Nat
  x : Int
  y : Int
  facing : Facing
  inventory : Inventory
  /-- How many actions wait for the end of a dialog. -/
  deferred : Nat
  /-- How many sequences have a bookmark. -/
  bookmarks : Nat
  deriving DecidableEq, Repr

/-- What the session comes to so far. -/
def summary (s : Session) : Summary where
  room := s.game.state.room
  x := s.game.state.avatar.x
  y := s.game.state.avatar.y
  facing := s.game.state.avatar.facing
  inventory := s.game.state.inventory
  deferred := s.game.state.gate.queue.length
  bookmarks := s.game.state.bookmarks.size

/-- A summary as an object. -/
def Summary.toJson (s : Summary) : Json :=
  .object [("room_index", .natural s.room), ("x", .integer s.x), ("y", .integer s.y),
    ("facing", .string s.facing.name), ("inventory", s.inventory.toJson),
    ("abandoned_deferred", .natural s.deferred), ("live_sequences", .natural s.bookmarks)]

end Session

end TileAdventure
