import TileAdventure.World.Basic
import TileAdventure.World.Decode.Action

/-!
# Reading the parts of a world

Tiles, rooms, palettes, behaviors, sprites and measures are records; each has a draft with
an optional entry for every field, and a shape that says how to fill and finish it.
-/

namespace TileAdventure.Decode

/-- A field whose value `decode` reads, kept by `put` and looked up by `get`. -/
def slot {δ β : Type} (name : String) (get : δ → Option β) (put : δ → β → δ)
    (decode : Json → Except Fault β) : Slot δ :=
  ⟨name, fun d => (get d).isSome, fun j d => (decode j).map (put d)⟩

/-- A field with a value that has no parts. -/
def scalarSlot {δ β : Type} (name : String) (get : δ → Option β) (put : δ → β → δ)
    (decode : Json → Except Problem β) : Slot δ :=
  slot name get put fun j => (decode j).mapError .here

/-! ## Tiles and rooms -/

/-- The fields of a tile read so far. -/
structure TileDraft where
  sprite : Option String := none
  x : Option Int := none
  y : Option Int := none

/-- Tiles have a sprite name and a cell. Their id and removal mark are not read. -/
def tileShape : Shape TileDraft Tile where
  name := "struct Tile"
  slots :=
    [scalarSlot "spriteName" (·.sprite) (fun d s => { d with sprite := some s }) text,
      scalarSlot "x" (·.x) (fun d n => { d with x := some n }) (integer .int32),
      scalarSlot "y" (·.y) (fun d n => { d with y := some n }) (integer .int32)]
  empty := {}
  finish absent d := do
    let sprite ← required absent 0 "spriteName" d.sprite
    let x ← required absent 1 "x" d.x
    let y ← required absent 2 "y" d.y
    return ⟨⟨0⟩, sprite, x, y, false⟩

/-- The fields of a room read so far. -/
structure RoomDraft where
  palette : Option String := none
  tiles : Option (List Tile) := none

/-- Rooms have a palette name and, unless empty, tiles. -/
def roomShape (mode : Mode) : Shape RoomDraft Room where
  name := "struct Room"
  slots :=
    [scalarSlot "paletteName" (·.palette) (fun d s => { d with palette := some s }) text,
      slot "tileList" (·.tiles) (fun d ts => { d with tiles := some ts })
        (list (tileShape.read mode))]
  empty := {}
  finish absent d := do
    let palette ← required absent 0 "paletteName" d.palette
    return ⟨palette, d.tiles.getD []⟩

/-! ## Palettes -/

/-- The fields of a palette read so far. -/
structure PaletteDraft where
  name : Option String := none
  colors : Option (List String) := none

/-- Palettes have a name and, unless empty, colours. -/
def paletteShape : Shape PaletteDraft Palette where
  name := "struct Palette"
  slots :=
    [scalarSlot "name" (·.name) (fun d s => { d with name := some s }) text,
      slot "colorList" (·.colors) (fun d cs => { d with colors := some cs })
        (list fun j => (text j).mapError .here)]
  empty := {}
  finish absent d := do
    let name ← required absent 0 "name" d.name
    return ⟨name, d.colors.getD []⟩

/-! ## Sprites -/

/-- The fields of a behavior read so far. -/
structure BehaviorDraft where
  event : Option String := none
  actions : Option (List Action) := none

/-- Behaviors have an event and, unless empty, actions. -/
def behaviorShape : Shape BehaviorDraft Behavior where
  name := "struct Behavior"
  slots :=
    [scalarSlot "event" (·.event) (fun d s => { d with event := some s }) text,
      slot "actionList" (·.actions) (fun d as => { d with actions := some as })
        (list (action false))]
  empty := {}
  finish absent d := do
    let event ← required absent 0 "event" d.event
    return ⟨event, d.actions.getD []⟩

/-- The fields of a sprite read so far. -/
structure SpriteDraft where
  name : Option String := none
  frames : Option (List Json) := none
  colorIndex : Option Nat := none
  isAvatar : Option Bool := none
  isWall : Option Bool := none
  isItem : Option Bool := none
  isTransparent : Option Bool := none
  behaviors : Option (List Behavior) := none

/-- Sprites have a name; every other field has a default. -/
def spriteShape (mode : Mode) : Shape SpriteDraft Sprite where
  name := "struct Sprite"
  slots :=
    [scalarSlot "name" (·.name) (fun d s => { d with name := some s }) text,
      slot "frameList" (·.frames) (fun d js => { d with frames := some js }) (list .ok),
      scalarSlot "colorIndex" (·.colorIndex) (fun d n => { d with colorIndex := some n })
        (natural .nat64),
      scalarSlot "isAvatar" (·.isAvatar) (fun d b => { d with isAvatar := some b }) flag,
      scalarSlot "isWall" (·.isWall) (fun d b => { d with isWall := some b }) flag,
      scalarSlot "isItem" (·.isItem) (fun d b => { d with isItem := some b }) flag,
      scalarSlot "isTransparent" (·.isTransparent)
        (fun d b => { d with isTransparent := some b }) flag,
      slot "behaviorList" (·.behaviors) (fun d bs => { d with behaviors := some bs })
        (list (behaviorShape.read mode))]
  empty := {}
  finish absent d := do
    let name ← required absent 0 "name" d.name
    return {
      name
      frames := d.frames.getD []
      colorIndex := d.colorIndex.getD 0
      isAvatar := d.isAvatar.getD false
      isWall := d.isWall.getD false
      isItem := d.isItem.getD false
      isTransparent := d.isTransparent.getD false
      behaviors := d.behaviors.getD [] }

/-- A list of sprites. -/
def sprites (mode : Mode) : Json → Except Fault (List Sprite) :=
  list ((spriteShape mode).read mode)

/-- A list of palettes. -/
def palettes (mode : Mode) : Json → Except Fault (List Palette) :=
  list (paletteShape.read mode)

/-- A list of rooms. -/
def rooms (mode : Mode) : Json → Except Fault (List Room) :=
  list ((roomShape mode).read mode)

/-! ## Measures -/

/-- The measures read so far. -/
structure DimensionsDraft where
  roomWidth : Option Int := none
  roomHeight : Option Int := none
  worldWidth : Option Int := none
  worldHeight : Option Int := none
  wrapHorizontal : Option Bool := none
  wrapVertical : Option Bool := none
  spriteWidth : Option Nat := none
  spriteHeight : Option Nat := none

/-- The four extents have to be given; a world wraps on no axis and has sprites of the
default size unless the text has it otherwise. -/
def dimensionsShape : Shape DimensionsDraft Dimensions where
  name := "struct WorldDimensions"
  slots :=
    [scalarSlot "roomWidth" (·.roomWidth) (fun d n => { d with roomWidth := some n })
        (integer .int32),
      scalarSlot "roomHeight" (·.roomHeight) (fun d n => { d with roomHeight := some n })
        (integer .int32),
      scalarSlot "worldWidth" (·.worldWidth) (fun d n => { d with worldWidth := some n })
        (integer .int32),
      scalarSlot "worldHeight" (·.worldHeight) (fun d n => { d with worldHeight := some n })
        (integer .int32),
      scalarSlot "worldWrapHorizontal" (·.wrapHorizontal)
        (fun d b => { d with wrapHorizontal := some b }) flag,
      scalarSlot "worldWrapVertical" (·.wrapVertical)
        (fun d b => { d with wrapVertical := some b }) flag,
      scalarSlot "spriteWidth" (·.spriteWidth) (fun d n => { d with spriteWidth := some n })
        (natural .nat32),
      scalarSlot "spriteHeight" (·.spriteHeight) (fun d n => { d with spriteHeight := some n })
        (natural .nat32)]
  empty := {}
  finish absent d := do
    let roomWidth ← required absent 0 "roomWidth" d.roomWidth
    let roomHeight ← required absent 1 "roomHeight" d.roomHeight
    let worldWidth ← required absent 2 "worldWidth" d.worldWidth
    let worldHeight ← required absent 3 "worldHeight" d.worldHeight
    return {
      roomWidth
      roomHeight
      worldWidth
      worldHeight
      wrapHorizontal := d.wrapHorizontal.getD false
      wrapVertical := d.wrapVertical.getD false
      spriteWidth := d.spriteWidth.getD Dimensions.defaultSpriteSize
      spriteHeight := d.spriteHeight.getD Dimensions.defaultSpriteSize }

end TileAdventure.Decode
