import TileAdventure.World.Basic

/-!
# Writing the parts of a world

Every part is written as an object with all its fields in order, under the names that the
reader knows.
-/

namespace TileAdventure

/-- The spelling of a comparison. -/
def Comparison.toJson : Comparison → Json
  | .equal => .string "="
  | .notEqual => .string "!="
  | .less => .string "<"
  | .lessOrEqual => .string "<="
  | .greater => .string ">"
  | .greaterOrEqual => .string ">="

mutual

/-- An action, its kind first. -/
def Action.toJson : Action → Json
  | .dialog text => .object [("type", .string "dialog"), ("text", .string text)]
  | .giveItem item quantity giving =>
    .object [("type", .string "give_item"), ("spriteName", .string item),
      ("quantity", .integer quantity), ("isGiving", .bool giving)]
  | .transformSelf sprite =>
    .object [("type", .string "transform_self"), ("spriteName", .string sprite)]
  | .moveAvatar room x y =>
    .object [("type", .string "move_avatar"), ("roomIndex", .natural room),
      ("tileX", .integer x), ("tileY", .integer y)]
  | .removeSelf => .object [("type", .string "remove_self")]
  | .triggerEvent event =>
    .object [("type", .string "trigger_event"), ("eventName", .string event)]
  | .conditional comparison item quantity actions =>
    .object [("type", .string "conditional"), ("comparison", comparison.toJson),
      ("spriteName", .string item), ("quantity", .integer quantity),
      ("actionList", .array (Action.listToJson actions))]
  | .sequence looping shuffled actions =>
    .object [("type", .string "sequence"), ("isLooping", .bool looping),
      ("isShuffled", .bool shuffled), ("actionList", .array (Action.listToJson actions))]

/-- Actions in order. -/
def Action.listToJson : List Action → List Json
  | [] => []
  | a :: as => a.toJson :: Action.listToJson as

end

/-- A behavior. -/
def Behavior.toJson (b : Behavior) : Json :=
  .object [("event", .string b.event), ("actionList", .array (Action.listToJson b.actions))]

/-- A sprite. -/
def Sprite.toJson (s : Sprite) : Json :=
  .object [("name", .string s.name), ("frameList", .array s.frames),
    ("colorIndex", .natural s.colorIndex), ("isAvatar", .bool s.isAvatar),
    ("isWall", .bool s.isWall), ("isItem", .bool s.isItem),
    ("isTransparent", .bool s.isTransparent),
    ("behaviorList", .array (s.behaviors.map Behavior.toJson))]

/-- A palette. -/
def Palette.toJson (p : Palette) : Json :=
  .object [("name", .string p.name), ("colorList", .array (p.colors.map .string))]

/-- The measures of a world. -/
def Dimensions.toJson (d : Dimensions) : Json :=
  .object [("roomWidth", .integer d.roomWidth), ("roomHeight", .integer d.roomHeight),
    ("worldWidth", .integer d.worldWidth), ("worldHeight", .integer d.worldHeight),
    ("worldWrapHorizontal", .bool d.wrapHorizontal),
    ("worldWrapVertical", .bool d.wrapVertical), ("spriteWidth", .natural d.spriteWidth),
    ("spriteHeight", .natural d.spriteHeight)]

end TileAdventure
