import TileAdventure.Json.Tree

/-!
# Members that are skipped

A member that its record does not know is skipped by the grammar, so it may hold what is no
value anywhere else: a number beyond the doubles, half a surrogate pair, or nesting of any
depth. A `Pattern` says where in a document the records are, and `Tree.prune` drops the
members that they do not know.
-/

namespace TileAdventure.Decode

/-- Where records are in a value. -/
inductive Pattern where
  /-- A value that is read as a whole. -/
  | whole
  | list (item : Pattern)
  /-- A record with the given fields. It may keep the members it does not know. -/
  | record (fields : List (String × Pattern)) (keepsOthers : Bool)

namespace Pattern

/-- A tile. -/
def tile : Pattern :=
  .record [("spriteName", .whole), ("x", .whole), ("y", .whole)] false

/-- A room. -/
def room : Pattern :=
  .record [("paletteName", .whole), ("tileList", .list tile)] false

/-- A palette. -/
def palette : Pattern :=
  .record [("name", .whole), ("colorList", .whole)] false

/-- A behavior. -/
def behavior : Pattern :=
  .record [("event", .whole), ("actionList", .whole)] false

/-- A sprite. -/
def sprite : Pattern :=
  .record
    [("name", .whole), ("frameList", .whole), ("colorIndex", .whole), ("isAvatar", .whole),
      ("isWall", .whole), ("isItem", .whole), ("isTransparent", .whole),
      ("behaviorList", .list behavior)] false

/-- A world document. Its other members are kept, since the measures are among them. -/
def document : Pattern :=
  .record [("spriteList", .list sprite), ("paletteList", .list palette),
    ("roomList", .list room)] true

end Pattern

open Json (Tree)

mutual

/-- Drop the members that the records of a pattern do not know. -/
def prune : Pattern → Tree → Tree
  | .list item, .array items => .array (pruneItems item items)
  | .record fields _, .array items => .array (pruneFields (fields.map Prod.snd) items)
  | .record fields keepsOthers, .object members =>
    .object (pruneMembers fields keepsOthers members)
  | _, t => t

/-- Prune the items of a list. -/
def pruneItems (item : Pattern) : List Tree → List Tree
  | [] => []
  | t :: items => prune item t :: pruneItems item items

/-- Prune the fields of a record that is written as an array. -/
def pruneFields : List Pattern → List Tree → List Tree
  | field :: fields, t :: items => prune field t :: pruneFields fields items
  | _, items => items

/-- Prune the members of a record. -/
def pruneMembers (fields : List (String × Pattern)) (keepsOthers : Bool) :
    List (Option String × Tree) → List (Option String × Tree)
  | [] => []
  | (name, t) :: members =>
    match name.map fun name => fields.lookup name with
    | none => (name, t) :: pruneMembers fields keepsOthers members
    | some (some field) => (name, prune field t) :: pruneMembers fields keepsOthers members
    | some none =>
      if keepsOthers then (name, t) :: pruneMembers fields keepsOthers members
      else pruneMembers fields keepsOthers members

end

end TileAdventure.Decode
