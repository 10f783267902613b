import TileAdventure.Digest
import TileAdventure.World.Decode.Parts
import TileAdventure.World.Decode.Pattern

/-!
# World documents

A world document is a JSON object with the measures of a world among its members and the
lists of sprites, palettes and rooms. `World.ofJson` reads one from its value, the lists in
the order of the text and the measures after them; `World.load` reads one from text, of
which only the first value counts. Members that are skipped need not have a value; but
unless the whole text has one, no other fault of it is told.
-/

namespace TileAdventure

namespace Decode

/-- The lists of a document read so far. -/
structure DocumentDraft where
  sprites : Option (List Sprite) := none
  palettes : Option (List Palette) := none
  rooms : Option (List Room) := none

/-- The lists of a document. -/
def documentSlots (mode : Mode) : List (Slot DocumentDraft) :=
  [slot "spriteList" (·.sprites) (fun d ss => { d with sprites := some ss }) (sprites mode),
    slot "paletteList" (·.palettes) (fun d ps => { d with palettes := some ps }) (palettes mode),
    slot "roomList" (·.rooms) (fun d rs => { d with rooms := some rs }) (rooms mode)]

/-- A world. The measures stand among the members of the document itself, so a fault in one
of them has no path. -/
def world : Json → Except Fault World
  | .object members => do
    let draft ← fillMembers (documentSlots .streamed) members {}
    let dimensions ← (dimensionsShape.read .streamed (.object members)).mapError fun fault =>
      .here fault.problem
    return .ofParts dimensions (draft.sprites.getD []) (draft.palettes.getD [])
      (draft.rooms.getD [])
  | j => .error (.here (.wrongType j "struct WorldDocument"))

end Decode

/-- Why a document is not a world. -/
inductive LoadError where
  /-- The text does not begin with a JSON value that could be read. -/
  | malformed
  | fault (f : Decode.Fault)
  /-- A measure that has to be positive is not. -/
  | improperDimension (name : String) (value : Int)

/-- The error in words. A malformed text has none. -/
def LoadError.message? : LoadError → Option String
  | .malformed => none
  | .fault f => some ("failed to parse world document <inline>: " ++ f.message)
  | .improperDimension name value =>
    some ("world dimension " ++ name ++ " must be positive, got " ++ toString value)

namespace World

/-- What tells a document from others: the digest of its text. -/
def digest (text : String) : String :=
  Digest.sha256Hex text

/-- The world of a document. -/
def ofJson (j : Json) : Except LoadError World := do
  let world ← (Decode.world j).mapError .fault
  match world.dimensions.improper? with
  | some (name, value) => .error (.improperDimension name value)
  | none => return world

/-- The world of a document of which only the parts that are not skipped have a value. -/
def ofTree (t : Json.Tree) : Except LoadError World :=
  match (Decode.prune .document t).value?.map ofJson with
  | some (.ok world) => .ok world
  | some (.error (.improperDimension name value)) => .error (.improperDimension name value)
  | _ => .error .malformed

/-- The world of a document's text. -/
def load (text : String) : Except LoadError World :=
  match Json.Tree.read? text with
  | none => .error .malformed
  | some t =>
    match t.value? with
    | some j => ofJson j
    | none => ofTree t

end World

end TileAdventure
