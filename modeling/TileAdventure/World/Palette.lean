/-!
# Palettes

A palette is a named list of colours. An empty colour counts as undefined, and a lookup
(`resolve?`) falls back to the nearest defined colour before it.
-/

namespace TileAdventure

/-- A named list of colours. -/
structure Palette where
  name : String
  colors : List String
  deriving DecidableEq, Repr

namespace Palette

/-- The colour at `index`, if it is defined. -/
def color? (p : Palette) (index : Nat) : Option String :=
  p.colors[index]?.filter (· ≠ "")

/-- The background colour. -/
def background? (p : Palette) : Option String :=
  p.color? 0

/-- The defined colour at the greatest index up to `index`. -/
def resolve? (p : Palette) : Nat → Option String
  | 0 => p.color? 0
  | index + 1 =>
    match p.color? (index + 1) with
    | some color => some color
    | none => p.resolve? index

end Palette

end TileAdventure
