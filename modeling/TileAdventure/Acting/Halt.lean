/-!
# Why acting stops

A `Failure` aborts the evaluation of a move or of an action; what the evaluation did is then
undone. Moves into walls and out of the world are ordinary results and no failures. A `Halt`
is a failure or a sequence that has lost its place, which ends the whole program.
-/

namespace TileAdventure

/-- Why an evaluation is aborted. -/
inductive Failure where
  | unknownSprite (name : String)
  | unknownPalette (name : String)
  | unknownRoom (room roomCount : Nat)
  | cellOutside (room : Nat) (x y : Int)
  | noSprites
  | emptySequence (path : String)
  | tooDeep (limit : Nat) (path : String)
  deriving DecidableEq, Repr

namespace Failure

/-- Whether the failure is about something that the world does not define, as against a
state that play must not be in. -/
def isUnknown : Failure → Bool
  | unknownSprite _ | unknownPalette _ | unknownRoom .. => true
  | cellOutside .. | noSprites | emptySequence _ | tooDeep .. => false

/-- The failure in words. -/
def message : Failure → String
  | unknownSprite name => "sprite '" ++ name ++ "' is not defined in the world"
  | unknownPalette name => "palette '" ++ name ++ "' is not defined in the world"
  | unknownRoom room roomCount =>
    "room " ++ toString room ++ " does not exist (world has " ++ toString roomCount ++ " rooms)"
  | cellOutside room x y =>
    "cell (" ++ toString x ++ ", " ++ toString y ++ ") lies outside room " ++ toString room
  | noSprites => "world has no sprites to choose an avatar from"
  | emptySequence path => "sequence '" ++ path ++ "' has no actions to run"
  | tooDeep limit path =>
    "action nesting exceeded " ++ toString limit ++ " levels while running '" ++ path ++ "'"

end Failure

/-- Why acting stops in the middle of an evaluation. -/
inductive Halt where
  | failed (f : Failure)
  /-- A sequence's bookmark points beyond its order or its actions. -/
  | lostPlace
  deriving DecidableEq, Repr

end TileAdventure
