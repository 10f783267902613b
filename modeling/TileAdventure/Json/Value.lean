/-!
# JSON values

A value keeps what a reader of documents may ask for: integers of 64 bits apart from other
numbers, and the members of an object in the order of the text, repetitions included.
-/

namespace TileAdventure

/-- A JSON value. -/
inductive Json where
  | null
  | bool (b : Bool)
  /-- A number written without point and exponent, of 64 bits with or without sign. -/
  | integer (n : Int)
  /-- Any other number. -/
  | float (x : Float)
  | string (s : String)
  | array (items : List Json)
  | object (members : List (String × Json))
  deriving Inhabited

namespace Json

/-- The members of an object, and no members of any other value. -/
def members : Json → List (String × Json)
  | .object members => members
  | _ => []

/-- The first member called `name`. -/
def member? (j : Json) (name : String) : Option Json :=
  j.members.lookup name

/-- A number that cannot be negative. -/
def natural (n : Nat) : Json :=
  .integer n

/-- The items of an array, and no items of any other value. -/
def items : Json → List Json
  | .array items => items
  | _ => []

end Json

end TileAdventure
