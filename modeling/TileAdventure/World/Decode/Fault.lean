import TileAdventure.Decimal.Shortest
import TileAdventure.Json.Value
import TileAdventure.Text.Quoted

/-!
# What can be wrong with a value

A `Problem` is one way in which a JSON value is not what a document needs at its place, and
a `Fault` is a problem with the path to that place. `Problem.message` and `Path.text` put
them into words.
-/

namespace TileAdventure.Decode

/-- A step into a JSON value. -/
inductive Segment where
  | member (name : String)
  | item (index : Nat)
  deriving DecidableEq, Repr

/-- The steps from the top of a document to a place in it. -/
abbrev Path := List Segment

/-- The steps of a path in writing, after others if not `first`. -/
def Path.textFrom (first : Bool) : Path → String
  | [] => ""
  | .member name :: path => (if first then "" else ".") ++ name ++ textFrom false path
  | .item index :: path => "[" ++ toString index ++ "]" ++ textFrom false path

/-- A path in writing. -/
def Path.text (path : Path) : String :=
  path.textFrom true

/-- One way for a value to be wrong. -/
inductive Problem where
  /-- A value of another type than `wanted`. -/
  | wrongType (found : Json) (wanted : String)
  /-- An integer outside the range of `wanted`. -/
  | outOfRange (n : Int) (wanted : String)
  | unknownVariant (name : String) (known : List String)
  | duplicateField (name : String)
  | missingField (name : String)
  /-- An array of the wrong length. -/
  | wrongLength (length : Nat) (wanted : String)
  /-- An array that goes on after its last field. -/
  | surplusItems
  /-- A comparison as an object with no member or several. -/
  | notSingleMember

/-- A value as a message shows it. -/
def describe : Json → String
  | .null => "null"
  | .bool b => "boolean `" ++ (if b then "true" else "false") ++ "`"
  | .integer n => "integer `" ++ toString n ++ "`"
  | .float x => "floating point `" ++ Decimal.render x ++ "`"
  | .string s => "string " ++ Text.quote s
  | .array _ => "sequence"
  | .object _ => "map"

namespace Problem

/-- A problem in words. -/
def message : Problem → String
  | wrongType found wanted => "invalid type: " ++ describe found ++ ", expected " ++ wanted
  | outOfRange n wanted => "invalid value: integer `" ++ toString n ++ "`, expected " ++ wanted
  | unknownVariant name known =>
    "unknown variant `" ++ name ++ "`, expected one of "
      ++ String.intercalate ", " (known.map fun k => "`" ++ k ++ "`")
  | duplicateField name => "duplicate field `" ++ name ++ "`"
  | missingField name => "missing field `" ++ name ++ "`"
  | wrongLength length wanted => "invalid length " ++ toString length ++ ", expected " ++ wanted
  | surplusItems => "trailing characters"
  | notSingleMember => "invalid value: map, expected map with a single key"

end Problem

/-- A problem and where it is. -/
structure Fault where
  path : Path
  problem : Problem

namespace Fault

/-- A problem at the value itself. -/
def here (problem : Problem) : Fault :=
  ⟨[], problem⟩

/-- The same fault, seen from one step further up. -/
def under (segment : Segment) (fault : Fault) : Fault :=
  { fault with path := segment :: fault.path }

/-- A fault in words: where it is, unless at the top, and what it is. -/
def message (fault : Fault) : String :=
  if fault.path.isEmpty then fault.problem.message
  else "at " ++ fault.path.text ++ ": " ++ fault.problem.message

end Fault

/-- A count with the noun `element`. -/
def elements (n : Nat) : String :=
  toString n ++ (if n = 1 then " element" else " elements")

/-! ## Single values -/

/-- A range of integers, by the name that messages use for it. -/
structure IntegerRange where
  name : String
  least : Int
  greatest : Int

namespace IntegerRange

/-- Signed integers of 32 bits. -/
def int32 : IntegerRange :=
  ⟨"i32", -2 ^ 31, 2 ^ 31 - 1⟩

/-- Signed integers of 64 bits. -/
def int64 : IntegerRange :=
  ⟨"i64", -2 ^ 63, 2 ^ 63 - 1⟩

/-- Unsigned integers of 32 bits. -/
def nat32 : IntegerRange :=
  ⟨"u32", 0, 2 ^ 32 - 1⟩

/-- Unsigned integers of 64 bits. -/
def nat64 : IntegerRange :=
  ⟨"usize", 0, 2 ^ 64 - 1⟩

end IntegerRange

/-- An integer in `range`. -/
def integer (range : IntegerRange) : Json → Except Problem Int
  | .integer n =>
    if range.least ≤ n ∧ n ≤ range.greatest then .ok n else .error (.outOfRange n range.name)
  | j => .error (.wrongType j range.name)

/-- An integer in the unsigned `range`. -/
def natural (range : IntegerRange) (j : Json) : Except Problem Nat :=
  (integer range j).map Int.toNat

/-- A flag. -/
def flag : Json → Except Problem Bool
  | .bool b => .ok b
  | j => .error (.wrongType j "a boolean")

/-- A text. -/
def text : Json → Except Problem String
  | .string s => .ok s
  | j => .error (.wrongType j "a string")

/-- The items of `js`, counted from `index`. -/
def itemsFrom {α : Type} (item : Json → Except Fault α) :
    Nat → List Json → Except Fault (List α)
  | _, [] => .ok []
  | index, j :: js => do
    let a ← (item j).mapError (·.under (.item index))
    let as ← itemsFrom item (index + 1) js
    return a :: as

/-- A list of items. -/
def list {α : Type} (item : Json → Except Fault α) : Json → Except Fault (List α)
  | .array js => itemsFrom item 0 js
  | j => .error (.here (.wrongType j "a sequence"))

end TileAdventure.Decode
