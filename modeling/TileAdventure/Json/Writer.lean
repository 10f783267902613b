import TileAdventure.Decimal.Shortest
import TileAdventure.Json.Value

/-!
# Writing JSON text

`compact` writes a value without spaces. In a string it escapes the quote, the backslash and
the control characters, and leaves every other character as it is.
-/

namespace TileAdventure.Json

/-- The escape of a control character without a letter of its own. -/
def controlEscape (c : Char) : String :=
  "\\u00" ++ String.ofList [Nat.digitChar (c.toNat / 16), Nat.digitChar (c.toNat % 16)]

/-- How `c` is written in a string. -/
def writeChar (c : Char) : String :=
  match c with
  | '"' => "\\\""
  | '\\' => "\\\\"
  | '\x08' => "\\b"
  | '\x0c' => "\\f"
  | '\n' => "\\n"
  | '\r' => "\\r"
  | '\t' => "\\t"
  | c => if c.toNat < 0x20 then controlEscape c else c.toString

/-- A string in writing. -/
def writeString (s : String) : String :=
  s.toList.foldl (fun text c => text ++ writeChar c) "\"" ++ "\""

mutual

/-- A value in writing, without spaces. -/
def compact : Json → String
  | .null => "null"
  | .bool b => if b then "true" else "false"
  | .integer n => toString n
  | .float x => Decimal.render x
  | .string s => writeString s
  | .array items => "[" ++ String.intercalate "," (compactItems items) ++ "]"
  | .object members => "\x7b" ++ String.intercalate "," (compactMembers members) ++ "\x7d"

/-- The items of an array in writing. -/
def compactItems : List Json → List String
  | [] => []
  | j :: items => compact j :: compactItems items

/-- The members of an object in writing. -/
def compactMembers : List (String × Json) → List String
  | [] => []
  | (name, j) :: members => (writeString name ++ ":" ++ compact j) :: compactMembers members

end

end TileAdventure.Json
