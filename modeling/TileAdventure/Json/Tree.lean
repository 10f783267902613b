import TileAdventure.Json.Token

/-!
# The grammar of JSON text

A `Tree` is a JSON text by the grammar alone: it has the arrays and objects, however deep
they nest, and a leaf for every other value, even one that stands for none. The reader is a
machine with a stack of the arrays and objects under way, and each token moves it on.
`Tree.read?` gives the first value of a text; what follows that value is not looked at.
-/

namespace TileAdventure.Json

/-- A JSON text by the grammar alone. -/
inductive Tree where
  /-- A value without parts, if the text stands for one. -/
  | leaf (j : Option Json)
  | array (items : List Tree)
  /-- Members with their names, where the text stands for one. -/
  | object (members : List (Option String × Tree))

/-! ## The reader -/

/-- An array or object under way, its finished parts last first. -/
inductive Frame where
  | array (items : List Tree)
  /-- An object that waits for the value of its member `name`. -/
  | object (members : List (Option String × Tree)) (name : Option String)

/-- What the reader waits for. -/
inductive Awaited where
  | value
  /-- A value, or the end of an array that has just begun. -/
  | firstItem
  /-- A name, or the end of an object that has just begun. -/
  | firstName
  /-- A name, after a comma in an object with the given members. -/
  | name (members : List (Option String × Tree))
  /-- The colon after a name. -/
  | colon
  /-- A comma, or the end of an array with the given items. -/
  | nextItem (items : List Tree)
  /-- A comma, or the end of an object with the given members. -/
  | nextMember (members : List (Option String × Tree))

/-- A state of the reader. -/
structure Reader where
  stack : List Frame
  awaited : Awaited

/-- What a token leads to. -/
inductive Progress where
  | reading (reader : Reader)
  | finished (t : Tree)
  | refused

namespace Reader

/-- Take a finished value into the innermost frame. -/
def close (t : Tree) : List Frame → Progress
  | [] => .finished t
  | .array items :: stack => .reading ⟨stack, .nextItem (t :: items)⟩
  | .object members name :: stack => .reading ⟨stack, .nextMember ((name, t) :: members)⟩

/-- Begin a value with a token. -/
def beginValue (stack : List Frame) : Token → Progress
  | .scalar j => close (.leaf j) stack
  | .string s => close (.leaf (s.map .string)) stack
  | .openArray => .reading ⟨stack, .firstItem⟩
  | .openObject => .reading ⟨stack, .firstName⟩
  | _ => .refused

/-- Move on by one token. -/
def step (reader : Reader) (token : Token) : Progress :=
  let stack := reader.stack
  match reader.awaited, token with
  | .value, token => beginValue stack token
  | .firstItem, .closeArray => close (.array []) stack
  | .firstItem, token => beginValue (.array [] :: stack) token
  | .firstName, .closeObject => close (.object []) stack
  | .firstName, .string name => .reading ⟨.object [] name :: stack, .colon⟩
  | .name members, .string name => .reading ⟨.object members name :: stack, .colon⟩
  | .colon, .colon => .reading ⟨stack, .value⟩
  | .nextItem items, .comma => .reading ⟨.array items :: stack, .value⟩
  | .nextItem items, .closeArray => close (.array items.reverse) stack
  | .nextMember members, .comma => .reading ⟨stack, .name members⟩
  | .nextMember members, .closeObject => close (.object members.reverse) stack
  | _, _ => .refused

/-- Read at most `fuel` tokens off the text. -/
def run : Nat → Reader → List Char → Option Tree
  | 0, _, _ => none
  | fuel + 1, reader, cs =>
    match Token.next? cs with
    | none => none
    | some (token, cs) =>
      match reader.step token with
      | .reading reader => run fuel reader cs
      | .finished t => some t
      | .refused => none

end Reader

namespace Tree

/-- The first value of a text by the grammar. Each token takes a character, so the length of
the text bounds their number. -/
def read? (text : String) : Option Tree :=
  Reader.run text.length ⟨[], .value⟩ text.toList

/-! ## Values -/

mutual

/-- The value of a tree that nests at most `levels` deep and has a value at every leaf. -/
def toJson? : Nat → Tree → Option Json
  | _, .leaf j => j
  | 0, _ => none
  | levels + 1, .array items => (itemsToJson? levels items).map .array
  | levels + 1, .object members => (membersToJson? levels members).map .object

/-- The values of the items of an array. -/
def itemsToJson? (levels : Nat) : List Tree → Option (List Json)
  | [] => some []
  | t :: items => do
    let j ← toJson? levels t
    let js ← itemsToJson? levels items
    return j :: js

/-- The names and values of the members of an object. -/
def membersToJson? (levels : Nat) :
    List (Option String × Tree) → Option (List (String × Json))
  | [] => some []
  | (name, t) :: members => do
    let name ← name
    let j ← toJson? levels t
    let members ← membersToJson? levels members
    return (name, j) :: members

end

/-- How deep arrays and objects may nest in a value. -/
def depthLimit : Nat := 127

/-- The value of a tree, if it has one. -/
def value? (t : Tree) : Option Json :=
  t.toJson? depthLimit

end Tree

/-- The first value of a text. -/
def read? (text : String) : Option Json :=
  (Tree.read? text).bind Tree.value?

end TileAdventure.Json
