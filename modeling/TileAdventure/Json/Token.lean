import TileAdventure.Json.Number

/-!
# Tokens of JSON text

`Token.next?` takes the next token off a text by the grammar alone. A string that holds half
a surrogate pair and a number beyond the doubles are tokens too, but stand for no value.
-/

namespace TileAdventure.Json

/-- A token. -/
inductive Token where
  | openArray
  | closeArray
  | openObject
  | closeObject
  | colon
  | comma
  /-- A string, with its value if it has one. -/
  | string (s : Option String)
  /-- Another value without parts, if it has a value. -/
  | scalar (j : Option Json)

/-! ## Strings -/

/-- A part of a string: a character, or a code unit of 16 bits written by its number. -/
inductive StringPart where
  | char (c : Char)
  | codeUnit (n : Nat)

/-- Where the reading of a string stands. -/
inductive StringSpot where
  | plain
  /-- After a backslash. -/
  | escape
  /-- Before the last `left` digits of a code unit whose digits so far are worth `unit`. -/
  | codeUnit (left unit : Nat)

/-- What an escape by a single letter stands for. -/
def escaped? : Char → Option Char
  | '"' => some '"'
  | '\\' => some '\\'
  | '/' => some '/'
  | 'b' => some '\x08'
  | 'f' => some '\x0c'
  | 'n' => some '\n'
  | 'r' => some '\r'
  | 't' => some '\t'
  | _ => none

/-- The worth of a hexadecimal digit. -/
def hexDigit? (c : Char) : Option Nat :=
  if c.isDigit then some (c.toNat - '0'.toNat)
  else if 'a' ≤ c ∧ c ≤ 'f' then some (c.toNat - 'a'.toNat + 10)
  else if 'A' ≤ c ∧ c ≤ 'F' then some (c.toNat - 'A'.toNat + 10)
  else none

/-- The parts of a string up to its closing quote, after the parts `done`, last first, and
the text after the quote. -/
def readString? (spot : StringSpot) (done : List StringPart) :
    List Char → Option (List StringPart × List Char)
  | [] => none
  | c :: cs =>
    match spot with
    | .plain =>
      if c = '"' then some (done.reverse, cs)
      else if c = '\\' then readString? .escape done cs
      else if c.toNat < 0x20 then none
      else readString? .plain (.char c :: done) cs
    | .escape =>
      if c = 'u' then readString? (.codeUnit 4 0) done cs
      else
        match escaped? c with
        | some c => readString? .plain (.char c :: done) cs
        | none => none
    | .codeUnit left unit =>
      match hexDigit? c with
      | none => none
      | some d =>
        let unit := 16 * unit + d
        if 1 < left then readString? (.codeUnit (left - 1) unit) done cs
        else readString? .plain (.codeUnit unit :: done) cs

/-- Whether `n` is the first half of a surrogate pair. -/
def isHighSurrogate (n : Nat) : Bool :=
  0xD800 ≤ n && n < 0xDC00

/-- Whether `n` is the second half of a surrogate pair. -/
def isLowSurrogate (n : Nat) : Bool :=
  0xDC00 ≤ n && n < 0xE000

/-- The characters of a string's parts. A pair of surrogates makes one character, and a
surrogate out of a pair makes none. -/
def assemble? : List StringPart → Option (List Char)
  | [] => some []
  | .char c :: parts => (assemble? parts).map (c :: ·)
  | .codeUnit high :: .codeUnit low :: parts =>
    if isHighSurrogate high then
      if isLowSurrogate low then
        let code := 0x10000 + (high - 0xD800) * 0x400 + (low - 0xDC00)
        (assemble? parts).map (Char.ofNat code :: ·)
      else none
    else if isLowSurrogate high then none
    else (assemble? (.codeUnit low :: parts)).map (Char.ofNat high :: ·)
  | .codeUnit n :: parts =>
    if isHighSurrogate n || isLowSurrogate n then none
    else (assemble? parts).map (Char.ofNat n :: ·)

/-! ## All tokens -/

/-- Whether `c` may stand between tokens. -/
def isSpace (c : Char) : Bool :=
  c = ' ' || c = '\t' || c = '\n' || c = '\r'

/-- The next token of the text, and the text after it. -/
def Token.next? (cs : List Char) : Option (Token × List Char) :=
  match cs.dropWhile isSpace with
  | [] => none
  | '[' :: cs => some (.openArray, cs)
  | ']' :: cs => some (.closeArray, cs)
  | '\x7b' :: cs => some (.openObject, cs)
  | '\x7d' :: cs => some (.closeObject, cs)
  | ':' :: cs => some (.colon, cs)
  | ',' :: cs => some (.comma, cs)
  | 'n' :: 'u' :: 'l' :: 'l' :: cs => some (.scalar (some .null), cs)
  | 't' :: 'r' :: 'u' :: 'e' :: cs => some (.scalar (some (.bool true)), cs)
  | 'f' :: 'a' :: 'l' :: 's' :: 'e' :: cs => some (.scalar (some (.bool false)), cs)
  | '"' :: cs =>
    (readString? .plain [] cs).map fun (parts, cs) =>
      (.string ((assemble? parts).map String.ofList), cs)
  | cs => (Numeral.read? cs).map fun (n, cs) => (.scalar n.toJson?, cs)

end TileAdventure.Json
