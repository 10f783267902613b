import TileAdventure.Decimal.Binary

/-!
# Numerals in a command line

`Numeral.read?` reads a decimal number as a player types it: an optional sign, then `inf`,
`infinity` or `nan` in any case, or digits with an optional point and an optional exponent.
At least one digit stands before the exponent. `readNatural?` reads a whole number, with an
optional plus.
-/

namespace TileAdventure.Decimal

/-- The value of a list of decimal digits that follow `start`. -/
def digitsValue (start : Nat) (digits : List Char) : Nat :=
  digits.foldl (fun n c => 10 * n + (c.toNat - '0'.toNat)) start

/-- A number as read. -/
inductive Numeral
  /-- `significand * 10 ^ exponent`, negated if `negative`. -/
  | finite (negative : Bool) (significand : Nat) (exponent : Int)
  | infinite (negative : Bool)
  | nan

namespace Numeral

/-- The exponent that `cs` denotes: nothing, or an `e`, an optional sign and digits. -/
def exponent? : List Char → Option Int
  | [] => some 0
  | e :: cs =>
    if e ≠ 'e' ∧ e ≠ 'E' then none
    else
      let (negative, digits) :=
        match cs with
        | '-' :: digits => (true, digits)
        | '+' :: digits => (false, digits)
        | digits => (false, digits)
      if digits.isEmpty || !digits.all Char.isDigit then none
      else
        let n := digitsValue 0 digits
        some (if negative then -n else n)

/-- The number that the unsigned text `cs` denotes. -/
def unsigned? (negative : Bool) (cs : List Char) : Option Numeral :=
  let name := String.ofList (cs.map Char.toLower)
  if name = "inf" ∨ name = "infinity" then some (.infinite negative)
  else if name = "nan" then some .nan
  else
    let whole := cs.takeWhile Char.isDigit
    let rest := cs.dropWhile Char.isDigit
    let (fraction, rest) :=
      match rest with
      | '.' :: rest => (rest.takeWhile Char.isDigit, rest.dropWhile Char.isDigit)
      | rest => ([], rest)
    if whole.isEmpty && fraction.isEmpty then none
    else
      (exponent? rest).map fun e =>
        .finite negative (digitsValue (digitsValue 0 whole) fraction) (e - fraction.length)

/-- The number that `cs` denotes. -/
def read? : List Char → Option Numeral
  | '-' :: cs => unsigned? true cs
  | '+' :: cs => unsigned? false cs
  | cs => unsigned? false cs

/-- The nearest double. -/
def toDouble : Numeral → Float
  | .finite negative significand exponent =>
    let x := Decimal.toDouble significand exponent
    if negative then -x else x
  | .infinite negative => if negative then -(1.0 / 0.0) else 1.0 / 0.0
  | .nan => 0.0 / 0.0

/-- The nearest single. -/
def toSingle : Numeral → Float32
  | .finite negative significand exponent =>
    let x := Decimal.toSingle significand exponent
    if negative then -x else x
  | .infinite negative => if negative then -(1.0 / 0.0) else 1.0 / 0.0
  | .nan => 0.0 / 0.0

end Numeral

/-- The whole number below `2 ^ 64` that `cs` denotes: digits after an optional plus. -/
def readNatural? (cs : List Char) : Option Nat :=
  let digits :=
    match cs with
    | '+' :: digits => digits
    | digits => digits
  if digits.isEmpty || !digits.all Char.isDigit then none
  else
    let n := digitsValue 0 digits
    if n < 2 ^ 64 then some n else none

end TileAdventure.Decimal
