import TileAdventure.Decimal.Numeral
import TileAdventure.Json.Value

/-!
# Numbers in JSON text

A number without point and exponent that fits 64 bits is an integer; any other is a double.
The double is computed from a significand of 64 bits: digits beyond it only scale (before
the point) or are dropped (after it), and the power of ten is multiplied or divided in
floating point. So the last bit may differ from the nearest double, and a number beyond the
largest double is refused.
-/

namespace TileAdventure.Json

/-- The parts of a number in JSON text. -/
structure Numeral where
  negative : Bool
  /-- The digits before the point. -/
  whole : List Char
  /-- The digits after the point, if there is one. -/
  fraction : Option (List Char)
  /-- The exponent, if there is one. -/
  exponent : Option Int

namespace Numeral

/-- Append digits to the significand while it stays below `2 ^ 64`. The result is the
significand and the number of digits left over. -/
def accumulate : Nat → List Char → Nat × Nat
  | n, [] => (n, 0)
  | n, c :: cs =>
    let n' := 10 * n + (c.toNat - '0'.toNat)
    if n' < 2 ^ 64 then accumulate n' cs else (n, cs.length + 1)

/-- Divide `x` by `10 ^ n`, in steps of at most `10 ^ 308`. -/
def scaleDown (n : Nat) (x : Float) : Float :=
  if n ≤ 308 then x / Decimal.toDouble 1 n
  else if x == 0 then x
  else scaleDown (n - 308) (x / Decimal.toDouble 1 308)
termination_by n

/-- `significand * 10 ^ exponent` in floating point, if it is finite. -/
def scale? (significand : Nat) (exponent : Int) : Option Float :=
  let x := (UInt64.ofNat significand).toFloat
  if exponent < 0 then some (scaleDown exponent.natAbs x)
  else if exponent ≤ 308 then
    let y := x * Decimal.toDouble 1 exponent
    if y.isInf then none else some y
  else if x == 0 then some x
  else none

/-- The double of a numeral, if it is finite. -/
def toFloat? (n : Numeral) : Option Float :=
  let (whole, dropped) := accumulate 0 n.whole
  let (significand, unused) := accumulate whole (n.fraction.getD [])
  let places : Int := (n.fraction.getD []).length - unused
  (scale? significand (dropped - places + n.exponent.getD 0)).map fun x =>
    if n.negative then -x else x

/-- The value of a numeral, if it is finite. Minus zero is not an integer. -/
def toJson? (n : Numeral) : Option Json :=
  let value := Decimal.digitsValue 0 n.whole
  let fits := if n.negative then 0 < value && value ≤ 2 ^ 63 else value < 2 ^ 64
  if n.fraction.isNone && n.exponent.isNone && fits then
    some (.integer (if n.negative then -value else value))
  else n.toFloat?.map .float

/-- A run of digits at the head of the text, and the text after it. -/
def digits (cs : List Char) : List Char × List Char :=
  (cs.takeWhile Char.isDigit, cs.dropWhile Char.isDigit)

/-- The fraction at the head of the text, if there is one. A point needs a digit after it. -/
def readFraction? : List Char → Option (Option (List Char) × List Char)
  | '.' :: cs =>
    let (fraction, cs) := digits cs
    if fraction.isEmpty then none else some (some fraction, cs)
  | cs => some (none, cs)

/-- The exponent at the head of the text, if there is one. It needs a digit. -/
def readExponent? (cs : List Char) : Option (Option Int × List Char) :=
  match cs with
  | [] => some (none, [])
  | e :: rest =>
    if e ≠ 'e' ∧ e ≠ 'E' then some (none, cs)
    else
      let (negative, rest) :=
        match rest with
        | '-' :: rest => (true, rest)
        | '+' :: rest => (false, rest)
        | rest => (false, rest)
      let (exponent, rest) := digits rest
      if exponent.isEmpty then none
      else
        let n := Decimal.digitsValue 0 exponent
        some (some (if negative then -n else n), rest)

/-- The numeral at the head of the text. Its whole part has a digit, and no zero before
another digit. -/
def read? (cs : List Char) : Option (Numeral × List Char) := do
  let (negative, cs) :=
    match cs with
    | '-' :: cs => (true, cs)
    | cs => (false, cs)
  let (whole, cs) := digits cs
  if whole.isEmpty || (whole.head? = some '0' && 1 < whole.length) then none
  let (fraction, cs) ← readFraction? cs
  let (exponent, cs) ← readExponent? cs
  return (⟨negative, whole, fraction, exponent⟩, cs)

end Numeral

end TileAdventure.Json
