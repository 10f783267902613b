import TileAdventure.Power

/-!
# The fewest digits of a double

Between its two neighbours every finite double has an interval of reals that round to it.
`shortest` takes the coarsest grid of powers of ten with a point in that interval, and of
the points there the nearest to the double, so no shorter decimal reads back as the same
number. `render` writes the digits: positionally from `0.00001` up to sixteen digits before
the point, else with an exponent.
-/

namespace TileAdventure.Decimal

/-- A positive double as the significand and exponent of `significand * 2 ^ exponent`. -/
structure Dyadic where
  significand : Nat
  exponent : Int

/-- The dyadic form of a positive finite double, read from its bits. -/
def Dyadic.ofBits (bits : Nat) : Dyadic :=
  let stored := bits % 2 ^ 52
  match bits / 2 ^ 52 % 2 ^ 11 with
  | 0 => ⟨stored, -1074⟩
  | biased => ⟨stored + 2 ^ 52, biased - 1075⟩

namespace Dyadic

/-- The lower end of the interval that rounds to `d`, in quarters of its unit. The double
below a power of two is half as far away. -/
def low (d : Dyadic) : Nat :=
  if d.significand = 2 ^ 52 ∧ -1074 < d.exponent then 4 * d.significand - 1
  else 4 * d.significand - 2

/-- The upper end of the interval that rounds to `d`, in quarters of its unit. -/
def high (d : Dyadic) : Nat :=
  4 * d.significand + 2

/-- `x` quarters of the unit `2 ^ exponent`, counted in `10 ^ place`, as a numerator and a
denominator. -/
def onGrid (d : Dyadic) (place : Int) (x : Nat) : Nat × Nat :=
  let e := d.exponent - 2
  (x * 2 ^ e.toNat * 10 ^ (-place).toNat, 2 ^ (-e).toNat * 10 ^ place.toNat)

/-- Whether `c * 10 ^ place` rounds to `d`. The ends belong to the interval of an even
significand. -/
def hits (d : Dyadic) (place : Int) (c : Nat) : Bool :=
  let (low, den) := d.onGrid place d.low
  let (high, _) := d.onGrid place d.high
  if d.significand % 2 = 0 then low ≤ c * den && c * den ≤ high
  else low < c * den && c * den < high

/-- The point nearest to `d` among those of the grid `10 ^ place` that round to it. -/
def nearest? (d : Dyadic) (place : Int) : Option Nat :=
  let (num, den) := d.onGrid place (4 * d.significand)
  let below := num / den
  let above := below + 1
  match d.hits place below, d.hits place above with
  | true, false => some below
  | false, true => some above
  | false, false => none
  | true, true =>
    let twice := 2 * (num % den)
    if twice < den || (twice == den && below % 2 == 0) then some below else some above

/-- The decimal of fewest digits that reads back as `d`: its digits and the place of the
last of them, on the first grid from `10 ^ 310` down that has one. -/
def shortest (d : Dyadic) : Option (Nat × Int) :=
  ((List.range 640).map fun (i : Nat) => 310 - (i : Int)).findSome? fun place =>
    (d.nearest? place).map fun c => (c, place)

end Dyadic

/-- The exponent of a number in writing, with its sign. -/
def renderExponent (e : Int) : String :=
  (if e < 0 then "-" else "+") ++ toString e.natAbs

/-- Zeros in writing. -/
def zeros (n : Nat) : String :=
  String.ofList (List.replicate n '0')

/-- The digits `c` with the last of them at `place`, in writing. -/
def renderDigits (c : Nat) (place : Int) : String :=
  let digits := (toString c).toList
  let leading := digits.length + place - 1
  if 0 ≤ place ∧ leading < 16 then
    String.ofList digits ++ zeros place.toNat ++ ".0"
  else if 0 ≤ leading ∧ leading < 16 then
    String.ofList (digits.take (leading + 1).toNat) ++ "."
      ++ String.ofList (digits.drop (leading + 1).toNat)
  else if -5 ≤ leading ∧ leading < 0 then
    "0." ++ zeros (-leading - 1).toNat ++ String.ofList digits
  else
    let point := if digits.length = 1 then "" else "."
    String.ofList (digits.take 1) ++ point ++ String.ofList (digits.drop 1)
      ++ "e" ++ renderExponent leading

/-- A finite double in writing. -/
def render (x : Float) : String :=
  let bits := x.toBits.toNat
  let sign := if 2 ^ 63 ≤ bits then "-" else ""
  let digits :=
    if bits % 2 ^ 63 = 0 then none else (Dyadic.ofBits (bits % 2 ^ 63)).shortest
  match digits with
  | some (c, place) => sign ++ renderDigits c place
  | none => sign ++ "0.0"

end TileAdventure.Decimal
