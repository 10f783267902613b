import TileAdventure.Power

/-!
# Binary floating-point formats

A format stores a finite number as a whole significand times a power of two. `encode` rounds
a ratio of natural numbers to the nearest number of a format, a tie going to the even
significand, and gives the bits that store it; `ofDecimal` does so for a significand times a
power of ten.
-/

namespace TileAdventure.Decimal

/-- A binary format: the stored bits of the significand, and the exponent of the least
positive number. -/
structure BinaryFormat where
  significandBits : Nat
  leastExponent : Int
  /-- The bits of infinity. -/
  infinity : Nat

namespace BinaryFormat

/-- The format of 64 bits. -/
def double : BinaryFormat :=
  ⟨52, -1074, 0x7FF0000000000000⟩

/-- The format of 32 bits. -/
def single : BinaryFormat :=
  ⟨23, -149, 0x7F800000⟩

end BinaryFormat

/-- `num / den` rounded to a natural number, a tie going to the even one. -/
def roundHalfEven (num den : Nat) : Nat :=
  let q := num / den
  let twice := 2 * (num % den)
  if den < twice || (twice == den && q % 2 == 1) then q + 1 else q

/-- The greatest `e` with `2 ^ e ≤ num / den`, for positive `num` and `den`. -/
def floorLog2 (num den : Nat) : Int :=
  let e : Int := num.log2 - den.log2
  if den * 2 ^ e.toNat ≤ num * 2 ^ (-e).toNat then e else e - 1

/-- The bits of the number of `format` nearest to `num / den`, for positive `den`. A
significand that rounds up to the next power of two carries into the exponent. -/
def BinaryFormat.encode (format : BinaryFormat) (num den : Nat) : Nat :=
  if num = 0 then 0
  else
    let exponent := max (floorLog2 num den - format.significandBits) format.leastExponent
    let significand := roundHalfEven (num * 2 ^ (-exponent).toNat) (den * 2 ^ exponent.toNat)
    let steps := (exponent - format.leastExponent).toNat
    min (steps * 2 ^ format.significandBits + significand) format.infinity

/-- The bits of the number of `format` nearest to `significand * 10 ^ exponent`. Exponents
far beyond every format are settled without computing the power. -/
def BinaryFormat.ofDecimal (format : BinaryFormat) (significand : Nat) (exponent : Int) : Nat :=
  if significand = 0 then 0
  else if 400 < exponent then format.infinity
  else if exponent < -400 - significand.log2 then 0
  else format.encode (significand * 10 ^ exponent.toNat) (10 ^ (-exponent).toNat)

/-- The double nearest to `significand * 10 ^ exponent`. -/
def toDouble (significand : Nat) (exponent : Int) : Float :=
  Float.ofBits (UInt64.ofNat (BinaryFormat.double.ofDecimal significand exponent))

/-- The single nearest to `significand * 10 ^ exponent`. -/
def toSingle (significand : Nat) (exponent : Int) : Float32 :=
  Float32.ofBits (UInt32.ofNat (BinaryFormat.single.ofDecimal significand exponent))

end TileAdventure.Decimal
