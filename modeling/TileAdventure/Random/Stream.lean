import TileAdventure.Random.Source

/-!
# The seeded stream

The words of a play-through come from the ChaCha key stream with twelve rounds. Any key will do;
from a number of 64 bits one is drawn by a linear congruential generator with permuted output.
The nonce is zero, and blocks are counted from zero. A stream is its key and the number of words
taken, so a stream never runs dry and equal streams yield equal words.
-/

namespace TileAdventure.Random

/-- Four 32-bit words. -/
structure Row where
  a : UInt32
  b : UInt32
  c : UInt32
  d : UInt32

namespace Row

/-- Apply `f` place by place. -/
def zip (f : UInt32 → UInt32 → UInt32) (s t : Row) : Row :=
  ⟨f s.a t.a, f s.b t.b, f s.c t.c, f s.d t.d⟩

/-- Rotate each word left by `n` bits, for `0 < n < 32`. -/
def rotateBits (n : UInt32) (s : Row) : Row :=
  let rotate (x : UInt32) := x <<< n ||| x >>> (32 - n)
  ⟨rotate s.a, rotate s.b, rotate s.c, rotate s.d⟩

/-- Move each word one place to the left, around the end. -/
def turn (s : Row) : Row :=
  ⟨s.b, s.c, s.d, s.a⟩

/-- The words in order. -/
def words (s : Row) : List UInt32 :=
  [s.a, s.b, s.c, s.d]

end Row

/-- The four rows of a block. -/
structure Block where
  r0 : Row
  r1 : Row
  r2 : Row
  r3 : Row

namespace Block

/-- A round on the four columns. -/
def columnRound (s : Block) : Block :=
  let r0 := s.r0.zip (· + ·) s.r1
  let r3 := (s.r3.zip (· ^^^ ·) r0).rotateBits 16
  let r2 := s.r2.zip (· + ·) r3
  let r1 := (s.r1.zip (· ^^^ ·) r2).rotateBits 12
  let r0 := r0.zip (· + ·) r1
  let r3 := (r3.zip (· ^^^ ·) r0).rotateBits 8
  let r2 := r2.zip (· + ·) r3
  let r1 := (r1.zip (· ^^^ ·) r2).rotateBits 7
  ⟨r0, r1, r2, r3⟩

/-- A round on the four diagonals: turn them into columns and back. -/
def diagonalRound (s : Block) : Block :=
  let t := columnRound ⟨s.r0, s.r1.turn, s.r2.turn.turn, s.r3.turn.turn.turn⟩
  ⟨t.r0, t.r1.turn.turn.turn, t.r2.turn.turn, t.r3.turn⟩

/-- `n` column rounds, each followed by a diagonal round. -/
def doubleRounds : Nat → Block → Block
  | 0, s => s
  | n + 1, s => doubleRounds n s.columnRound.diagonalRound

/-- Place by place sum. -/
def add (s t : Block) : Block :=
  let sum := Row.zip (· + ·)
  ⟨sum s.r0 t.r0, sum s.r1 t.r1, sum s.r2 t.r2, sum s.r3 t.r3⟩

/-- The words in order. -/
def words (s : Block) : List UInt32 :=
  s.r0.words ++ s.r1.words ++ s.r2.words ++ s.r3.words

end Block

/-- A stream's key. -/
structure Key where
  low : Row
  high : Row

namespace Key

/-- The next state of the generator that expands a seed. -/
def expandState (state : UInt64) : UInt64 :=
  state * 6364136223846793005 + 11634580027462260723

/-- The word that a state of that generator yields. -/
def expandWord (state : UInt64) : UInt32 :=
  let x := ((state >>> 18 ^^^ state) >>> 27).toUInt32
  let turn := (state >>> 59).toUInt32
  x >>> turn ||| x <<< ((32 - turn) % 32)

/-- Four words of the expansion, and the state after them. -/
def expandRow (s : UInt64) : Row × UInt64 :=
  let s1 := expandState s
  let s2 := expandState s1
  let s3 := expandState s2
  let s4 := expandState s3
  (⟨expandWord s1, expandWord s2, expandWord s3, expandWord s4⟩, s4)

/-- The key of a number. -/
def ofNumber (n : UInt64) : Key :=
  let (low, state) := expandRow n
  ⟨low, (expandRow state).1⟩

/-- Block `index` of the key stream. -/
def block (key : Key) (index : UInt64) : Block :=
  let start : Block :=
    ⟨⟨0x61707865, 0x3320646e, 0x79622d32, 0x6b206574⟩, key.low, key.high,
      ⟨index.toUInt32, (index >>> 32).toUInt32, 0, 0⟩⟩
  (start.doubleRounds 6).add start

/-- The 64-bit word at `position` of the key stream. Two words of a block make one, the
lower half first. -/
def wordAt (key : Key) (position : Nat) : UInt64 :=
  let words := (key.block (UInt64.ofNat (position / 8))).words
  let half (i : Nat) := (words.getD (2 * (position % 8) + i) 0).toUInt64
  half 0 ||| half 1 <<< 32

end Key

/-- What decides the words of a play-through: a number that somebody chose, or a whole key that
nobody did. -/
inductive Seed where
  | number (n : UInt64)
  | key (key : Key)

namespace Seed

instance : Coe UInt64 Seed := ⟨number⟩

instance (n : Nat) : OfNat Seed n := ⟨number (OfNat.ofNat n)⟩

/-- The key of a seed. -/
def toKey : Seed → Key
  | number n => .ofNumber n
  | key k => k

end Seed

/-- A key stream of which the first `taken` words have been taken. -/
structure Stream where
  key : Key
  taken : Nat

namespace Stream

/-- The whole stream of a seed. -/
def ofSeed (seed : Seed) : Stream :=
  ⟨seed.toKey, 0⟩

instance : Source Stream where
  next stream := (stream.key.wordAt stream.taken, { stream with taken := stream.taken + 1 })

end Stream

end TileAdventure.Random
