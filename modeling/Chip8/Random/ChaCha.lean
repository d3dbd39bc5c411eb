import Chip8.Random.Generator

/-!
# Seeded random numbers

The ChaCha stream with twelve rounds and a zero nonce, keyed by eight words that a linear
congruential generator draws from a 64-bit seed. Equal seeds give equal streams.
-/

namespace Chip8.ChaCha

abbrev Block := Vector UInt32 16

def rotateLeft (w k : UInt32) : UInt32 := (w <<< k) ||| (w >>> (32 - k))

/-- Right by up to 31 places; no rotation for zero, since shifts take their amount modulo the width. -/
def rotateRight (w k : UInt32) : UInt32 := (w >>> k) ||| (w <<< (32 - k))

def word (s : Block) (i : Nat) : UInt32 := s.getD i 0

def quarterRound (s : Block) (a b c d : Nat) : Block :=
  let s := s.setIfInBounds a (word s a + word s b)
  let s := s.setIfInBounds d (rotateLeft (word s d ^^^ word s a) 16)
  let s := s.setIfInBounds c (word s c + word s d)
  let s := s.setIfInBounds b (rotateLeft (word s b ^^^ word s c) 12)
  let s := s.setIfInBounds a (word s a + word s b)
  let s := s.setIfInBounds d (rotateLeft (word s d ^^^ word s a) 8)
  let s := s.setIfInBounds c (word s c + word s d)
  s.setIfInBounds b (rotateLeft (word s b ^^^ word s c) 7)

/-- The four columns, then the four diagonals. -/
def doubleRound (s : Block) : Block :=
  let s := quarterRound s 0 4 8 12
  let s := quarterRound s 1 5 9 13
  let s := quarterRound s 2 6 10 14
  let s := quarterRound s 3 7 11 15
  let s := quarterRound s 0 5 10 15
  let s := quarterRound s 1 6 11 12
  let s := quarterRound s 2 7 8 13
  quarterRound s 3 4 9 14

def rounds (n : Nat) (s : Block) : Block := Nat.repeat doubleRound (n / 2) s

def constants : List UInt32 := [0x61707865, 0x3320646e, 0x79622d32, 0x6b206574]

/-- What the rounds start from: constants, key, block number with its low word first, and nonce. -/
def start (key : List UInt32) (block : UInt64) : Block :=
  let words := constants ++ key ++ [block.toUInt32, (block >>> 32).toUInt32]
  Vector.ofFn fun i => words.getD i 0

def block (key : List UInt32) (n : UInt64) : Block :=
  let s := start key n
  Vector.zipWith (· + ·) (rounds 12 s) s

/-- One step of the congruential generator. -/
def nextSeed (s : UInt64) : UInt64 := s * 6364136223846793005 + 11634580027462260723

def keyWord (s : UInt64) : UInt32 :=
  rotateRight ((((s >>> 18) ^^^ s) >>> 27).toUInt32) ((s >>> 59).toUInt32)

def keyWords : Nat → UInt64 → List UInt32
  | 0, _ => []
  | n + 1, s => keyWord (nextSeed s) :: keyWords n (nextSeed s)

def key (seed : UInt64) : List UInt32 := keyWords 8 seed

/-- The words of block zero in order, then those of block one, and so on. -/
def seeded (seed : UInt64) : Generator :=
  let k := key seed
  { words := fun n => word (block k (UInt64.ofNat (n / 16))) (n % 16) }

end Chip8.ChaCha
