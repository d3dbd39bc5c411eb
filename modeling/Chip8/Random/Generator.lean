import Chip8.Word

/-!
# Random numbers

A source of random words and how many of them were used. The instruction `RND` takes the low byte of
one word; nothing else looks at the source.
-/

namespace Chip8

structure Generator where
  words : Nat → UInt32
  used : Nat := 0

namespace Generator

/-- The byte that the next draw gives. -/
def byte (g : Generator) : Byte := BitVec.ofNat 8 (g.words g.used).toNat

def advance (g : Generator) : Generator := { g with used := g.used + 1 }

/-- Gives the words of a list in turn, over and over. -/
def cycling (ws : Array UInt32) : Generator where
  words n := ws.getD (n % ws.size) 0

end Generator

end Chip8
