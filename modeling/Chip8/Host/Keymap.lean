import Chip8.Key

/-!
# Keymap

The left-hand block of a keyboard laid over the keypad, and the key that counts as held. Terminals
rarely report releases, so a press holds its key for some frames after it was last reported.
-/

namespace Chip8

/-- The held key and the frames it is still held for. -/
structure Keymap where
  held : Option (Key × Nat) := none
  deriving DecidableEq, Repr

namespace Keymap

def holdFrames : Nat := 6

def layout : List (Char × Key) :=
  [('1', 0x1), ('2', 0x2), ('3', 0x3), ('4', 0xC),
   ('q', 0x4), ('w', 0x5), ('e', 0x6), ('r', 0xD),
   ('a', 0x7), ('s', 0x8), ('d', 0x9), ('f', 0xE),
   ('z', 0xA), ('x', 0x0), ('c', 0xB), ('v', 0xF)]

/-- The case of a letter does not matter. -/
def keyOf? (c : Char) : Option Key := layout.lookup c.toLower

def isMapped (c : Char) : Bool := (keyOf? c).isSome

def heldKey (m : Keymap) : Option Key := m.held.map Prod.fst

def press (m : Keymap) (c : Char) : Keymap :=
  match keyOf? c with
  | some k => ⟨some (k, holdFrames)⟩
  | none => m

/-- Only the held key can be released. -/
def release (m : Keymap) (c : Char) : Keymap :=
  if isMapped c && keyOf? c == m.heldKey then ⟨none⟩ else m

def endFrame (m : Keymap) : Keymap :=
  match m.held with
  | some (k, frames) => if 1 < frames then ⟨some (k, frames - 1)⟩ else ⟨none⟩
  | none => ⟨none⟩

end Keymap

end Chip8
