import Chip8.Instruction.Layout
import Chip8.Numeral

/-!
# Encodings

An encoding is one row of an instruction table: the bits that an opcode must show, the layout of its
operands and the template of its mnemonic. A table is searched from the top, so that an opcode which
several rows accept belongs to the first of them.
-/

namespace Chip8

structure Encoding where
  name : String
  pattern : Opcode
  mask : Opcode
  layout : Layout
  /-- A template in which the names of operands stand in braces. -/
  mnemonic : String
  deriving DecidableEq, Repr

namespace Encoding

def accepts (e : Encoding) (w : Opcode) : Bool := w &&& e.mask == e.pattern

/-- Rows are told apart by their bits alone. -/
def sameBits (e f : Encoding) : Bool := e.pattern == f.pattern && e.mask == f.mask

def describe (e : Encoding) : String :=
  let pattern := Numeral.hexMarked 4 e.pattern.toNat
  let mask := Numeral.hexMarked 4 e.mask.toNat
  s!"Instruction \x7b name: \"{e.name}\", pattern: {pattern}, mask: {mask}, layout: {e.layout.name} \x7d"

/-- The first of `rows` whose encoding accepts `w`. -/
def firstMatch? {α : Type} (encoding : α → Encoding) (rows : List α) (w : Opcode) : Option α :=
  rows.find? fun r => (encoding r).accepts w

/-- All of `rows` whose encoding accepts `w`, in table order. -/
def allMatches {α : Type} (encoding : α → Encoding) (rows : List α) (w : Opcode) : List α :=
  rows.filter fun r => (encoding r).accepts w

theorem firstMatch?_eq_head? {α : Type} (encoding : α → Encoding) (rows : List α) (w : Opcode) :
    firstMatch? encoding rows w = (allMatches encoding rows w).head? := by
  simp [firstMatch?, allMatches]

end Encoding

end Chip8
