import Chip8.Word

/-!
# Operand layouts

An instruction takes some of five operands: the registers `x` and `y`, the nibble `n`, the byte `kk`
and the address `nnn`. A layout says which of them an opcode carries and in which of its bits.
-/

namespace Chip8

inductive Operand where
  | x | y | n | kk | nnn
  deriving DecidableEq, Repr

inductive Layout where
  | bare | nnn | x | xkk | xy | xyn
  deriving DecidableEq, Repr

/-- Values of the operands. Those that a layout does not use are zero. -/
structure Operands where
  x : Nibble := 0
  y : Nibble := 0
  n : Nibble := 0
  kk : Byte := 0
  nnn : BitVec 12 := 0
  deriving DecidableEq, Repr

namespace Operand

def name : Operand → String
  | x => "x"
  | y => "y"
  | n => "n"
  | kk => "kk"
  | nnn => "nnn"

def value (o : Operands) : Operand → Nat
  | x => o.x.toNat
  | y => o.y.toNat
  | n => o.n.toNat
  | kk => o.kk.toNat
  | nnn => o.nnn.toNat

end Operand

namespace Layout

def all : List Layout := [bare, nnn, x, xkk, xy, xyn]

def name : Layout → String
  | bare => "None"
  | nnn => "Nnn"
  | x => "X"
  | xkk => "Xkk"
  | xy => "Xy"
  | xyn => "Xyn"

def ofName? (s : String) : Option Layout := all.find? (·.name == s)

def operands : Layout → List Operand
  | bare => []
  | nnn => [.nnn]
  | x => [.x]
  | xkk => [.x, .kk]
  | xy => [.x, .y]
  | xyn => [.x, .y, .n]

/-- The bits of an opcode that hold the operands. -/
def bits : Layout → Opcode
  | bare => 0x0000
  | nnn => 0x0FFF
  | x => 0x0F00
  | xkk => 0x0FFF
  | xy => 0x0FF0
  | xyn => 0x0FFF

def extract (w : Opcode) : Layout → Operands
  | bare => {}
  | nnn => { nnn := w.extractLsb' 0 12 }
  | x => { x := w.extractLsb' 8 4 }
  | xkk => { x := w.extractLsb' 8 4, kk := w.extractLsb' 0 8 }
  | xy => { x := w.extractLsb' 8 4, y := w.extractLsb' 4 4 }
  | xyn => { x := w.extractLsb' 8 4, y := w.extractLsb' 4 4, n := w.extractLsb' 0 4 }

theorem ofName?_name (l : Layout) : ofName? l.name = some l := by
  cases l <;> decide

end Layout

end Chip8
