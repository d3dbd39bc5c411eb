import Chip8.Instruction.Decode
import Chip8.Instruction.Template

/-!
# Disassembly

The text of an opcode, and the listing of a program image word by word.
-/

namespace Chip8

def Decoded.text (d : Decoded) (radix : Radix) : String :=
  Template.fill radix d.operands d.op.encoding.mnemonic

def disassembleIn (radix : Radix) (w : Opcode) : Except DecodeError String :=
  match decode w with
  | .ok d => .ok (d.text radix)
  | .error e => .error e

/-- Literals are hexadecimal unless asked for otherwise: `6A05` is `LD VA, 5`. -/
def disassemble (w : Opcode) : Except DecodeError String := disassembleIn .hex w

/-- A row of a listing, and of a trace. -/
def disassemblyRow (address : Nat) (w : Opcode) (text : String) : String :=
  s!"{Numeral.hexPadded 3 address}: {Numeral.hexPadded 4 w.toNat}  {text}"

theorem disassembleIn_eq_ok_iff {radix : Radix} {w : Opcode} {text : String} :
    disassembleIn radix w = .ok text ↔ ∃ d, decode w = .ok d ∧ d.text radix = text := by
  unfold disassembleIn
  cases decode w <;> simp

theorem disassembleIn_eq_error_iff {radix : Radix} {w : Opcode} {e : DecodeError} :
    disassembleIn radix w = .error e ↔ decode w = .error e := by
  unfold disassembleIn
  cases decode w <;> simp

end Chip8
