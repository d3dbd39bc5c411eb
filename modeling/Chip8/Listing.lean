import Chip8.Disassembly
import Chip8.Machine.Memory

/-!
# Listings

A program image is listed two bytes to a line as if it lay at a base address. Data mixed into the
code shows up as lines without a mnemonic, and a trailing odd byte is not listed.
-/

namespace Chip8

structure Line where
  address : Nat
  opcode : Opcode
  text : Except DecodeError String

namespace Line

def render (l : Line) : String :=
  match l.text with
  | .ok text => disassemblyRow l.address l.opcode text
  | .error e => disassemblyRow l.address l.opcode ("; " ++ e.message)

end Line

/-- Ends with the last word that fits into memory. -/
def listing : List Byte → Nat → List Line
  | high :: low :: rest, a =>
    if a + 1 < Memory.size then
      let w := Opcode.ofBytes high low
      ⟨a, w, disassemble w⟩ :: listing rest (a + 2)
    else []
  | _, _ => []

end Chip8
