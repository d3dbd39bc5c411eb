import Chip8.Numeral
import Chip8.Word

/-!
# Keys

The keypad has sixteen keys, named by the hexadecimal digits. How a host's keyboard maps onto them is
up to the host.
-/

namespace Chip8

abbrev Key := Fin 16

namespace Key

def ofNat? (n : Nat) : Option Key :=
  if h : n < 16 then some ⟨n, h⟩ else none

/-- What a register holds after the key was stored in it. -/
def toByte (k : Key) : Byte := BitVec.ofNat 8 k.val

def text (k : Key) : String := Numeral.hex k.val

theorem toNat_toByte (k : Key) : k.toByte.toNat = k.val := by
  have := k.isLt
  simp only [toByte, BitVec.toNat_ofNat]
  omega

end Key

end Chip8
