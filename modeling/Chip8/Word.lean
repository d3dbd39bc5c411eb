/-!
# Words

The fixed widths of the machine. Registers, timers and memory cells hold bytes, an opcode is two
bytes with the more significant one first, and an operand is cut out of an opcode.
-/

namespace Chip8

abbrev Byte := BitVec 8

/-- Names a register, or counts the rows of a sprite. -/
abbrev Nibble := BitVec 4

abbrev Opcode := BitVec 16

/-- The opcode stored as `high` followed by `low`. -/
def Opcode.ofBytes (high low : Byte) : Opcode := high ++ low

end Chip8
