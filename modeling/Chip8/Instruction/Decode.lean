import Chip8.Fault
import Chip8.Instruction.Op

/-!
# Decoding

An opcode is resolved to the first instruction that accepts it, with the operands cut out.
-/

namespace Chip8

structure Decoded where
  opcode : Opcode
  op : Op
  operands : Operands
  deriving DecidableEq, Repr

def decode (w : Opcode) : Except DecodeError Decoded :=
  match Encoding.firstMatch? Op.encoding Op.all w with
  | some op => .ok ⟨w, op, op.encoding.layout.extract w⟩
  | none => .error (.unknownOpcode w)

theorem decode_opcode {w : Opcode} {d : Decoded} (h : decode w = .ok d) : d.opcode = w := by
  unfold decode at h
  split at h
  · cases h; rfl
  · cases h

theorem decode_operands {w : Opcode} {d : Decoded} (h : decode w = .ok d) :
    d.operands = d.op.encoding.layout.extract w := by
  unfold decode at h
  split at h
  · cases h; rfl
  · cases h

theorem decode_accepts {w : Opcode} {d : Decoded} (h : decode w = .ok d) :
    d.op.encoding.accepts w = true := by
  unfold decode at h
  split at h
  · rename_i op hop
    cases h
    exact List.find?_some (p := fun r => (Op.encoding r).accepts w) hop
  · cases h

end Chip8
