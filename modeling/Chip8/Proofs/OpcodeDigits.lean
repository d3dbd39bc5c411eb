import Chip8.Proofs.Assembly
import Chip8.Proofs.Faults

/-!
# Opcodes by their digits

Opcodes are named by four hexadecimal digits, such as `8xy4`, in which the operands stand for digits.
Apart from the bare opcodes among those of `SYS`, no opcode belongs to two rows of the table, so that
one made of a row's pattern and some operands is decoded to just these.
-/

namespace Chip8

namespace Op

/-- The rows of the table exclude each other, but for `CLS` and `RET`, whose opcodes `SYS` accepts too. -/
theorem eq_of_common_bits : ∀ op ∈ all, ∀ op' ∈ all, op ∉ [.cls, .ret, .sys] →
    op.encoding.pattern &&& op'.encoding.mask = op'.encoding.pattern &&& op.encoding.mask →
    op' = op := by
  decide +kernel

theorem eq_of_accepts {op op' : Op} {w : Opcode} (hop : op ∉ [.cls, .ret, .sys])
    (h : op.encoding.accepts w = true) (h' : op'.encoding.accepts w = true) : op' = op :=
  eq_of_common_bits op op.mem_all op' op'.mem_all hop (Encoding.patterns_agree h h')

end Op

theorem decode_assemble {op : Op} {o : Operands} (hop : op ∉ [.cls, .ret, .sys])
    (ho : op.encoding.layout.Holds o) :
    decode (op.encoding.assemble o) = .ok ⟨op.encoding.assemble o, op, o⟩ := by
  have haccepts := Encoding.accepts_assemble op.checkBits_encoding ho
  rw [decode_of_accepts haccepts fun _ h => Op.eq_of_accepts hop haccepts h,
    Encoding.extract_assemble op.checkBits_encoding ho]

namespace Opcode

/-- The opcode of four digits, the most significant one first. -/
def ofDigits (a x y n : Nibble) : Opcode := a ++ x ++ y ++ n

variable {op : Op} {a x y n : Nibble}

theorem ofDigits_eq (a x y n : Nibble) :
    ofDigits a x y n =
      a.setWidth 16 <<< 12 ||| x.setWidth 16 <<< 8 ||| y.setWidth 16 <<< 4 ||| n.setWidth 16 := by
  apply BitVec.eq_of_getLsbD_eq
  intro i hi
  simp only [ofDigits, BitVec.getLsbD_append, BitVec.getLsbD_or, BitVec.getLsbD_shiftLeft,
    BitVec.getLsbD_setWidth]
  interval_cases i <;> simp

/-- The digits in the places of `x` and `y` are put into the pattern. -/
theorem ofDigits_xy (a x y n : Nibble) :
    ofDigits a x y n = ofDigits a 0 0 n ||| ({ x := x, y := y } : Operands).bits := by
  simp only [ofDigits_eq, Operands.bits, BitVec.ofNat_eq_ofNat, BitVec.setWidth_zero,
    BitVec.zero_shiftLeft, BitVec.or_zero]
  ac_rfl

theorem ofDigits_x (a x y n : Nibble) :
    ofDigits a x y n = ofDigits a 0 y n ||| ({ x := x } : Operands).bits := by
  simp only [ofDigits_eq, Operands.bits, BitVec.ofNat_eq_ofNat, BitVec.setWidth_zero,
    BitVec.zero_shiftLeft, BitVec.or_zero]
  ac_rfl

theorem decode_xy (hop : op ∉ [.cls, .ret, .sys]) (hpattern : op.encoding.pattern = ofDigits a 0 0 n)
    (hlayout : op.encoding.layout = .xy) :
    decode (ofDigits a x y n) = .ok ⟨ofDigits a x y n, op, { x := x, y := y }⟩ := by
  have hword : op.encoding.assemble { x := x, y := y } = ofDigits a x y n := by
    rw [Encoding.assemble, hpattern, ← ofDigits_xy]
  rw [← hword]
  apply decode_assemble hop
  rw [hlayout, Layout.Holds, Operand.forall_iff]
  simp [Layout.operands, Operand.value]

theorem decode_x (hop : op ∉ [.cls, .ret, .sys]) (hpattern : op.encoding.pattern = ofDigits a 0 y n)
    (hlayout : op.encoding.layout = .x) :
    decode (ofDigits a x y n) = .ok ⟨ofDigits a x y n, op, { x := x }⟩ := by
  have hword : op.encoding.assemble { x := x } = ofDigits a x y n := by
    rw [Encoding.assemble, hpattern, ← ofDigits_x]
  rw [← hword]
  apply decode_assemble hop
  rw [hlayout, Layout.Holds, Operand.forall_iff]
  simp [Layout.operands, Operand.value]

end Opcode

end Chip8
