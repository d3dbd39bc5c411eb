import Chip8.Instruction.Decode
import Chip8.Proofs.Declarations
import Mathlib.Tactic.IntervalCases

/-!
# Opcodes put together

The converse of cutting operands out of an opcode: the pattern of an encoding with operands put in
their places. A layout tells twice where its operands lie, by the bits that a declaration keeps out of
the mask (`Layout.bits`) and by what decoding cuts out (`Layout.extract`). Both mean the same bits.
-/

namespace Chip8

theorem Operand.forall_iff {P : Operand → Prop} :
    (∀ f, P f) ↔ P .x ∧ P .y ∧ P .n ∧ P .kk ∧ P .nnn := by
  constructor
  · intro h
    exact ⟨h _, h _, h _, h _, h _⟩
  · rintro ⟨hx, hy, hn, hkk, hnnn⟩ f
    cases f <;> assumption

/-- The operands, each where an opcode has it. -/
def Operands.bits (o : Operands) : Opcode :=
  o.x.setWidth 16 <<< 8 ||| o.y.setWidth 16 <<< 4 ||| o.n.setWidth 16 ||| o.kk.setWidth 16 |||
    o.nnn.setWidth 16

/-- The opcode of an encoding with the given operands. -/
def Encoding.assemble (e : Encoding) (o : Operands) : Opcode := e.pattern ||| o.bits

namespace Layout

/-- Operands that leave at zero what the layout does not use. -/
def Holds (l : Layout) (o : Operands) : Prop := ∀ f, f ∉ l.operands → Operand.value o f = 0

variable {l : Layout} {o : Operands}

theorem extract_holds (l : Layout) (w : Opcode) : l.Holds (l.extract w) := by
  rw [Holds, Operand.forall_iff]
  cases l <;> simp [operands, extract, Operand.value]

theorem bits_extract (l : Layout) (w : Opcode) : (l.extract w).bits = w &&& l.bits := by
  apply BitVec.eq_of_getLsbD_eq
  intro i hi
  cases l <;>
  · simp only [extract, Operands.bits, bits, BitVec.getLsbD_or, BitVec.getLsbD_and,
      BitVec.getLsbD_shiftLeft, BitVec.getLsbD_setWidth, BitVec.getLsbD_extractLsb']
    interval_cases i <;> simp

theorem extract_bits (ho : l.Holds o) : l.extract o.bits = o := by
  have hzero {n : Nat} {b : BitVec n} : b.toNat = 0 ↔ b = 0#n := by
    rw [← BitVec.toNat_inj, BitVec.toNat_zero]
  obtain ⟨x, y, n, kk, nnn⟩ := o
  simp only [Holds, Operand.forall_iff, Operand.value, hzero] at ho
  -- With the unused operands at zero, each bit that is cut out comes from one operand only.
  cases l <;>
  · simp only [operands, List.mem_cons, List.not_mem_nil, reduceCtorEq, or_false, false_or,
      not_true_eq_false, not_false_eq_true, false_implies, forall_const, true_and] at ho
    simp only [ho, extract, Operands.bits, Operands.mk.injEq]
    refine ⟨?_, ?_, ?_, ?_, ?_⟩ <;>
    · apply BitVec.eq_of_getLsbD_eq
      intro i hi
      interval_cases i <;> simp

/-- A layout sees its own bits of an opcode and no others. -/
theorem extract_eq_iff (l : Layout) (w w' : Opcode) :
    l.extract w = l.extract w' ↔ w &&& l.bits = w' &&& l.bits := by
  constructor
  · intro h
    rw [← bits_extract, ← bits_extract, h]
  · intro h
    rw [← extract_bits (extract_holds l w), ← extract_bits (extract_holds l w'), bits_extract,
      bits_extract, h]

theorem Holds.bits_and (ho : l.Holds o) : o.bits &&& l.bits = o.bits := by
  rw [← bits_extract, extract_bits ho]

end Layout

namespace Encoding

variable {e f : Encoding} {o : Operands} {w : Opcode}

theorem accepts_iff : e.accepts w = true ↔ w &&& e.mask = e.pattern := by
  rw [accepts, beq_iff_eq]

/-- The patterns of two rows that accept an opcode agree in the bits that both fix. -/
theorem patterns_agree (h : e.accepts w = true) (h' : f.accepts w = true) :
    e.pattern &&& f.mask = f.pattern &&& e.mask := by
  rw [← accepts_iff.mp h, ← accepts_iff.mp h', BitVec.and_assoc, BitVec.and_assoc,
    BitVec.and_comm e.mask]

theorem accepts_assemble (he : checkBits e.pattern e.mask e.layout = .ok ())
    (ho : e.layout.Holds o) : e.accepts (e.assemble o) = true := by
  obtain ⟨hpattern, hmask⟩ := checkBits_eq_ok_iff.mp he
  have hapart : o.bits &&& e.mask = 0#16 := by
    rw [← ho.bits_and, BitVec.and_assoc, BitVec.and_comm e.layout.bits, hmask, BitVec.and_zero]
  rw [accepts_iff, assemble, BitVec.and_or_distrib_right, hpattern, hapart, BitVec.or_zero]

theorem extract_assemble (he : checkBits e.pattern e.mask e.layout = .ok ())
    (ho : e.layout.Holds o) : e.layout.extract (e.assemble o) = o := by
  obtain ⟨hpattern, hmask⟩ := checkBits_eq_ok_iff.mp he
  have hapart : e.pattern &&& e.layout.bits = 0#16 := by
    rw [← hpattern, BitVec.and_assoc, hmask, BitVec.and_zero]
  have hsame : e.assemble o &&& e.layout.bits = o.bits &&& e.layout.bits := by
    rw [assemble, BitVec.and_or_distrib_right, hapart, BitVec.zero_or]
  rw [(Layout.extract_eq_iff _ _ _).mpr hsame, Layout.extract_bits ho]

/-- Nothing is lost when mask and operands together take all bits. -/
theorem assemble_extract (hfull : e.mask ||| e.layout.bits = 0xFFFF) (hw : e.accepts w = true) :
    e.assemble (e.layout.extract w) = w := by
  calc e.assemble (e.layout.extract w)
      = (w &&& e.mask) ||| (w &&& e.layout.bits) := by
        rw [assemble, Layout.bits_extract, accepts_iff.mp hw]
    _ = w &&& (e.mask ||| e.layout.bits) := BitVec.and_or_distrib_left.symm
    _ = w := by rw [hfull]; exact BitVec.and_allOnes

end Encoding

namespace Op

theorem mask_or_bits (op : Op) : op.encoding.mask ||| op.encoding.layout.bits = 0xFFFF := by
  cases op <;> rfl

end Op

theorem assemble_of_decode {w : Opcode} {d : Decoded} (h : decode w = .ok d) :
    d.op.encoding.assemble d.operands = w := by
  rw [decode_operands h]
  exact Encoding.assemble_extract d.op.mask_or_bits (decode_accepts h)

/-- Declarations and decoding agree on where operands lie. A declaration is accepted with the row that
it stands for and with no other. The check of the bits keeps the pattern within the mask and the mask
apart from the operands, and every row whose bits and mnemonic pass is declared by its own pattern and
mask. An encoding whose bits pass accepts the opcode made of its pattern and any operands that its
layout holds, and cuts just these operands out again. A layout tells two opcodes apart by its own bits
only. Where mask and operands take all bits, as in every row of the table, an accepted opcode is put
together again from its operands, and so is every opcode that can be decoded. -/
theorem operands_fit_opcodes :
    (∀ (d : Declaration) (e : Encoding), d.check = .ok e ↔ d.Makes e) ∧
    (∀ (pattern mask : Opcode) (l : Layout), checkBits pattern mask l = .ok () ↔
      pattern &&& mask = pattern ∧ mask &&& l.bits = 0) ∧
    (∀ e : Encoding, e.declaration.check = .ok e ↔
      checkBits e.pattern e.mask e.layout = .ok () ∧
        checkMnemonic e.layout e.mnemonic = .ok ()) ∧
    (∀ e : Encoding, checkBits e.pattern e.mask e.layout = .ok () →
      ∀ o : Operands, e.layout.Holds o →
        e.accepts (e.assemble o) = true ∧ e.layout.extract (e.assemble o) = o) ∧
    (∀ (l : Layout) (w w' : Opcode),
      l.extract w = l.extract w' ↔ w &&& l.bits = w' &&& l.bits) ∧
    (∀ e : Encoding, e.mask ||| e.layout.bits = 0xFFFF →
      ∀ w, e.accepts w = true → e.assemble (e.layout.extract w) = w) ∧
    (∀ op : Op, op.encoding.declaration.check = .ok op.encoding ∧
      checkBits op.encoding.pattern op.encoding.mask op.encoding.layout = .ok () ∧
      op.encoding.mask ||| op.encoding.layout.bits = 0xFFFF) ∧
    ∀ (w : Opcode) (d : Decoded), decode w = .ok d → d.op.encoding.assemble d.operands = w := by
  refine ⟨fun d e => Declaration.check_eq_ok_iff, fun pattern mask l => checkBits_eq_ok_iff,
    Encoding.check_declaration, ?_, Layout.extract_eq_iff, ?_, ?_, ?_⟩
  · intro e he o ho
    exact ⟨Encoding.accepts_assemble he ho, Encoding.extract_assemble he ho⟩
  · intro e hfull w hw
    exact Encoding.assemble_extract hfull hw
  · intro op
    exact ⟨op.check_declaration_encoding, op.checkBits_encoding, op.mask_or_bits⟩
  · intro w d hd
    exact assemble_of_decode hd

/-- `DRW V1, V2, 5`, and the declaration of a row that no table has, whose mask is given in decimal and
leaves two bits open. -/
theorem operands_fit_opcodes_D125 :
    let mnemonic := s!"LOOSE V{Mark.x}, V{Mark.y}"
    let loose : Encoding := ⟨"loose", 0x5001, 0xF003, .xy, mnemonic⟩
    let declared : Declaration :=
      ⟨"loose", some "0x5001", some "61_443u16", some "Xy", some mnemonic⟩
    (∃ d, decode 0xD125 = .ok d ∧ d.operands = { x := 1, y := 2, n := 5 } ∧
      d.op.encoding.assemble d.operands = 0xD125) ∧
    declared.check = .ok loose ∧ loose.declaration.check = .ok loose ∧
    loose.assemble { x := 0xA, y := 0xB } = 0x5AB1 ∧ loose.accepts 0x5AB1 = true ∧
      loose.layout.extract 0x5AB1 = { x := 0xA, y := 0xB } := by
  intro mnemonic loose declared
  obtain ⟨hcheck, hbits, hrow, hfit, _, _, _, hdecode⟩ := operands_fit_opcodes
  have hdeclared : declared.check = .ok loose := (hcheck declared loose).mpr
    { name := rfl
      pattern := ⟨_, rfl, by decide⟩
      mask := ⟨_, rfl, by decide +kernel⟩
      layout := ⟨_, rfl, by decide⟩
      mnemonic := rfl
      bits := (hbits _ _ _).mpr ⟨by decide, by decide⟩
      placeholders := by decide }
  have hmakes := (hcheck declared loose).mp hdeclared
  have hholds : loose.layout.Holds { x := 0xA, y := 0xB } := by
    rw [Layout.Holds, Operand.forall_iff]
    decide
  have hword : loose.assemble { x := 0xA, y := 0xB } = 0x5AB1 := by decide
  have hloose := hfit loose hmakes.bits _ hholds
  rw [hword] at hloose
  exact ⟨⟨_, rfl, rfl, hdecode _ _ rfl⟩, hdeclared,
    (hrow loose).mpr ⟨hmakes.bits, hmakes.placeholders⟩, hword, hloose⟩

end Chip8
