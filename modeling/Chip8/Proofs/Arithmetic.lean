import Chip8.Proofs.OpcodeDigits

/-!
# Arithmetic

The instructions `8xyk` compute with two registers, or with the one that is shifted, and six of them
report through the flag as well. The rule is given in numbers (`Computes`); it holds of the old values
whichever registers `x` and `y` are, the flag among them.
-/

namespace Chip8

/-- What `8xyk` computes from `a` in Vx, `b` in Vy and `s` in the register to be shifted: its result, and
what it reports if it reports anything. -/
inductive Computes (a b s : Nat) : Nibble → Nat → Option Bool → Prop
  | copy : Computes a b s 0x0 b none
  | or : Computes a b s 0x1 (a ||| b) none
  | and : Computes a b s 0x2 (a &&& b) none
  | xor : Computes a b s 0x3 (a ^^^ b) none
  | add : Computes a b s 0x4 ((a + b) % 256) (some (255 < a + b))
  | sub : Computes a b s 0x5 ((a + 256 - b) % 256) (some (b < a))
  | shr : Computes a b s 0x6 (s / 2) (some (s % 2 = 1))
  | subn : Computes a b s 0x7 ((b + 256 - a) % 256) (some (a < b))
  | shl : Computes a b s 0xE (2 * s % 256) (some (128 ≤ s))

/-- Result and report of an addition or a shift make up the whole of it. -/
theorem Computes.total {a b s : Nat} {k : Nibble} {result : Nat} {flag : Option Bool}
    (h : Computes a b s k result flag) (ha : a < 256) (hb : b < 256) (hs : s < 256) :
    (k = 0x4 → ∃ report, flag = some report ∧ 256 * report.toNat + result = a + b) ∧
      (k = 0x6 → ∃ report, flag = some report ∧ 2 * result + report.toNat = s) ∧
      (k = 0xE → ∃ report, flag = some report ∧ 256 * report.toNat + result = 2 * s) := by
  have hbit (p : Prop) [Decidable p] : (decide p).toNat = if p then 1 else 0 := by
    by_cases hp : p <;> simp [hp]
  cases h
  case add =>
    refine ⟨fun _ => ⟨_, rfl, ?_⟩, nofun, nofun⟩
    rw [hbit]
    split <;> omega
  case shr =>
    refine ⟨nofun, fun _ => ⟨_, rfl, ?_⟩, nofun⟩
    rw [hbit]
    split <;> omega
  case shl =>
    refine ⟨nofun, nofun, fun _ => ⟨_, rfl, ?_⟩⟩
    rw [hbit]
    split <;> omega
  all_goals exact ⟨nofun, nofun, nofun⟩

namespace Registers

/-- Puts the result of an instruction into a register, and then what it reports into the flag. -/
def put (v : Registers) (r : Nibble) (b : Byte) : Option Bool → Registers
  | none => v.set r b
  | some report => (v.set r b).setFlag report

variable {v : Registers} {r r' : Nibble} {b : Byte} {flag : Option Bool}

theorem get_put (h : r' ≠ flagRegister ∨ flag = none) :
    (v.put r b flag).get r' = if r' = r then b else v.get r' := by
  cases flag with
  | none => exact get_set v r r' b
  | some report =>
    have hne : r' ≠ flagRegister := by simpa using h
    rw [put, get_setFlag, if_neg hne, get_set]

theorem toNat_get_put_flag (v : Registers) (r : Nibble) (b : Byte) (report : Bool) :
    ((v.put r b (some report)).get flagRegister).toNat = report.toNat := by
  rw [put, get_setFlag, if_pos rfl]
  cases report <;> rfl

end Registers

/-! ### Bytes as numbers -/

namespace Byte

theorem toNat_sub (a b : Byte) : (a - b).toNat = (a.toNat + 256 - b.toNat) % 256 := by
  rw [BitVec.toNat_sub]
  omega

theorem toNat_shiftLeft_one (b : Byte) : (b <<< 1).toNat = 2 * b.toNat % 256 := by
  rw [BitVec.toNat_shiftLeft, Nat.shiftLeft_eq]
  omega

theorem toNat_ushiftRight_one (b : Byte) : (b >>> 1).toNat = b.toNat / 2 := by
  rw [BitVec.toNat_ushiftRight, Nat.shiftRight_eq_div_pow]

theorem msb_eq (b : Byte) : b.msb = decide (128 ≤ b.toNat) := BitVec.msb_eq_decide b

theorem getLsbD_zero (b : Byte) : b.getLsbD 0 = decide (b.toNat % 2 = 1) := Nat.testBit_zero b.toNat

end Byte

namespace State

theorem toNat_shiftOperand (c : Config) (s : State) (x y : Nibble) :
    (s.shiftOperand c { x := x, y := y }).toNat =
      match c.shiftSource with
      | .vy => (s.registers.get y).toNat
      | .vx => (s.registers.get x).toNat := by
  unfold shiftOperand
  cases c.shiftSource <;> rfl

end State

/-- Every rule is followed by an instruction, which then goes on with the next one. -/
theorem Op.exec_computes {c : Config} {g : Generator} {s : State} {x y k : Nibble} {result : Nat}
    {flag : Option Bool}
    (h : Computes (s.registers.get x).toNat (s.registers.get y).toNat
      (s.shiftOperand c { x := x, y := y }).toNat k result flag) :
    ∃ (op : Op) (b : Byte),
      decode (.ofDigits 8 x y k) = .ok ⟨.ofDigits 8 x y k, op, { x := x, y := y }⟩ ∧
      b.toNat = result ∧
      op.exec c { x := x, y := y } g s =
        .ok ({ s with registers := s.registers.put x b flag }, .next) := by
  let vx := s.registers.get x
  let vy := s.registers.get y
  let shifted := s.shiftOperand c { x := x, y := y }
  cases h
  case copy => exact ⟨ldReg, vy, Opcode.decode_xy (by decide) rfl rfl, rfl, rfl⟩
  case or => exact ⟨or, vx ||| vy, Opcode.decode_xy (by decide) rfl rfl, BitVec.toNat_or .., rfl⟩
  case and => exact ⟨and, vx &&& vy, Opcode.decode_xy (by decide) rfl rfl, BitVec.toNat_and .., rfl⟩
  case xor => exact ⟨xor, vx ^^^ vy, Opcode.decode_xy (by decide) rfl rfl, BitVec.toNat_xor .., rfl⟩
  case add => exact ⟨add, vx + vy, Opcode.decode_xy (by decide) rfl rfl, BitVec.toNat_add .., rfl⟩
  case sub => exact ⟨sub, vx - vy, Opcode.decode_xy (by decide) rfl rfl, Byte.toNat_sub .., rfl⟩
  case subn => exact ⟨subn, vy - vx, Opcode.decode_xy (by decide) rfl rfl, Byte.toNat_sub .., rfl⟩
  case shr =>
    rw [← Byte.getLsbD_zero]
    exact ⟨shr, shifted >>> 1, Opcode.decode_xy (by decide) rfl rfl, Byte.toNat_ushiftRight_one _, rfl⟩
  case shl =>
    rw [← Byte.msb_eq]
    exact ⟨shl, shifted <<< 1, Opcode.decode_xy (by decide) rfl rfl, Byte.toNat_shiftLeft_one _, rfl⟩

namespace Machine

variable {c : Config} {s : State} {x y k : Nibble} {result : Nat} {flag : Option Bool}

theorem step_computes (key : Option Key) (g : Generator) (hmode : s.mode = .running)
    (hroom : s.pc + 3 < Memory.size) (hw : s.currentOpcode = .ok (.ofDigits 8 x y k))
    (h : Computes (s.registers.get x).toNat (s.registers.get y).toNat
      (s.shiftOperand c { x := x, y := y }).toNat k result flag) :
    ∃ (t : State) (b : Byte), (step c key s g).outcome = .ok t ∧ b.toNat = result ∧
      t.registers = s.registers.put x b flag := by
  obtain ⟨op, b, hdecode, hresult, hexec⟩ := Op.exec_computes (s := { s with key := key }) (g := g) h
  have hd := State.executing?_of_opcodeAt hmode hw hdecode
  exact ⟨_, b, step_executing_next hd hexec hroom, hresult, State.tick_registers c _⟩

end Machine

/-- The arithmetic instructions follow one rule for all registers. From the old values of Vx, of Vy and
of the register that the configuration shifts, the step leaves the result in Vx and then, if the
instruction reports anything, the report in the flag, which is lost for the result when Vx is the flag
itself. No other register changes. Sums and shifted values can be put together again from Vx and the
flag. -/
theorem Reachable.arithmetic {cs : List Config} {s : State} (h : Reachable Memory.size cs s)
    (hmode : s.mode = .running) (hpc : s.pc ≠ 0xFFE) (c : Config) (key : Option Key) (g : Generator)
    {x y k : Nibble} (hw : s.currentOpcode = .ok (.ofDigits 8 x y k)) :
    let value (s : State) (r : Nibble) := (s.registers.get r).toNat
    let carry := Registers.flagRegister
    let source := match c.shiftSource with
      | .vy => value s y
      | .vx => value s x
    ∀ result flag, Computes (value s x) (value s y) source k result flag →
      ∃ t, (Machine.step c key s g).outcome = .ok t ∧
        (x ≠ carry ∨ flag = none → value t x = result) ∧
        (∀ report, flag = some report → value t carry = report.toNat) ∧
        (∀ r, r ≠ x → r ≠ carry ∨ flag = none → t.registers.get r = s.registers.get r) ∧
        (x ≠ carry →
          (k = 0x4 → 256 * value t carry + value t x = value s x + value s y) ∧
          (k = 0x6 → 2 * value t x + value t carry = source) ∧
          (k = 0xE → 256 * value t carry + value t x = 2 * source)) := by
  intro value carry source result flag hcomputes
  have hsource : source = (s.shiftOperand c { x := x, y := y }).toNat :=
    (State.toNat_shiftOperand c s x y).symm
  have hroom := h.sound.pc.room hpc
  rw [hsource] at hcomputes
  obtain ⟨t, b, hstep, hresult, hregisters⟩ := Machine.step_computes key g hmode hroom hw hcomputes
  have hresult' (hkept : x ≠ carry ∨ flag = none) : value t x = result := by
    rw [← hresult]
    simp only [value, hregisters, Registers.get_put hkept, ↓reduceIte]
  have hreport (report : Bool) (hflag : flag = some report) : value t carry = report.toNat := by
    simp only [value, hregisters, hflag]
    exact Registers.toNat_get_put_flag _ _ _ _
  refine ⟨t, hstep, hresult', hreport, ?others, ?total⟩
  case others =>
    intro r hr hkept
    rw [hregisters, Registers.get_put hkept, if_neg hr]
  case total =>
    intro hx
    obtain ⟨hadd, hshr, hshl⟩ := hcomputes.total (BitVec.isLt _) (BitVec.isLt _) (BitVec.isLt _)
    rw [hresult' (.inl hx)]
    refine ⟨fun hk => ?_, fun hk => ?_, fun hk => ?_⟩
    · obtain ⟨report, hflag, hsum⟩ := hadd hk
      rw [hreport report hflag]
      exact hsum
    · obtain ⟨report, hflag, hsum⟩ := hshr hk
      rw [hreport report hflag, hsource]
      exact hsum
    · obtain ⟨report, hflag, hsum⟩ := hshl hk
      rw [hreport report hflag, hsource]
      exact hsum

/-- `LD VF, FF` and `LD V1, 1`, and then `ADD VF, V1`: the carry takes the place of the sum. -/
theorem Reachable.arithmetic_into_flag :
    ∃ s t, Reachable Memory.size [{}, {}] s ∧ s.currentOpcode = .ok 0x8F14 ∧
      (s.registers.get 0xF).toNat = 255 ∧ (s.registers.get 1).toNat = 1 ∧
      (Machine.step {} none s (Generator.cycling #[])).outcome = .ok t ∧
      (t.registers.get 0xF).toNat = 1 ∧ t.registers.get 1 = s.registers.get 1 := by
  let program : List Byte := [0x6F, 0xFF, 0x61, 0x01, 0x8F, 0x14]
  let loaded : State := { State.initial with memory := Memory.initial.store programStart program }
  let first : State := { loaded with registers := Registers.zero.set 0xF 255, pc := 0x202, phase := 1 }
  let s : State := { first with registers := first.registers.set 1 1, pc := 0x204, phase := 2 }
  have hload : State.loadProgram program = .ok loaded :=
    State.load_eq_ok_iff.mpr ⟨by decide, by decide, by decide, rfl⟩
  have hfirst : Reachable Memory.size [{}] first :=
    (reachable_of_loadProgram hload).executing (State.executing?_of_stored program 0 0x6FFF rfl
      (by decide) rfl rfl (by decide) (by decide) rfl) {} rfl
  have hs : Reachable Memory.size [{}, {}] s :=
    hfirst.executing (State.executing?_of_stored program 2 0x6101 rfl (by decide) rfl rfl (by decide)
      (by decide) rfl) {} rfl
  have hadd : s.executing? = some ⟨0x8F14, .add, { x := 0xF, y := 1 }⟩ :=
    State.executing?_of_stored program 4 0x8F14 rfl (by decide) rfl rfl (by decide) (by decide) rfl
  have hw : s.currentOpcode = .ok (.ofDigits 8 0xF 1 4) := State.currentOpcode_of_executing hadd
  obtain ⟨t, hstep, _, hreport, hothers, _⟩ :=
    hs.arithmetic rfl (by decide) {} none (Generator.cycling #[]) hw _ _ .add
  exact ⟨s, t, hs, hw, rfl, rfl, hstep, hreport true rfl, hothers 1 (by decide) (.inl (by decide))⟩

end Chip8
