import Chip8.Proofs.Glyphs
import Chip8.Proofs.Hits
import Chip8.Proofs.OpcodeDigits

/-!
# Drawing and erasing

`DRW Vx, Vy, n` executed twice in a row shows a sprite and takes it away again. The two flags tell
whether the sprite met pixels that were lit, and pixels that were not. All of this needs coordinates
outside of the flag register, since the first instruction changes that one.
-/

namespace Chip8

/-- The opcode of `DRW Vx, Vy, n`. -/
def Opcode.draw (x y n : Nibble) : Opcode :=
  0xD000#16 ||| x.setWidth 16 <<< 8 ||| y.setWidth 16 <<< 4 ||| n.setWidth 16

theorem Opcode.draw_eq_assemble (x y n : Nibble) :
    Opcode.draw x y n = Op.drw.encoding.assemble { x := x, y := y, n := n } := by
  simp [Opcode.draw, Encoding.assemble, Operands.bits, Op.encoding, BitVec.or_assoc]

theorem decode_draw (x y n : Nibble) :
    decode (Opcode.draw x y n) = .ok ⟨Opcode.draw x y n, .drw, { x := x, y := y, n := n }⟩ := by
  rw [Opcode.draw_eq_assemble]
  apply decode_assemble (by decide)
  rw [Layout.Holds, Operand.forall_iff]
  simp [Op.encoding, Layout.operands, Operand.value]

namespace Machine

variable {c c' : Config} {key key' : Option Key} {g g' : Generator} {s t u : State} {x y n : Nibble}

/-- What the sprite at the index register does to the picture, and everything else that stays. -/
theorem step_draw (hmode : s.mode = .running) (hop : s.currentOpcode = .ok (Opcode.draw x y n))
    (h : (step c key s g).outcome = .ok t) :
    let sprite := s.memory.slice s.index n.toNat
    let drawn := s.display.draw (s.registers.get x) (s.registers.get y) sprite
    t.display = drawn.1 ∧ t.registers = s.registers.setFlag drawn.2 ∧ t.memory = s.memory ∧
      t.index = s.index ∧ t.pc = s.pc + 2 ∧ t.mode = .running := by
  have hd := State.executing?_of_opcodeAt hmode hop (decode_draw x y n)
  obtain ⟨hdisplay, hregisters⟩ := step_drw hd rfl h
  have hpc := step_executing_pc hd h
  have hrunning := step_executing_mode hd h
  obtain ⟨v, route, hexec, rfl⟩ := step_executing_eq_ok hd h
  have hframe : Op.drw.Frame { s with key := key } v := Op.exec_frame hexec
  refine ⟨hdisplay, hregisters, ?_, ?_, hpc, hrunning⟩
  · rw [State.tick_memory]
    exact hframe.memory (by decide) (by decide)
  · rw [State.tick_index]
    exact hframe.index (by decide) (by decide) (by decide)

/-- Drawing the same sprite twice in a row leaves the picture, memory, the index register and all
registers but the flag as they were. The first flag says whether a set bit of the sprite lay on a lit
pixel, the second whether one lay on a pixel that was not lit. So a sprite that has a set bit is
reported at least once, and exactly the second time if there was nothing lit under it. -/
theorem draw_twice (hmode : s.mode = .running)
    (hfirst : s.currentOpcode = .ok (Opcode.draw x y n))
    (hsecond : s.opcodeAt (s.pc + 2) = .ok (Opcode.draw x y n))
    (hx : x ≠ Registers.flagRegister) (hy : y ≠ Registers.flagRegister)
    (ht : (step c key s g).outcome = .ok t) (hu : (step c' key' t g').outcome = .ok u) :
    let sprite := s.memory.slice s.index n.toNat
    let meets := s.display.Meets (s.registers.get x) (s.registers.get y) sprite
    let flag (s : State) := s.registers.get Registers.flagRegister
    u.display = s.display ∧ u.memory = s.memory ∧ u.index = s.index ∧
      (∀ r, r ≠ Registers.flagRegister → u.registers.get r = s.registers.get r) ∧
      (flag t = 1 ↔ meets true) ∧ (flag u = 1 ↔ meets false) ∧
      ((∃ bits ∈ sprite, bits ≠ 0) →
        (flag t = 1 ∨ flag u = 1) ∧ (¬ meets true → flag t = 0 ∧ flag u = 1)) := by
  intro sprite meets flag
  obtain ⟨hdisplay, hregisters, hmemory, hindex, hpc, hrunning⟩ := step_draw hmode hfirst ht
  have hagain : t.currentOpcode = .ok (Opcode.draw x y n) := by
    rw [State.currentOpcode, State.opcodeAt, hmemory, hpc]
    exact hsecond
  obtain ⟨hdisplay', hregisters', hmemory', hindex', _, _⟩ := step_draw hrunning hagain hu
  -- The first instruction changes neither the coordinates of the second one nor its sprite.
  have hkept (r : Nibble) (hr : r ≠ Registers.flagRegister) :
      t.registers.get r = s.registers.get r := by
    rw [hregisters, Registers.get_setFlag, if_neg hr]
  rw [hmemory, hindex, hkept x hx, hkept y hy] at hdisplay' hregisters'
  rw [hdisplay] at hdisplay' hregisters'
  have hlength : sprite.length ≤ 32 := by
    rw [Memory.length_slice]
    omega
  have hhit := Display.draw_hit_iff hlength s.display (s.registers.get x) (s.registers.get y)
  have hflag : flag t = 1 ↔ meets true := by
    simp only [flag, hregisters, Registers.flag_eq_one_iff]
    exact hhit
  have hflag' : flag u = 1 ↔ meets false := by
    simp only [flag, hregisters', Registers.flag_eq_one_iff]
    exact Display.draw_draw_hit_iff hlength _ _ _
  refine ⟨?_, hmemory'.trans hmemory, hindex'.trans hindex, ?_, hflag, hflag', ?_⟩
  · rw [hdisplay', Display.draw_draw]
  · intro r hr
    rw [hregisters', Registers.get_setFlag, if_neg hr, hkept r hr]
  · rintro ⟨bits, hmem, hbits⟩
    have hmeets : meets true ∨ meets false := Display.meets_of_mem hmem hbits _ _ _
    refine ⟨hmeets.imp hflag.mpr hflag'.mpr, ?_⟩
    intro hclear
    refine ⟨?_, hflag'.mpr (hmeets.resolve_left hclear)⟩
    simp only [flag, hregisters, Registers.flag_eq_zero_iff]
    rwa [hhit]

/-- `LD V0, 62`, and then the glyph of zero twice, around both edges of an empty picture. -/
theorem draw_twice_empty :
    ∃ s t u, Reachable Memory.size [{}] s ∧ s.currentOpcode = .ok (Opcode.draw 0 0 5) ∧
      (step {} none s (Generator.cycling #[])).outcome = .ok t ∧
      (step {} none t (Generator.cycling #[])).outcome = .ok u ∧
      u.display = .blank ∧ t.registers.get Registers.flagRegister = 0 ∧
      u.registers.get Registers.flagRegister = 1 := by
  let program : List Byte := [0x60, 0x3E, 0xD0, 0x05, 0xD0, 0x05]
  let memory : Memory := Memory.initial.store programStart program
  let loaded : State := { State.initial with memory := memory }
  let s : State := { loaded with registers := Registers.zero.set 0 62, pc := 0x202, phase := 1 }
  let drawn (s : State) := s.display.draw (s.registers.get 0) (s.registers.get 0) (s.memory.slice 0 5)
  let t : State :=
    { s with
      display := (drawn s).1, registers := s.registers.setFlag (drawn s).2, pc := 0x204, phase := 2 }
  let u : State :=
    { t with
      display := (drawn t).1, registers := t.registers.setFlag (drawn t).2, pc := 0x206, phase := 3 }
  have hload : State.loadProgram program = .ok loaded :=
    State.load_eq_ok_iff.mpr ⟨by decide, by decide, by decide, rfl⟩
  have hs : Reachable Memory.size [{}] s := by
    refine .step none (Generator.cycling #[]) (reachable_of_loadProgram hload) ?_
    have hfirst : loaded.executing? = some ⟨0x603E, .ldByte, { x := 0, kk := 0x3E }⟩ :=
      State.executing?_of_stored program 0 0x603E rfl (by decide) rfl rfl (by decide) (by decide) rfl
    rw [step_executing hfirst]
    rfl
  have hword : Opcode.draw 0 0 5 = Opcode.ofBytes 0xD0 0x05 := by decide
  have hfirst : s.currentOpcode = .ok (Opcode.draw 0 0 5) := by
    rw [hword]
    exact State.opcodeAt_load hload (i := 2) (by decide)
  have hsecond : s.opcodeAt (s.pc + 2) = .ok (Opcode.draw 0 0 5) := by
    rw [hword]
    exact State.opcodeAt_load hload (i := 4) (by decide)
  have ht : (step {} none s (Generator.cycling #[])).outcome = .ok t := by
    rw [step_executing (State.executing?_of_opcodeAt rfl hfirst (decode_draw 0 0 5))]
    rfl
  have hu : (step {} none t (Generator.cycling #[])).outcome = .ok u := by
    have hagain : t.currentOpcode = .ok (Opcode.draw 0 0 5) := hsecond
    rw [step_executing (State.executing?_of_opcodeAt rfl hagain (decode_draw 0 0 5))]
    rfl
  obtain ⟨hdisplay, _, _, _, _, _, hreported⟩ :=
    draw_twice rfl hfirst hsecond (by decide) (by decide) ht hu
  have hglyph : ∃ bits ∈ s.memory.slice 0 5, bits ≠ 0 := by
    have hdigit : Font.glyphAddress? 0 = some 0 := rfl
    rw [(hs.slice_glyph hdigit).2]
    exact ⟨0xF0, by decide, by decide⟩
  obtain ⟨hflag, hflag'⟩ := (hreported hglyph).2 (Display.not_meets_blank _ _ _)
  exact ⟨s, t, u, hs, hfirst, ht, hu, hdisplay, hflag, hflag'⟩

end Machine

end Chip8
