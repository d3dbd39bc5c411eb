import Chip8.Proofs.Effects

/-!
# Glyphs

The font stays in memory as it was put there. Instructions change memory only by a write at the index
register; a write begins above the font and goes upwards, and programs are loaded above it. A program
that asks for a glyph therefore always draws the same picture.
-/

namespace Chip8

namespace Memory

variable {m m' : Memory} {a i : Nat} {bytes : List Byte}

theorem byte_write_of_lt_limit (h : m.write a bytes = .ok m') (hi : i < Font.limit) :
    m'.byte i = m.byte i := by
  obtain ⟨rfl, hroom⟩ := write_eq_ok_iff.mp h
  by_cases hnil : bytes = []
  · rw [hnil]
    rfl
  · have hlimit := (hroom hnil).1
    exact byte_store_of_lt m bytes (by omega)

theorem take_drop_slice {length j k : Nat} (h : j + k ≤ length) :
    ((m.slice a length).drop j).take k = m.slice (a + j) k := by
  apply List.ext_getElem
  · simp only [List.length_take, List.length_drop, length_slice]
    omega
  · intro i _ _
    simp only [List.getElem_take, List.getElem_drop, getElem_slice, Nat.add_assoc]

theorem slice_initial : initial.slice 0x000 0x050 = Font.glyphs := by
  apply List.ext_getElem
  · rw [length_slice]
    rfl
  · intro i hslice hi
    rw [length_slice] at hslice
    rw [getElem_slice]
    exact byte_store_add zero Font.glyphs hi (by simp only [size, Font.base]; omega)

end Memory

namespace Machine

variable {c : Config} {key : Option Key} {g : Generator} {s t : State}

/-! ### Drawing a glyph -/

theorem step_ldGlyph {d : Decoded} (hd : s.executing? = some d) (hop : d.op = .ldGlyph)
    (h : (step c key s g).outcome = .ok t) :
    Font.glyphAddress? (s.registers.get d.operands.x) = some t.index ∧
      t.registers = s.registers ∧ t.display = s.display ∧ t.memory = s.memory := by
  obtain ⟨v, route, hexec, rfl⟩ := step_executing_eq_ok hd h
  rw [hop] at hexec
  simp only [Op.exec] at hexec
  split at hexec
  · cases hexec
  · rename_i a hglyph
    cases hexec
    simp only [State.tick_index, State.tick_registers, State.tick_display, State.tick_memory]
    exact ⟨hglyph, trivial, trivial, trivial⟩

theorem step_drw {d : Decoded} (hd : s.executing? = some d) (hop : d.op = .drw)
    (h : (step c key s g).outcome = .ok t) :
    let sprite := s.memory.slice s.index d.operands.n.toNat
    let drawn := s.display.draw (s.registers.get d.operands.x) (s.registers.get d.operands.y) sprite
    t.display = drawn.1 ∧ t.registers = s.registers.setFlag drawn.2 := by
  obtain ⟨v, route, hexec, rfl⟩ := step_executing_eq_ok hd h
  rw [hop] at hexec
  simp only [Op.exec] at hexec
  split at hexec
  · cases hexec
  · rename_i sprite hread
    cases hexec
    obtain ⟨_, rfl⟩ := Memory.read_eq_ok_iff.mp hread
    simp only [State.tick_display, State.tick_registers]
    exact ⟨rfl, rfl⟩

end Machine

namespace Reachable

variable {bound : Nat} {cs : List Config} {s : State}

theorem byte_of_lt_limit (h : Reachable bound cs s) {i : Nat} (hi : i < Font.limit) :
    s.memory.byte i = Memory.initial.byte i := by
  induction h with
  | initial => rfl
  | load _ hload =>
    obtain ⟨hstart, _, _, rfl⟩ := State.load_eq_ok_iff.mp hload
    have hlow : Font.limit ≤ programStart := by decide
    exact Memory.byte_store_of_lt _ _ (by omega)
  | step _ _ _ hstep ih =>
    obtain ⟨bytes, hwrite, _⟩ := Machine.step_write hstep
    rw [Memory.byte_write_of_lt_limit hwrite hi, ih]

theorem slice_font (h : Reachable bound cs s) : s.memory.slice 0x000 0x050 = Font.glyphs := by
  rw [← Memory.slice_initial]
  apply Memory.slice_congr
  intro i _ hi
  exact h.byte_of_lt_limit (by simpa only [Font.limit_eq, Nat.zero_add] using hi)

theorem slice_glyph (h : Reachable bound cs s) {digit : Byte} {a : Nat}
    (hglyph : Font.glyphAddress? digit = some a) :
    digit.toNat ≤ 15 ∧
      s.memory.slice a 5 = (Font.glyphs.drop (5 * digit.toNat)).take 5 := by
  simp only [Font.glyphAddress?, Option.ite_none_right_eq_some] at hglyph
  obtain ⟨hdigit, ha⟩ := hglyph
  cases ha
  have hfit : 5 * digit.toNat + 5 ≤ 0x050 := by omega
  refine ⟨by omega, ?_⟩
  rw [← h.slice_font, Memory.take_drop_slice hfit, Nat.mul_comm 5]
  rfl

/-- The font can be relied on: whatever a program has done, the lowest 80 bytes of memory are the font,
and asking for the glyph of a digit and drawing five rows draws that glyph. -/
theorem draws_glyph (h : Reachable bound cs s) :
    s.memory.slice 0x000 0x050 = Font.glyphs ∧
    ∀ (c c' : Config) (key key' : Option Key) (g g' : Generator) (t u : State) (d e : Decoded),
      s.executing? = some d → d.op = .ldGlyph → (Machine.step c key s g).outcome = .ok t →
      t.executing? = some e → e.op = .drw → e.operands.n = 5 →
      (Machine.step c' key' t g').outcome = .ok u →
      let digit := (s.registers.get d.operands.x).toNat
      let drawn := s.display.draw (s.registers.get e.operands.x) (s.registers.get e.operands.y)
        ((Font.glyphs.drop (5 * digit)).take 5)
      digit ≤ 15 ∧ u.display = drawn.1 ∧
        u.registers.get Registers.flagRegister = if drawn.2 then 1 else 0 := by
  refine ⟨h.slice_font, ?_⟩
  intro c c' key key' g g' t u d e hd hglyph hask he hdrw hn hdraw
  obtain ⟨haddress, hregisters, hdisplay, hmemory⟩ := Machine.step_ldGlyph hd hglyph hask
  obtain ⟨hdigit, hslice⟩ := h.slice_glyph haddress
  obtain ⟨hpicture, hflag⟩ := Machine.step_drw he hdrw hdraw
  rw [hregisters, hdisplay, hmemory, hn] at hpicture hflag
  have hrows : (5 : Nibble).toNat = 5 := rfl
  rw [hrows, hslice] at hpicture hflag
  refine ⟨hdigit, hpicture, ?_⟩
  rw [hflag, Registers.setFlag, Registers.get_set, if_pos rfl]

/-- `LD V0, A` and `LD F, V0`, and then `DRW V1, V1, 5`. -/
theorem draws_glyph_A :
    ∃ s t u, Reachable Memory.size [{}] s ∧
      s.memory.slice 0x000 0x050 = Font.glyphs ∧
      (Machine.step {} none s (Generator.cycling #[])).outcome = .ok t ∧
      (Machine.step {} none t (Generator.cycling #[])).outcome = .ok u ∧
      u.display = (Display.blank.draw 0 0 [0xF0, 0x90, 0xF0, 0x90, 0x90]).1 := by
  let program : List Byte := [0x60, 0x0A, 0xF0, 0x29, 0xD1, 0x15]
  let memory : Memory := Memory.initial.store programStart program
  let loaded : State := { State.initial with memory := memory }
  let s : State := { loaded with registers := Registers.zero.set 0 10, pc := 0x202, phase := 1 }
  let t : State := { s with index := 50, pc := 0x204, phase := 2 }
  let drawn := Display.blank.draw 0 0 (memory.slice 50 5)
  let u : State :=
    { t with display := drawn.1, registers := t.registers.setFlag drawn.2, pc := 0x206, phase := 3 }
  have hd : s.executing? = some ⟨0xF029, .ldGlyph, { x := 0 }⟩ :=
    State.executing?_of_stored program 2 0xF029 rfl (by decide) rfl rfl (by decide) (by decide) rfl
  have he : t.executing? = some ⟨0xD115, .drw, { x := 1, y := 1, n := 5 }⟩ :=
    State.executing?_of_stored program 4 0xD115 rfl (by decide) rfl rfl (by decide) (by decide) rfl
  have hloaded : Reachable Memory.size [] loaded :=
    reachable_of_loadProgram (State.load_eq_ok_iff.mpr ⟨by decide, by decide, by decide, rfl⟩)
  have hs : Reachable Memory.size [{}] s := by
    refine .step none (Generator.cycling #[]) hloaded ?_
    have hfirst : loaded.executing? = some ⟨0x600A, .ldByte, { x := 0, kk := 0x0A }⟩ :=
      State.executing?_of_stored program 0 0x600A rfl (by decide) rfl rfl (by decide) (by decide) rfl
    rw [Machine.step_executing hfirst]
    rfl
  have hask : (Machine.step {} none s (Generator.cycling #[])).outcome = .ok t := by
    rw [Machine.step_executing hd]
    rfl
  have hdraw : (Machine.step {} none t (Generator.cycling #[])).outcome = .ok u := by
    rw [Machine.step_executing he]
    rfl
  obtain ⟨hfont, hglyph⟩ := hs.draws_glyph
  obtain ⟨_, hpicture, _⟩ := hglyph {} {} none none _ _ t u _ _ hd rfl hask he rfl rfl hdraw
  exact ⟨s, t, u, hs, hfont, hask, hdraw, hpicture⟩

end Reachable

end Chip8
