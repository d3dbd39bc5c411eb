import Chip8.Proofs.Faults
import Chip8.Proofs.Timers

/-!
# The effects of a step

Every part of the state has a few instructions that may change it, and no step changes it otherwise.
`Machine.Effects` lists them part by part.
-/

namespace Chip8

namespace Memory

variable {m m' : Memory} {a i : Nat} {bytes : List Byte}

theorem read_eq_ok_iff {length : Nat} :
    m.read a length = .ok bytes ↔ a + length ≤ size ∧ bytes = m.slice a length := by
  unfold read
  split
  · rename_i hroom
    simp [hroom, eq_comm (a := bytes)]
  · rename_i hroom
    simp [hroom]

theorem write_eq_ok_iff :
    m.write a bytes = .ok m' ↔
      m' = m.store a bytes ∧ (bytes ≠ [] → Font.limit ≤ a ∧ a + bytes.length ≤ size) := by
  unfold write
  by_cases hnil : bytes = []
  · subst hnil
    simp [store, eq_comm]
  · rw [if_neg (by simpa using hnil)]
    simp only [ne_eq, hnil, not_false_eq_true, forall_const]
    split
    · rename_i hfont
      simp [Nat.not_le.mpr hfont]
    · rename_i hfont
      split
      · rename_i hroom
        simp [Nat.not_lt.mp hfont, hroom, eq_comm (a := m')]
      · rename_i hroom
        simp [hroom]

theorem slice_congr {length : Nat} (h : ∀ i, a ≤ i → i < a + length → m.byte i = m'.byte i) :
    m.slice a length = m'.slice a length := by
  apply List.map_congr_left
  intro i hi
  rw [List.mem_range'_1] at hi
  exact h i hi.1 hi.2

/-- A write reaches no byte outside of its range. -/
theorem byte_write_of_outside (h : m.write a bytes = .ok m') (hi : i < a ∨ a + bytes.length ≤ i) :
    m'.byte i = m.byte i := by
  obtain ⟨rfl, _⟩ := write_eq_ok_iff.mp h
  rcases hi with hbelow | habove
  · exact byte_store_of_lt m bytes hbelow
  · exact byte_store_of_ge m bytes habove

end Memory

namespace Op

variable {c : Config} {o : Operands} {g : Generator} {s t : State} {op : Op} {route : Flow}

/-- What an instruction writes, from the index register on. -/
def written (c : Config) (o : Operands) (s : State) : Op → List Byte
  | ldDigits => decimalDigits (s.registers.get o.x)
  | store => s.registers.toList.take (c.transferLength o.x)
  | _ => []

theorem length_written : (op.written c o s).length = op.writeLength c o := by
  cases op
  case store => exact length_transferred
  all_goals rfl

/-- An instruction changes memory by one write at the index register, which may be empty. -/
theorem exec_memory (h : op.exec c o g s = .ok (t, route)) :
    s.memory.write s.index (op.written c o s) = .ok t.memory := by
  have hframe := exec_frame h
  cases op
  case ldDigits | store =>
    simp only [exec] at h
    split at h
    · cases h
    · rename_i hwrite
      cases h
      exact hwrite
  all_goals
    rw [hframe.memory (by decide) (by decide)]
    rfl

/-- The registers that an instruction may change. -/
def Changes (c : Config) (o : Operands) (r : Nibble) : Op → Prop
  | ldByte | addByte | ldReg | or | and | xor | rnd | ldRegDelay => r = o.x
  | add | sub | shr | subn | shl => r = o.x ∨ r = Registers.flagRegister
  | drw => r = Registers.flagRegister
  | load => r.toNat < c.transferLength o.x
  | _ => False

theorem exec_registers (h : op.exec c o g s = .ok (t, route)) {r : Nibble}
    (hr : ¬ op.Changes c o r) : t.registers.get r = s.registers.get r := by
  cases op
  case ldByte | addByte | ldReg | or | and | xor | rnd | ldRegDelay =>
    simp only [exec] at h
    cases h
    simp only [State.setRegister, Registers.get_set]
    exact if_neg hr
  case add | sub | shr | subn | shl =>
    simp only [exec] at h
    cases h
    obtain ⟨hx, hflag⟩ := not_or.mp hr
    simp only [State.setResult, Registers.setFlag, Registers.get_set, if_neg hx, if_neg hflag]
  case drw =>
    simp only [exec] at h
    split at h
    · cases h
    · cases h
      simp only [Registers.setFlag, Registers.get_set]
      exact if_neg hr
  case load =>
    simp only [exec] at h
    split at h
    · cases h
    · rename_i bytes hread
      cases h
      obtain ⟨_, rfl⟩ := Memory.read_eq_ok_iff.mp hread
      have hlen : (s.memory.slice s.index (c.transferLength o.x)).length ≤ r.toNat := by
        rw [Memory.length_slice]
        exact Nat.not_lt.mp hr
      rw [Registers.get_fill, List.getElem?_eq_none hlen, Option.getD_none]
  case ret | call | ldGlyph | ldDigits | store =>
    simp only [exec] at h
    split at h <;> cases h
    rfl
  all_goals
    simp only [exec] at h
    cases h
    rfl

/-- Instructions write the three digits of a number, or as many registers as are transferred. -/
theorem writes_of_lt {i : Nat} (h : i < op.writeLength c o) :
    op = .ldDigits ∧ i < 3 ∨ op = .store ∧ i < c.transferLength o.x := by
  cases op
  case ldDigits => exact .inl ⟨rfl, h⟩
  case store => exact .inr ⟨rfl, h⟩
  all_goals exact absurd h (Nat.not_lt_zero i)

end Op

theorem State.timerBeforeTick_of_op? {s : State} {k : Timer} (h : s.op? ≠ some k.setter) :
    s.timerBeforeTick k = s.timer k := by
  cases hd : s.executing? with
  | none => simp [timerBeforeTick, written?, hd]
  | some d =>
    rw [op?_of_executing hd] at h
    rw [timerBeforeTick_of_executing hd, if_neg fun hset => h (congrArg some hset)]

namespace Machine

variable {c : Config} {key : Option Key} {g : Generator} {s t : State}

/-- What a step from `s` to `t` may change, part by part, with the instructions that do so. -/
structure Effects (c : Config) (key : Option Key) (s t : State) : Prop where
  memory : ∀ a, t.memory.byte a ≠ s.memory.byte a →
    s.index ≤ a ∧ ∃ d, s.executing? = some d ∧
      (d.op = .ldDigits ∧ a < s.index + 3 ∨
        d.op = .store ∧ a < s.index + c.transferLength d.operands.x)
  display : t.display ≠ s.display → s.op? = some .cls ∨ s.op? = some .drw
  stack : t.stack ≠ s.stack →
    s.op? = some .call ∧ t.stack = s.pc :: s.stack ∨
      s.op? = some .ret ∧ ∃ site, s.stack = site :: t.stack
  index : t.index ≠ s.index → s.op? = some .ldI ∨ s.op? = some .addI ∨ s.op? = some .ldGlyph
  registers : ∀ r, t.registers.get r ≠ s.registers.get r →
    s.mode = .waiting r ∧ key ≠ none ∨ ∃ d, s.executing? = some d ∧ d.op.Changes c d.operands r
  mode : t.mode ≠ s.mode →
    (∃ d, s.executing? = some d ∧ d.op = .ldKey ∧ s.mode = .running ∧
      t.mode = .waiting d.operands.x) ∨
    ∃ r, s.mode = .waiting r ∧ key ≠ none ∧ t.mode = .running
  timer : ∀ k, t.timer k ≠ s.timer k →
    s.op? = some k.setter ∨
      (s.phase + 1) % c.period = 0 ∧ (t.timer k).toNat = (s.timer k).toNat - 1
  key : t.key = key

theorem step_waiting_frame {r : Nibble} (hmode : s.mode = .waiting r)
    (h : (step c key s g).outcome = .ok t) :
    t.memory = s.memory ∧ t.display = s.display ∧ t.index = s.index ∧ t.key = key := by
  rcases step_waiting_eq_ok hmode h with ⟨rfl, rfl⟩ | ⟨k, rfl, _, rfl⟩ <;>
    exact ⟨State.tick_memory c _, State.tick_display c _, State.tick_index c _, State.tick_key c _⟩

theorem step_executing_write {d : Decoded} (hd : s.executing? = some d)
    (h : (step c key s g).outcome = .ok t) :
    s.memory.write s.index (d.op.written c d.operands s) = .ok t.memory := by
  obtain ⟨u, route, hexec, rfl⟩ := step_executing_eq_ok hd h
  have hwrite := Op.exec_memory hexec
  rw [State.tick_memory]
  exact hwrite

theorem step_write (h : (step c key s g).outcome = .ok t) :
    ∃ bytes, s.memory.write s.index bytes = .ok t.memory ∧
      (bytes = [] ∨ ∃ d, s.executing? = some d ∧ bytes.length = d.op.writeLength c d.operands) := by
  rcases s.running_or_waiting with hmode | ⟨r, hmode⟩
  · obtain ⟨d, hd⟩ := exists_executing hmode h
    exact ⟨_, step_executing_write hd h, .inr ⟨d, hd, Op.length_written⟩⟩
  · rw [(step_waiting_frame hmode h).1]
    exact ⟨[], rfl, .inl rfl⟩

theorem step_byte (h : (step c key s g).outcome = .ok t) {a : Nat}
    (hne : t.memory.byte a ≠ s.memory.byte a) :
    s.index ≤ a ∧ ∃ d, s.executing? = some d ∧
      (d.op = .ldDigits ∧ a < s.index + 3 ∨
        d.op = .store ∧ a < s.index + c.transferLength d.operands.x) := by
  obtain ⟨bytes, hwrite, hbytes⟩ := step_write h
  have hlow : s.index ≤ a := Nat.not_lt.mp fun hbelow =>
    hne (Memory.byte_write_of_outside hwrite (.inl hbelow))
  have hhigh : a < s.index + bytes.length := Nat.not_le.mp fun habove =>
    hne (Memory.byte_write_of_outside hwrite (.inr habove))
  rcases hbytes with rfl | ⟨d, hd, hlength⟩
  · rw [List.length_nil] at hhigh
    omega
  · refine ⟨hlow, d, hd, ?_⟩
    have hwritten : a - s.index < d.op.writeLength c d.operands := by omega
    rcases Op.writes_of_lt hwritten with ⟨hop, hlt⟩ | ⟨hop, hlt⟩
    · exact .inl ⟨hop, by omega⟩
    · exact .inr ⟨hop, by omega⟩

theorem step_timer (h : (step c key s g).outcome = .ok t) {k : Timer}
    (hne : t.timer k ≠ s.timer k) :
    s.op? = some k.setter ∨
      (s.phase + 1) % c.period = 0 ∧ (t.timer k).toNat = (s.timer k).toNat - 1 := by
  by_cases hset : s.op? = some k.setter
  · exact .inl hset
  · right
    have hticked := (step_ticks h).2 k
    rw [State.timerBeforeTick_of_op? hset] at hticked
    by_cases htick : (s.phase + 1) % c.period = 0
    · rw [if_pos htick] at hticked
      exact ⟨htick, hticked⟩
    · rw [if_neg htick, Nat.sub_zero, BitVec.toNat_inj] at hticked
      exact absurd hticked hne

theorem effects_of_waiting {r : Nibble} (hmode : s.mode = .waiting r)
    (h : (step c key s g).outcome = .ok t) : Effects c key s t := by
  obtain ⟨_, hdisplay, hindex, hkey⟩ := step_waiting_frame hmode h
  obtain ⟨hidle, hreceive⟩ := step_waiting_route hmode h
  refine ⟨fun a hne => step_byte h hne, fun hne => absurd hdisplay hne, ?stack,
    fun hne => absurd hindex hne, ?registers, ?mode, fun k hne => step_timer h hne, hkey⟩
  case stack =>
    intro hne
    rcases step_stack h with ⟨hcall, _⟩ | ⟨hret, _⟩ | ⟨_, _, hsame⟩
    · rw [State.op?_of_waiting hmode] at hcall
      cases hcall
    · rw [State.op?_of_waiting hmode] at hret
      cases hret
    · exact absurd hsame hne
  case registers =>
    intro r' hne
    cases key with
    | none => exact absurd (by rw [(hidle rfl).2.2]) hne
    | some k =>
      rw [(hreceive k rfl).2.2, Registers.get_set] at hne
      by_cases hr : r' = r
      · subst hr
        exact .inl ⟨hmode, by simp⟩
      · rw [if_neg hr] at hne
        exact absurd rfl hne
  case mode =>
    intro hne
    cases key with
    | none => exact absurd ((hidle rfl).2.1.trans hmode.symm) hne
    | some k => exact .inr ⟨r, hmode, by simp, (hreceive k rfl).2.1⟩

theorem effects_of_executing {d : Decoded} (hd : s.executing? = some d)
    (h : (step c key s g).outcome = .ok t) : Effects c key s t := by
  have hop := State.op?_of_executing hd
  obtain ⟨hmode, _⟩ := State.executing?_eq_some_iff.mp hd
  obtain ⟨u, route, hexec, ht⟩ := step_executing_eq_ok hd h
  have hframe := Op.exec_frame hexec
  refine ⟨fun a hne => step_byte h hne, ?display, ?stack, ?index, ?registers, ?mode,
    fun k hne => step_timer h hne, ?key⟩
  case display =>
    intro hne
    by_cases hcls : d.op = .cls
    · exact .inl (by rw [hop, hcls])
    by_cases hdrw : d.op = .drw
    · exact .inr (by rw [hop, hdrw])
    rw [ht, State.tick_display] at hne
    exact absurd (hframe.display hcls hdrw) hne
  case stack =>
    intro hne
    rcases step_stack h with ⟨hcall, _, hpush⟩ | ⟨hret, site, hpop, _⟩ | ⟨_, _, hsame⟩
    · exact .inl ⟨hcall, hpush⟩
    · exact .inr ⟨hret, site, hpop⟩
    · exact absurd hsame hne
  case index =>
    intro hne
    by_cases hldI : d.op = .ldI
    · exact .inl (by rw [hop, hldI])
    by_cases haddI : d.op = .addI
    · exact .inr (.inl (by rw [hop, haddI]))
    by_cases hldGlyph : d.op = .ldGlyph
    · exact .inr (.inr (by rw [hop, hldGlyph]))
    rw [ht, State.tick_index] at hne
    exact absurd (hframe.index hldI haddI hldGlyph) hne
  case registers =>
    intro r hne
    by_cases hchanges : d.op.Changes c d.operands r
    · exact .inr ⟨d, hd, hchanges⟩
    rw [ht, State.tick_registers] at hne
    exact absurd (Op.exec_registers hexec hchanges) hne
  case mode =>
    intro hne
    have hafter := step_executing_mode hd h
    by_cases hwait : d.op = .ldKey
    · rw [if_pos hwait] at hafter
      exact .inl ⟨d, hd, hwait, hmode, hafter⟩
    rw [if_neg hwait, ← hmode] at hafter
    exact absurd hafter hne
  case key =>
    rw [ht, State.tick_key]
    exact hframe.key

theorem effects_of_step (h : (step c key s g).outcome = .ok t) : Effects c key s t := by
  rcases s.running_or_waiting with hmode | ⟨r, hmode⟩
  · obtain ⟨d, hd⟩ := exists_executing hmode h
    exact effects_of_executing hd h
  · exact effects_of_waiting hmode h

/-- A step that succeeds changes no more than its mode and its instruction may. `SYS` therefore
changes nothing but the program counter, the key and the clock, and adding a number to a register
other than the flag leaves the flag alone. -/
theorem step_effects (h : (step c key s g).outcome = .ok t) :
    Effects c key s t ∧
    ∀ d, s.executing? = some d →
      (d.op = .sys →
        t.memory = s.memory ∧ t.registers = s.registers ∧ t.index = s.index ∧ t.stack = s.stack ∧
          t.display = s.display ∧ t.mode = s.mode) ∧
      (d.op = .addByte → d.operands.x ≠ Registers.flagRegister →
        t.registers.get Registers.flagRegister = s.registers.get Registers.flagRegister) := by
  refine ⟨effects_of_step h, ?_⟩
  intro d hd
  obtain ⟨u, route, hexec, rfl⟩ := step_executing_eq_ok hd h
  constructor
  · intro hsys
    rw [hsys] at hexec
    cases hexec
    exact ⟨State.tick_memory c _, State.tick_registers c _, State.tick_index c _,
      State.tick_stack c _, State.tick_display c _, State.tick_mode c _⟩
  · intro hadd hx
    have hkept : ¬ d.op.Changes c d.operands Registers.flagRegister := by
      rw [hadd]
      exact hx.symm
    rw [State.tick_registers]
    exact Op.exec_registers hexec hkept

/-- `LD [I], V2` writes two registers when the range excludes the last one. -/
theorem step_effects_store :
    ∃ s t, s.op? = some .store ∧ s.index = 0x300 ∧
      (step { transferRange := .exclusive } none s (Generator.cycling #[])).outcome = .ok t ∧
      ∀ a, t.memory.byte a ≠ s.memory.byte a → 0x300 ≤ a ∧ a < 0x302 := by
  let program : List Byte := [0xF2, 0x55]
  let s : State :=
    { State.initial with
      memory := Memory.initial.store programStart program
      registers := (Registers.zero.set 0 1).set 1 2
      index := 0x300 }
  let t : State := { s with memory := s.memory.store 0x300 [1, 2], pc := 0x202, phase := 1 }
  have hd : s.executing? = some ⟨0xF255, .store, { x := 2 }⟩ :=
    State.executing?_of_stored program 0 0xF255 rfl (by decide) rfl rfl (by decide) (by decide) rfl
  have hstep : (step { transferRange := .exclusive } none s (Generator.cycling #[])).outcome =
      .ok t := by
    rw [step_executing hd]
    rfl
  obtain ⟨heffects, _⟩ := step_effects hstep
  refine ⟨s, t, State.op?_of_executing hd, rfl, hstep, ?_⟩
  intro a hne
  obtain ⟨hlow, d, hd', hwrites⟩ := heffects.memory a hne
  obtain rfl := Option.some.inj (hd.symm.trans hd')
  rcases hwrites with ⟨hdigits, _⟩ | ⟨_, hhigh⟩
  · cases hdigits
  · exact ⟨hlow, hhigh⟩

end Machine

end Chip8
