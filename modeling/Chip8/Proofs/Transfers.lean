import Chip8.Proofs.Effects
import Chip8.Proofs.OpcodeDigits
import Chip8.Proofs.WaitingInstruction

/-!
# Register transfers

`Fx55` writes registers to memory at the index register and `Fx33` the digits of one, and `Fx65` loads
registers from there. Neither moves the index register, so that a later load finds what was written for
as long as its bytes are left alone.
-/

namespace Chip8

namespace Memory

variable {m m' : Memory} {a i : Nat} {bytes : List Byte}

theorem byte_write_add (h : m.write a bytes = .ok m') (hi : i < bytes.length) :
    m'.byte (a + i) = bytes[i] := by
  obtain ⟨rfl, hroom⟩ := write_eq_ok_iff.mp h
  have hend := (hroom (List.ne_nil_of_length_pos (by omega))).2
  exact byte_store_add m bytes hi (by omega)

/-- A write at an address of memory ends in memory, even one of nothing. -/
theorem write_room (h : m.write a bytes = .ok m') (ha : a < size) : a + bytes.length ≤ size := by
  by_cases hnil : bytes = []
  · rw [hnil, List.length_nil]
    exact ha.le
  · exact ((write_eq_ok_iff.mp h).2 hnil).2

end Memory

/-! ### Digits -/

/-- The digit of a byte that is loaded into register `r`. -/
def decimalDigit (b : Byte) (r : Nibble) : Byte := (decimalDigits b).getD r.toNat 0

theorem decimalDigit_le (b : Byte) (r : Nibble) : (decimalDigit b r).toNat ≤ 9 := by
  have hdigit : ∀ digit ∈ decimalDigits b, digit.toNat ≤ 9 := by
    have hb := b.isLt
    simp only [decimalDigits, List.map_cons, List.map_nil, List.forall_mem_cons, List.not_mem_nil,
      IsEmpty.forall_iff, implies_true, and_true, BitVec.toNat_ofNat]
    omega
  rw [decimalDigit, List.getD_eq_getElem?_getD]
  cases hget : (decimalDigits b)[r.toNat]? with
  | none => exact Nat.zero_le 9
  | some digit => exact hdigit digit (List.mem_of_getElem? hget)

theorem decimalDigit_sum (b : Byte) :
    100 * (decimalDigit b 0).toNat + 10 * (decimalDigit b 1).toNat + (decimalDigit b 2).toNat =
      b.toNat := by
  have hb := b.isLt
  have hhundreds : (decimalDigit b 0).toNat = b.toNat / 100 % 256 := BitVec.toNat_ofNat ..
  have htens : (decimalDigit b 1).toNat = b.toNat / 10 % 10 % 256 := BitVec.toNat_ofNat ..
  have hunits : (decimalDigit b 2).toNat = b.toNat % 10 % 256 := BitVec.toNat_ofNat ..
  omega

/-! ### Writing and loading -/

namespace State

/-- From `s` to `t`, memory takes on the bytes `value 0`, `value 1` and so on at the index register,
`length` of them, and changes nowhere else. -/
structure Dumped (length : Nat) (value : Nibble → Byte) (s t : State) : Prop where
  room : s.index + length ≤ Memory.size
  index : t.index = s.index
  written : ∀ r, r.toNat < length → t.memory.byte (s.index + r.toNat) = value r
  kept : ∀ a, a < s.index ∨ s.index + length ≤ a → t.memory.byte a = s.memory.byte a

/-- A state `t` about to load registers from where the index register of `s` points, with the same
`length` bytes there as in `s`. -/
structure Reloads (x : Nibble) (length : Nat) (s t : State) : Prop where
  reachable : ∃ cs, Reachable Memory.size cs t
  running : t.mode = .running
  room : t.pc ≠ 0xFFE
  opcode : t.currentOpcode = .ok (.ofDigits 0xF x 6 5)
  index : t.index = s.index
  bytes : ∀ i < length, t.memory.byte (s.index + i) = s.memory.byte (s.index + i)

/-- From `s` to `t`, the first `length` registers take on `value`, and no other register, no byte of
memory and not the index register changes. -/
structure Restored (length : Nat) (value : Nibble → Byte) (s t : State) : Prop where
  loaded : ∀ r, r.toNat < length → t.registers.get r = value r
  kept : ∀ r, length ≤ r.toNat → t.registers.get r = s.registers.get r
  memory : t.memory = s.memory
  index : t.index = s.index

/-- An opcode outside of the dump is left alone. -/
theorem Dumped.opcodeAt {length : Nat} {value : Nibble → Byte} {s t : State}
    (h : Dumped length value s t) {a : Nat} (ha : a + 1 < s.index ∨ s.index + length ≤ a) :
    t.opcodeAt a = s.opcodeAt a :=
  Memory.word_congr (h.kept a (by omega)) (h.kept (a + 1) (by omega))

end State

namespace Op

variable {c : Config} {o : Operands} {g : Generator} {s : State}

theorem getElem?_written_store {r : Nibble} (hr : r.toNat < c.transferLength o.x) :
    (store.written c o s)[r.toNat]? = some (s.registers.get r) := by
  rw [written, List.getElem?_take_of_lt hr, Registers.getElem?_toList]

theorem getElem?_written_ldDigits {r : Nibble} (hr : r.toNat < 3) :
    (ldDigits.written c o s)[r.toNat]? = some (decimalDigit (s.registers.get o.x) r) := by
  have hlength : r.toNat < (decimalDigits (s.registers.get o.x)).length := hr
  rw [written, decimalDigit, List.getD_eq_getElem?_getD, List.getElem?_eq_getElem hlength,
    Option.getD_some]

theorem exec_load (hread : s.index + c.transferLength o.x ≤ Memory.size) :
    load.exec c o g s =
      .ok ({ s with
        registers := s.registers.fill (s.memory.slice s.index (c.transferLength o.x)) }, .next) := by
  have hbytes := Memory.read_eq_ok_iff.mpr ⟨hread, Eq.refl (s.memory.slice s.index _)⟩
  simp only [exec, hbytes]

end Op

namespace Machine

variable {c : Config} {key : Option Key} {g : Generator} {s t : State} {length : Nat}
  {value : Nibble → Byte}

/-- The bytes that an instruction writes are those that memory has taken on after the step. -/
theorem step_dumped {d : Decoded} (hd : s.executing? = some d)
    (hop : d.op = .ldDigits ∨ d.op = .store) (hindex : s.index < Memory.size)
    (hvalue : ∀ r : Nibble, r.toNat < d.op.writeLength c d.operands →
      (d.op.written c d.operands s)[r.toNat]? = some (value r))
    (h : (step c key s g).outcome = .ok t) :
    State.Dumped (d.op.writeLength c d.operands) value s t := by
  have hwrite := step_executing_write hd h
  have hlength : (d.op.written c d.operands s).length = d.op.writeLength c d.operands :=
    Op.length_written
  rw [← hlength] at hvalue ⊢
  refine ⟨Memory.write_room hwrite hindex, ?index, ?written, ?kept⟩
  case index =>
    obtain ⟨u, route, hexec, rfl⟩ := step_executing_eq_ok hd h
    rw [State.tick_index]
    have hframe := Op.exec_frame hexec
    rcases hop with hop | hop <;>
      exact hframe.index (by simp [hop]) (by simp [hop]) (by simp [hop])
  case written =>
    intro r hr
    rw [Memory.byte_write_add hwrite hr]
    exact (List.getElem_eq_iff hr).mpr (hvalue r hr)
  case kept =>
    intro a ha
    exact Memory.byte_write_of_outside hwrite ha

theorem step_load {d : Decoded} (hd : s.executing? = some d) (hop : d.op = .load)
    (hread : s.index + c.transferLength d.operands.x ≤ Memory.size)
    (hroom : s.pc + 3 < Memory.size) :
    ∃ t, (step c key s g).outcome = .ok t ∧
      t.registers = s.registers.fill (s.memory.slice s.index (c.transferLength d.operands.x)) ∧
      t.memory = s.memory ∧ t.index = s.index := by
  have hexec := Op.exec_load (c := c) (o := d.operands) (g := g) (s := { s with key := key }) hread
  rw [← hop] at hexec
  exact ⟨_, step_executing_next hd hexec hroom, State.tick_registers c _, State.tick_memory c _,
    State.tick_index c _⟩

/-- What has been written is loaded again by any state that finds it. -/
theorem step_restored {x : Nibble} {s' : State} (hdumped : State.Dumped length value s t)
    (h : State.Reloads x length t s') (hlength : c.transferLength x = length) :
    ∃ t', (step c key s' g).outcome = .ok t' ∧ State.Restored length value s' t' := by
  obtain ⟨cs, hreachable⟩ := h.reachable
  have hroom := hreachable.sound.pc.room h.room
  have hdecode : decode (.ofDigits 0xF x 6 5) = .ok ⟨.ofDigits 0xF x 6 5, .load, { x := x }⟩ :=
    Opcode.decode_x (by decide) rfl rfl
  have hd := State.executing?_of_opcodeAt h.running h.opcode hdecode
  have hindex : s'.index = s.index := h.index.trans hdumped.index
  have hread : s'.index + c.transferLength x ≤ Memory.size := by
    rw [hindex, hlength]
    exact hdumped.room
  obtain ⟨t', hstep, hregisters, hmemory, hindex'⟩ := step_load hd rfl hread hroom
  rw [hlength, hindex] at hregisters
  refine ⟨t', hstep, ?loaded, ?kept, hmemory, hindex'⟩
  case loaded =>
    intro r hr
    have hbyte := h.bytes r.toNat hr
    rw [hdumped.index, hdumped.written r hr] at hbyte
    rw [hregisters, Registers.get_fill, List.getElem?_eq_getElem (by rwa [Memory.length_slice]),
      Memory.getElem_slice, Option.getD_some, hbyte]
  case kept =>
    intro r hr
    rw [hregisters, Registers.get_fill, List.getElem?_eq_none (by rwa [Memory.length_slice]),
      Option.getD_none]

end Machine

/-- `Fx55` puts the registers of its range into memory at the index register and changes no other byte,
and `Fx33` does so with three decimal digits that make up Vx. Whatever happens afterwards, a reachable
state that stands on an `Fx65` of the same length, with the index register and these bytes as they were
left, loads them: V0, V1 and so on take them on, and neither a register above, nor memory, nor the index
register changes. -/
theorem Reachable.dump_and_reload {cs : List Config} {s t : State} (h : Reachable Memory.size cs s)
    (c : Config) (key : Option Key) (g : Generator)
    (hstep : (Machine.step c key s g).outcome = .ok t) (x : Nibble) :
    (s.currentOpcode = .ok (.ofDigits 0xF x 5 5) →
      State.Dumped (c.transferLength x) s.registers.get s t ∧
      ∀ s', State.Reloads x (c.transferLength x) t s' →
        ∀ c' key' g', c'.transferRange = c.transferRange →
          ∃ t', (Machine.step c' key' s' g').outcome = .ok t' ∧
            State.Restored (c.transferLength x) s.registers.get s' t') ∧
    (s.currentOpcode = .ok (.ofDigits 0xF x 3 3) →
      ∃ digit : Nibble → Byte, (∀ r, (digit r).toNat ≤ 9) ∧
        100 * (digit 0).toNat + 10 * (digit 1).toNat + (digit 2).toNat = (s.registers.get x).toNat ∧
        State.Dumped 3 digit s t ∧
        ∀ s', State.Reloads 2 3 t s' →
          ∀ c' key' g', c'.transferRange = .inclusive →
            ∃ t', (Machine.step c' key' s' g').outcome = .ok t' ∧ State.Restored 3 digit s' t') := by
  have hindex := h.sound.index
  constructor
  · intro hw
    have hdecode : decode (.ofDigits 0xF x 5 5) = .ok ⟨.ofDigits 0xF x 5 5, .store, { x := x }⟩ :=
      Opcode.decode_x (by decide) rfl rfl
    have hd := h.executing_of_opcode hw hdecode nofun
    have hdumped : State.Dumped (c.transferLength x) s.registers.get s t :=
      Machine.step_dumped hd (.inr rfl) hindex (fun r hr => Op.getElem?_written_store hr) hstep
    refine ⟨hdumped, fun s' hs' c' key' g' hrange => Machine.step_restored hdumped hs' ?_⟩
    rw [Config.transferLength, Config.transferLength, hrange]
  · intro hw
    have hdecode : decode (.ofDigits 0xF x 3 3) = .ok ⟨.ofDigits 0xF x 3 3, .ldDigits, { x := x }⟩ :=
      Opcode.decode_x (by decide) rfl rfl
    have hd := h.executing_of_opcode hw hdecode nofun
    have hdumped : State.Dumped 3 (decimalDigit (s.registers.get x)) s t :=
      Machine.step_dumped hd (.inl rfl) hindex (fun r hr => Op.getElem?_written_ldDigits hr) hstep
    refine ⟨_, decimalDigit_le _, decimalDigit_sum _, hdumped,
      fun s' hs' c' key' g' hrange => Machine.step_restored hdumped hs' ?_⟩
    rw [Config.transferLength, hrange]
    rfl

/-- V0 and V1, which are 0 and 254, are dumped, and loaded again after V1 has become 7. Then the digits
of V1 are written and loaded. -/
theorem Reachable.dump_and_reload_254 :
    ∃ s t s' u v w : State, Reachable Memory.size [{}, {}] s ∧ s.currentOpcode = .ok 0xF155 ∧
      (Machine.step {} none s (Generator.cycling #[])).outcome = .ok t ∧
      t.memory.byte 0x20F = 254 ∧ State.Reloads 1 2 t s' ∧ s'.registers.get 1 = 7 ∧
      (Machine.step {} none s' (Generator.cycling #[])).outcome = .ok u ∧
      u.registers.get 1 = 254 ∧ u.currentOpcode = .ok 0xF133 ∧
      (Machine.step {} none u (Generator.cycling #[])).outcome = .ok v ∧ State.Reloads 2 3 v v ∧
      (Machine.step {} none v (Generator.cycling #[])).outcome = .ok w ∧
      (w.registers.get 0).toNat = 2 ∧ (w.registers.get 1).toNat = 5 ∧
      (w.registers.get 2).toNat = 4 := by
  let program : List Byte :=
    [0x61, 0xFE, 0xA2, 0x0E, 0xF1, 0x55, 0x61, 0x07, 0xF1, 0x65, 0xF1, 0x33, 0xF2, 0x65]
  -- The dump comes to lie right behind the program.
  let image : List Byte := program ++ [0, 254]
  let loaded : State := { State.initial with memory := Memory.initial.store programStart program }
  let first : State := { loaded with registers := Registers.zero.set 1 254, pc := 0x202, phase := 1 }
  let s : State := { first with index := 0x20E, pc := 0x204, phase := 2 }
  let t : State := { s with memory := s.memory.store 0x20E [0, 254], pc := 0x206, phase := 3 }
  let s' : State := { t with registers := t.registers.set 1 7, pc := 0x208, phase := 4 }
  let u : State :=
    { s' with registers := s'.registers.fill (s'.memory.slice 0x20E 2), pc := 0x20A, phase := 5 }
  let v : State :=
    { u with
      memory := u.memory.store 0x20E (decimalDigits (u.registers.get 1)), pc := 0x20C, phase := 6 }
  have hload : Reachable Memory.size [] loaded :=
    reachable_of_loadProgram (State.load_eq_ok_iff.mpr ⟨by decide, by decide, by decide, rfl⟩)
  have hfirst : Reachable Memory.size [{}] first :=
    hload.executing (State.executing?_of_stored program 0 0x61FE rfl (by decide) rfl rfl (by decide)
      (by decide) rfl) {} rfl
  have hs : Reachable Memory.size [{}, {}] s :=
    hfirst.executing (State.executing?_of_stored program 2 0xA20E rfl (by decide) rfl rfl (by decide)
      (by decide) rfl) {} rfl
  have hstore : s.executing? = some ⟨0xF155, .store, { x := 1 }⟩ :=
    State.executing?_of_stored program 4 0xF155 rfl (by decide) rfl rfl (by decide) (by decide) rfl
  have ht : (Machine.step {} none s (Generator.cycling #[])).outcome = .ok t :=
    (Machine.step_executing hstore).trans rfl
  have hs' : Reachable Memory.size [{}, {}, {}, {}] s' :=
    (hs.step none _ ht).executing (State.executing?_of_stored image 6 0x6107 rfl (by decide) rfl rfl
      (by decide) (by decide) rfl) {} rfl
  have hfill : s'.executing? = some ⟨0xF165, .load, { x := 1 }⟩ :=
    State.executing?_of_stored image 8 0xF165 rfl (by decide) rfl rfl (by decide) (by decide) rfl
  have hu : (Machine.step {} none s' (Generator.cycling #[])).outcome = .ok u :=
    (Machine.step_executing hfill).trans rfl
  have hdigits : u.executing? = some ⟨0xF133, .ldDigits, { x := 1 }⟩ :=
    State.executing?_of_stored image 10 0xF133 rfl (by decide) rfl rfl (by decide) (by decide) rfl
  have hv : (Machine.step {} none u (Generator.cycling #[])).outcome = .ok v :=
    (Machine.step_executing hdigits).trans rfl
  -- The dump and its reload.
  have hreloads : State.Reloads 1 2 t s' :=
    ⟨⟨_, hs'⟩, rfl, by decide, State.currentOpcode_of_executing hfill, rfl, fun _ _ => rfl⟩
  obtain ⟨hdump, _⟩ := hs.dump_and_reload {} none (Generator.cycling #[]) ht 1
  obtain ⟨hdumped, hreload⟩ := hdump (State.currentOpcode_of_executing hstore)
  obtain ⟨u', hu', hrestored⟩ := hreload s' hreloads {} none (Generator.cycling #[]) rfl
  obtain rfl : u' = u := Except.ok.inj (hu'.symm.trans hu)
  have hV1 : u.registers.get 1 = 254 := hrestored.loaded 1 (by decide)
  -- The digits of V1.
  obtain ⟨_, hdump'⟩ := (hs'.step none _ hu).dump_and_reload {} none (Generator.cycling #[]) hv 1
  obtain ⟨digit, hle, hsum, hdumped', hreload'⟩ :=
    hdump' (State.currentOpcode_of_executing hdigits)
  have hopcode : v.currentOpcode = .ok (Opcode.ofBytes 0xF2 0x65) := by
    have hword : u.opcodeAt 0x20C = .ok (Opcode.ofBytes 0xF2 0x65) :=
      Memory.word_store (a := 0x200) (i := 12) (by decide : 12 + 1 < image.length) (by decide)
    exact (hdumped'.opcodeAt (.inl (by decide))).trans hword
  have hreloads' : State.Reloads 2 3 v v :=
    ⟨⟨_, (hs'.step none _ hu).step none _ hv⟩, rfl, by decide, hopcode, rfl, fun _ _ => rfl⟩
  obtain ⟨w, hw, hloaded⟩ := hreload' v hreloads' {} none (Generator.cycling #[]) rfl
  have h254 : (u.registers.get 1).toNat = 254 := by rw [hV1]; rfl
  have hunique : (digit 0).toNat = 2 ∧ (digit 1).toNat = 5 ∧ (digit 2).toNat = 4 := by
    have h0 := hle 0
    have h1 := hle 1
    have h2 := hle 2
    omega
  refine ⟨s, t, s', u, v, w, hs, State.currentOpcode_of_executing hstore, ht,
    hdumped.written 1 (by decide), hreloads, rfl, hu, hV1, State.currentOpcode_of_executing hdigits,
    hv, hreloads', hw, ?_⟩
  rw [hloaded.loaded 0 (by decide), hloaded.loaded 1 (by decide), hloaded.loaded 2 (by decide)]
  exact hunique

end Chip8
