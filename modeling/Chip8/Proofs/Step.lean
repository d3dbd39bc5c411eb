import Chip8.Machine.Step

/-!
# What a step does

The instruction a step executes, what that instruction leaves alone and where it sends the machine.
`step_cases` lists the ways in which a step succeeds; the statements about runs are built on it.
-/

namespace Chip8

/-- The instruction that the next step executes. A waiting machine executes none. -/
def State.executing? (s : State) : Option Decoded :=
  match s.mode with
  | .running => s.fetch.toOption
  | .waiting _ => none

theorem State.running_or_waiting (s : State) :
    s.mode = .running ∨ ∃ r, s.mode = .waiting r := by
  cases s.mode with
  | running => exact .inl rfl
  | waiting r => exact .inr ⟨r, rfl⟩

theorem State.executing?_eq_some_iff {s : State} {d : Decoded} :
    s.executing? = some d ↔ s.mode = .running ∧ s.fetch = .ok d := by
  unfold State.executing?
  cases hm : s.mode with
  | waiting r => simp
  | running => cases hf : s.fetch <;> simp [Except.toOption]

theorem State.executing?_of_opcodeAt {s : State} {w : Opcode} {d : Decoded}
    (hmode : s.mode = .running) (hw : s.opcodeAt s.pc = .ok w) (hd : decode w = .ok d) :
    s.executing? = some d := by
  have hcurrent : s.currentOpcode = .ok w := hw
  rw [State.executing?_eq_some_iff]
  refine ⟨hmode, ?_⟩
  simp [State.fetch, hcurrent, hd]

theorem State.exists_decode_of_executing {s : State} {d : Decoded} (hd : s.executing? = some d) :
    ∃ w, s.currentOpcode = .ok w ∧ decode w = .ok d := by
  obtain ⟨_, hfetch⟩ := State.executing?_eq_some_iff.mp hd
  unfold State.fetch at hfetch
  cases hw : s.currentOpcode with
  | error e => simp [hw] at hfetch
  | ok w => cases hdecode : decode w <;> simp_all

theorem State.currentOpcode_of_executing {s : State} {d : Decoded} (hd : s.executing? = some d) :
    s.currentOpcode = .ok d.opcode := by
  obtain ⟨w, hw, hdecode⟩ := State.exists_decode_of_executing hd
  rw [hw, decode_opcode hdecode]

theorem State.fetch_eq_error_iff {s : State} {f : Fault} :
    s.fetch = .error f ↔
      (∃ e, s.currentOpcode = .error e ∧ f = .execution e) ∨
      (∃ w e, s.currentOpcode = .ok w ∧ decode w = .error e ∧ f = .decode e) := by
  unfold State.fetch
  cases hw : s.currentOpcode with
  | error e => simp [eq_comm]
  | ok w => cases hd : decode w <;> simp [hd, eq_comm]

/-! ### The program counter -/

namespace Flow

/-- Where the program counter stands afterwards, if it stood on `pc`. -/
def destination (pc : Nat) : Flow → Nat
  | next => pc + 2
  | jump target => target
  | await _ => pc

def modeAfter (m : Mode) : Flow → Mode
  | await r => .waiting r
  | _ => m

end Flow

namespace State

variable {s t : State} {f : ExecutionFault}

theorem advance_eq_ok_iff :
    s.advance = .ok t ↔ s.pc + 3 < Memory.size ∧ t = { s with pc := s.pc + 2 } := by
  unfold advance
  split
  · rename_i hroom
    simp [hroom, eq_comm]
  · rename_i hroom
    simp [hroom]

theorem advance_eq_error_iff :
    s.advance = .error f ↔ Memory.size ≤ s.pc + 3 ∧ f = .memoryOutOfBounds (s.pc + 2) := by
  unfold advance
  split
  · rename_i hroom
    simp [Nat.not_le.mpr hroom]
  · rename_i hroom
    simp [Nat.not_lt.mp hroom, eq_comm]

theorem jumpTo_eq_ok_iff {target : Nat} :
    s.jumpTo target = .ok t ↔
      target + 1 < Memory.size ∧ target % 2 = 0 ∧ t = { s with pc := target } := by
  unfold jumpTo
  split
  · rename_i hpast
    simp [Nat.not_lt.mpr hpast]
  · rename_i hroom
    split
    · rename_i hodd
      simp [hodd]
    · rename_i heven
      have hzero : target % 2 = 0 := by omega
      simp [Nat.not_le.mp hroom, hzero, eq_comm (a := t)]

theorem jumpTo_eq_error_iff {target : Nat} :
    s.jumpTo target = .error f ↔
      (Memory.size ≤ target + 1 ∧ f = .memoryOutOfBounds target) ∨
      (target + 1 < Memory.size ∧ target % 2 = 1 ∧ f = .misalignedJump target) := by
  unfold jumpTo
  split
  · rename_i hpast
    simp [hpast, Nat.not_lt.mpr hpast, eq_comm]
  · rename_i hroom
    have hlt : target + 1 < Memory.size := Nat.not_le.mp hroom
    split
    · rename_i hodd
      have hone : target % 2 = 1 := Nat.mod_two_ne_zero.mp hodd
      simp [hroom, hlt, hone, eq_comm]
    · rename_i heven
      have hzero : target % 2 = 0 := by omega
      simp [hroom, hzero]

theorem jumpTo_eq_error_iff_of_even {target : Nat} (heven : target % 2 = 0) :
    s.jumpTo target = .error f ↔ Memory.size ≤ target + 1 ∧ f = .memoryOutOfBounds target := by
  simp [jumpTo_eq_error_iff, heven]

/-- Following a flow moves the program counter and may make the machine wait; nothing else changes. -/
theorem follow_eq_ok {route : Flow} (h : s.follow route = .ok t) :
    t = { s with pc := route.destination s.pc, mode := route.modeAfter s.mode } := by
  cases route with
  | next => exact (advance_eq_ok_iff.mp h).2
  | jump target => exact (jumpTo_eq_ok_iff.mp h).2.2
  | await r =>
    cases h
    rfl

end State

/-! ### Instructions -/

namespace Op

/-- Whether an instruction skips the one that follows it. -/
def skips (o : Operands) (s : State) : Op → Bool
  | seByte => s.registers.get o.x == o.kk
  | sneByte => s.registers.get o.x != o.kk
  | seReg => s.registers.get o.x == s.registers.get o.y
  | sneReg => s.registers.get o.x != s.registers.get o.y
  | skp => s.keyMatches o.x
  | sknp => !s.keyMatches o.x
  | _ => false

/-- Where an instruction that can be carried out sends the machine. -/
def flow (o : Operands) (s : State) : Op → Flow
  | ret => .jump (s.stack.headD 0 + 2)
  | jp | call => .jump o.nnn.toNat
  | jpV0 => .jump ((s.registers.get 0).toNat + o.nnn.toNat)
  | ldKey => .await o.x
  | op => .skipIf s.pc (op.skips o s)

/-- Only `LD Vx, K` makes the machine wait. -/
theorem modeAfter_flow (o : Operands) (s : State) (op : Op) :
    (op.flow o s).modeAfter .running = if op = .ldKey then .waiting o.x else .running := by
  cases op
  case ret | jp | call | jpV0 | ldKey => rfl
  all_goals
    simp only [flow, Flow.skipIf]
    split <;> rfl

/-- What an instruction leaves alone, its move of the program counter apart. -/
structure Frame (op : Op) (s t : State) : Prop where
  pc : t.pc = s.pc
  key : t.key = s.key
  mode : t.mode = s.mode
  phase : t.phase = s.phase
  stack : op ≠ .call → op ≠ .ret → t.stack = s.stack
  index : op ≠ .ldI → op ≠ .addI → op ≠ .ldGlyph → t.index = s.index
  memory : op ≠ .ldDigits → op ≠ .store → t.memory = s.memory
  display : op ≠ .cls → op ≠ .drw → t.display = s.display
  delay : op ≠ .ldDelay → t.delay = s.delay
  sound : op ≠ .ldSound → t.sound = s.sound

variable {c : Config} {o : Operands} {g : Generator} {s t : State} {op : Op} {route : Flow}

theorem exec_flow (h : op.exec c o g s = .ok (t, route)) : route = op.flow o s := by
  cases op
  case ret =>
    simp only [exec] at h
    split at h
    · cases h
    · rename_i hstack
      cases h
      simp [flow, hstack]
  case call | drw | ldGlyph | ldDigits | store | load =>
    simp only [exec] at h
    split at h <;> cases h
    rfl
  all_goals
    simp only [exec] at h
    cases h
    rfl

theorem exec_frame (h : op.exec c o g s = .ok (t, route)) : op.Frame s t := by
  cases op
  case ret | call | drw | ldGlyph | ldDigits | store | load =>
    simp only [exec] at h
    split at h <;> cases h
    constructor <;> intros <;> first | rfl | contradiction
  all_goals
    simp only [exec] at h
    cases h
    constructor <;> intros <;> first | rfl | contradiction

theorem exec_call (h : call.exec c o g s = .ok (t, route)) :
    s.stack.length < c.stackDepth ∧ t.stack = s.pc :: s.stack := by
  simp only [exec] at h
  split at h
  · cases h
  · rename_i hdepth
    cases h
    exact ⟨Nat.not_le.mp hdepth, rfl⟩

theorem exec_ret (h : ret.exec c o g s = .ok (t, route)) :
    ∃ site, s.stack = site :: t.stack ∧ route = .jump (site + 2) := by
  simp only [exec] at h
  split at h
  · cases h
  · rename_i site rest hstack
    cases h
    exact ⟨site, hstack, rfl⟩

end Op

theorem Decoded.execute_eq_ok_iff {d : Decoded} {c : Config} {g : Generator} {s t : State} :
    d.execute c g s = .ok t ↔
      ∃ u route, d.op.exec c d.operands g s = .ok (u, route) ∧ u.follow route = .ok t := by
  unfold Decoded.execute
  cases d.op.exec c d.operands g s with
  | error f => simp
  | ok result =>
    obtain ⟨u, route⟩ := result
    constructor
    · intro h
      exact ⟨u, route, rfl, h⟩
    · rintro ⟨_, _, heq, h⟩
      cases heq
      exact h

/-- What an instruction leaves behind that can be carried out and followed. -/
theorem Decoded.execute_eq_ok {d : Decoded} {c : Config} {g : Generator} {s t : State}
    (h : d.execute c g s = .ok t) :
    ∃ u route, d.op.exec c d.operands g s = .ok (u, route) ∧
      t = { u with pc := route.destination u.pc, mode := route.modeAfter u.mode } := by
  obtain ⟨u, route, hexec, hfollow⟩ := execute_eq_ok_iff.mp h
  exact ⟨u, route, hexec, State.follow_eq_ok hfollow⟩

/-! ### The clock -/

namespace State

variable (c : Config) (s : State)

theorem tick_eq :
    s.tick c = { s with
      phase := (s.phase + 1) % c.period
      delay := if (s.phase + 1) % c.period = 0 then BitVec.ofNat 8 (s.delay.toNat - 1) else s.delay
      sound := if (s.phase + 1) % c.period = 0 then BitVec.ofNat 8 (s.sound.toNat - 1) else s.sound } := by
  by_cases htick : (s.phase + 1) % c.period = 0 <;> simp [tick, htick]

@[simp] theorem tick_memory : (s.tick c).memory = s.memory := by rw [tick_eq]
@[simp] theorem tick_registers : (s.tick c).registers = s.registers := by rw [tick_eq]
@[simp] theorem tick_index : (s.tick c).index = s.index := by rw [tick_eq]
@[simp] theorem tick_pc : (s.tick c).pc = s.pc := by rw [tick_eq]
@[simp] theorem tick_stack : (s.tick c).stack = s.stack := by rw [tick_eq]
@[simp] theorem tick_display : (s.tick c).display = s.display := by rw [tick_eq]
@[simp] theorem tick_key : (s.tick c).key = s.key := by rw [tick_eq]
@[simp] theorem tick_mode : (s.tick c).mode = s.mode := by rw [tick_eq]
@[simp] theorem tick_phase : (s.tick c).phase = (s.phase + 1) % c.period := by rw [tick_eq]

end State

/-! ### Steps -/

namespace Machine

variable {c : Config} {key : Option Key} {g : Generator} {s t : State}

theorem finish_eq_ok_iff {result : Except ExecutionFault State} :
    finish c result = .ok t ↔ ∃ u, result = .ok u ∧ t = u.tick c := by
  cases result <;> simp [finish, eq_comm]

theorem finish_eq_error_iff {result : Except ExecutionFault State} {f : Fault} :
    finish c result = .error f ↔ ∃ e, result = .error e ∧ f = .execution e := by
  cases result <;> simp [finish, eq_comm]

theorem receive_eq_ok_iff {r : Nibble} {k : Key} :
    receive s r k = .ok t ↔
      s.pc + 3 < Memory.size ∧
        t = { s with registers := s.registers.set r k.toByte, mode := .running, pc := s.pc + 2 } :=
  State.advance_eq_ok_iff

theorem step_waiting_none {r : Nibble} (hmode : s.mode = .waiting r) :
    (step c none s g).outcome = .ok (State.tick c { s with key := none }) := by
  cases s
  cases hmode
  rfl

theorem step_waiting_some {r : Nibble} (k : Key) (hmode : s.mode = .waiting r) :
    (step c (some k) s g).outcome = finish c (receive { s with key := some k } r k) := by
  cases s
  cases hmode
  rfl

theorem step_running (hmode : s.mode = .running) :
    step c key s g = execute c { s with key := key } g := by
  cases s
  cases hmode
  rfl

theorem step_fetch_error {f : Fault} (hmode : s.mode = .running) (hfetch : s.fetch = .error f) :
    (step c key s g).outcome = .error f := by
  have hfetch' : State.fetch { s with key := key } = .error f := hfetch
  rw [step_running hmode, execute, hfetch']

theorem step_executing {d : Decoded} (hd : s.executing? = some d) :
    (step c key s g).outcome = finish c (d.execute c g { s with key := key }) := by
  obtain ⟨hmode, hfetch⟩ := State.executing?_eq_some_iff.mp hd
  have hfetch' : State.fetch { s with key := key } = .ok d := hfetch
  rw [step_running hmode, execute, hfetch']

/-- What a step leaves behind that executes an instruction and succeeds. -/
theorem step_executing_eq_ok {d : Decoded} (hd : s.executing? = some d)
    (h : (step c key s g).outcome = .ok t) :
    ∃ u route, d.op.exec c d.operands g { s with key := key } = .ok (u, route) ∧
      t = State.tick c
        { u with pc := route.destination u.pc, mode := route.modeAfter u.mode } := by
  rw [step_executing hd] at h
  obtain ⟨v, hv, rfl⟩ := finish_eq_ok_iff.mp h
  obtain ⟨u, route, hexec, rfl⟩ := Decoded.execute_eq_ok hv
  exact ⟨u, route, hexec, rfl⟩

/-- An instruction that goes on with the next one succeeds if there is room for it. -/
theorem step_executing_next {d : Decoded} {u : State} (hd : s.executing? = some d)
    (hexec : d.op.exec c d.operands g { s with key := key } = .ok (u, .next))
    (hroom : s.pc + 3 < Memory.size) :
    (step c key s g).outcome = .ok (State.tick c { u with pc := s.pc + 2 }) := by
  have hpc : u.pc = s.pc := (Op.exec_frame hexec).pc
  have hadvance : u.advance = .ok { u with pc := s.pc + 2 } := by
    rw [State.advance_eq_ok_iff, hpc]
    exact ⟨hroom, rfl⟩
  rw [step_executing hd, finish_eq_ok_iff]
  exact ⟨_, Decoded.execute_eq_ok_iff.mpr ⟨u, .next, hexec, hadvance⟩, rfl⟩

theorem exists_executing (hmode : s.mode = .running) (h : (step c key s g).outcome = .ok t) :
    ∃ d, s.executing? = some d := by
  cases hfetch : s.fetch with
  | error f =>
    rw [step_fetch_error hmode hfetch] at h
    cases h
  | ok d => exact ⟨d, State.executing?_eq_some_iff.mpr ⟨hmode, hfetch⟩⟩

/-- A step that executes an instruction goes where the instruction sends the machine. -/
theorem step_executing_pc {d : Decoded} (hd : s.executing? = some d)
    (h : (step c key s g).outcome = .ok t) :
    t.pc = (d.op.flow d.operands { s with key := key }).destination s.pc := by
  obtain ⟨u, route, hexec, rfl⟩ := step_executing_eq_ok hd h
  rw [State.tick_pc, (Op.exec_frame hexec).pc, Op.exec_flow hexec]

theorem step_executing_mode {d : Decoded} (hd : s.executing? = some d)
    (h : (step c key s g).outcome = .ok t) :
    t.mode = if d.op = .ldKey then .waiting d.operands.x else .running := by
  obtain ⟨hmode, _⟩ := State.executing?_eq_some_iff.mp hd
  obtain ⟨u, route, hexec, rfl⟩ := step_executing_eq_ok hd h
  rw [State.tick_mode, (Op.exec_frame hexec).mode, hmode, Op.exec_flow hexec, Op.modeAfter_flow]

/-- What a waiting step leaves behind. A key goes into the register, and the machine moves on. -/
theorem step_waiting_eq_ok {r : Nibble} (hmode : s.mode = .waiting r)
    (h : (step c key s g).outcome = .ok t) :
    key = none ∧ t = State.tick c { s with key := none } ∨
      ∃ k, key = some k ∧ s.pc + 3 < Memory.size ∧
        t = State.tick c
          { s with
            registers := s.registers.set r k.toByte, mode := .running, pc := s.pc + 2
            key := some k } := by
  cases key with
  | none =>
    rw [step_waiting_none hmode] at h
    exact .inl ⟨rfl, (Except.ok.inj h).symm⟩
  | some k =>
    rw [step_waiting_some k hmode] at h
    obtain ⟨u, hu, rfl⟩ := finish_eq_ok_iff.mp h
    obtain ⟨hroom, rfl⟩ := receive_eq_ok_iff.mp hu
    exact .inr ⟨k, rfl, hroom, rfl⟩

/-- A waiting machine stays where it is until a key takes it past the instruction. -/
theorem step_waiting_route {r : Nibble} (hmode : s.mode = .waiting r)
    (h : (step c key s g).outcome = .ok t) :
    (key = none → t.pc = s.pc ∧ t.mode = .waiting r ∧ t.registers = s.registers) ∧
      ∀ k, key = some k →
        t.pc = s.pc + 2 ∧ t.mode = .running ∧ t.registers = s.registers.set r k.toByte := by
  rcases step_waiting_eq_ok hmode h with ⟨rfl, rfl⟩ | ⟨k, rfl, _, rfl⟩
  · rw [State.tick_pc, State.tick_mode, State.tick_registers]
    exact ⟨fun _ => ⟨rfl, hmode, rfl⟩, nofun⟩
  · rw [State.tick_pc, State.tick_mode, State.tick_registers]
    refine ⟨nofun, ?_⟩
    rintro _ ⟨⟩
    exact ⟨rfl, rfl, rfl⟩

theorem step_waiting_generator {r : Nibble} (hmode : s.mode = .waiting r) :
    (step c key s g).generator = g := by
  cases s
  cases hmode
  cases key <;> rfl

theorem step_executing_generator {d : Decoded} (hd : s.executing? = some d) :
    (step c key s g).generator = d.generatorAfter g := by
  obtain ⟨hmode, hfetch⟩ := State.executing?_eq_some_iff.mp hd
  have hfetch' : State.fetch { s with key := key } = .ok d := hfetch
  rw [step_running hmode, execute, hfetch']

/-- A step goes on waiting, or ends the wait, or executes an instruction, and then the clock ticks. -/
theorem step_cases (h : (step c key s g).outcome = .ok t) :
    (∃ r, s.mode = .waiting r ∧ key = none ∧ t = State.tick c { s with key := none }) ∨
    (∃ r k, s.mode = .waiting r ∧ key = some k ∧ s.pc + 3 < Memory.size ∧
      t = State.tick c
        { s with
          registers := s.registers.set r k.toByte, mode := .running, pc := s.pc + 2
          key := some k }) ∨
    (∃ d u, s.executing? = some d ∧ d.execute c g { s with key := key } = .ok u ∧
      t = u.tick c) := by
  rcases s.running_or_waiting with hmode | ⟨r, hmode⟩
  · obtain ⟨d, hd⟩ := exists_executing hmode h
    rw [step_executing hd] at h
    obtain ⟨u, hu, ht⟩ := finish_eq_ok_iff.mp h
    exact .inr (.inr ⟨d, u, hd, hu, ht⟩)
  · rcases step_waiting_eq_ok hmode h with ⟨hkey, ht⟩ | ⟨k, hkey, hroom, ht⟩
    · exact .inl ⟨r, hmode, hkey, ht⟩
    · exact .inr (.inl ⟨r, k, hmode, hkey, hroom, ht⟩)

end Machine

end Chip8
