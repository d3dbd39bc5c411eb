import Chip8.Proofs.Effects
import Chip8.Proofs.Randomness

/-!
# Comparing two machines

Two machines that each take a step. Their states, keys and configurations may differ, but what the
next instruction looks at is the same for both (`Machine.LooksAlike`). Then both fail with the same
fault, or both succeed and do the same to their states (`Machine.ActsAlike`). Runs are compared step by
step, by a relation that every pair of steps keeps.
-/

namespace Chip8

attribute [ext] State RunResult

/-- Both fail with the same report, or both succeed with results that `R` relates. -/
def SameOutcome {ε α : Type} (R : α → α → Prop) (x y : Except ε α) : Prop :=
  (∃ f, x = .error f ∧ y = .error f) ∨ ∃ a b, x = .ok a ∧ y = .ok b ∧ R a b

theorem SameOutcome.imp {ε α : Type} {R Q : α → α → Prop} {x y : Except ε α}
    (h : SameOutcome R x y) (himp : ∀ a b, x = .ok a → y = .ok b → R a b → Q a b) :
    SameOutcome Q x y := by
  rcases h with hfails | ⟨a, b, hx, hy, hab⟩
  · exact .inl hfails
  · exact .inr ⟨a, b, hx, hy, himp a b hx hy hab⟩

/-! ### Memory -/

namespace Memory

variable {m m' n n' : Memory} {a i : Nat} {bytes : List Byte}

theorem read_congr {length : Nat} (h : ∀ i, a ≤ i → i < a + length → m'.byte i = m.byte i) :
    m'.read a length = m.read a length := by
  rw [read, read, slice_congr h]

/-- Whether a write succeeds does not depend on what was in memory. -/
theorem write_alike (m m' : Memory) (a : Nat) (bytes : List Byte) :
    SameOutcome (fun _ _ => True) (m.write a bytes) (m'.write a bytes) := by
  cases hwrite : m.write a bytes with
  | error f =>
    refine .inl ⟨f, rfl, ?_⟩
    rw [write_eq_error_iff] at hwrite ⊢
    exact hwrite
  | ok n =>
    obtain ⟨_, hroom⟩ := write_eq_ok_iff.mp hwrite
    exact .inr ⟨n, m'.store a bytes, rfl, write_eq_ok_iff.mpr ⟨rfl, hroom⟩, trivial⟩

/-- The bytes in the range of a write are those written. -/
theorem byte_write_of_inside (h : m.write a bytes = .ok n) (h' : m'.write a bytes = .ok n')
    (hlow : a ≤ i) (hhigh : i < a + bytes.length) : n'.byte i = n.byte i := by
  obtain ⟨rfl, hroom⟩ := write_eq_ok_iff.mp h
  obtain ⟨rfl, _⟩ := write_eq_ok_iff.mp h'
  obtain ⟨j, rfl⟩ := Nat.exists_eq_add_of_le hlow
  have hj : j < bytes.length := by omega
  have hsize := (hroom (List.ne_nil_of_length_pos (by omega))).2
  rw [byte_store_add m' bytes hj (by omega), byte_store_add m bytes hj (by omega)]

end Memory

/-! ### Instructions -/

/-- The parts of the state that any instruction may look at are the same in both. -/
structure State.SameCore (s s' : State) : Prop where
  registers : s'.registers = s.registers
  index : s'.index = s.index
  pc : s'.pc = s.pc
  stack : s'.stack = s.stack
  mode : s'.mode = s.mode

theorem State.SameCore.eq_with {s s' : State} (h : s.SameCore s') :
    s' = { s with
      memory := s'.memory, delay := s'.delay, sound := s'.sound, display := s'.display
      key := s'.key, phase := s'.phase } :=
  State.ext rfl h.registers h.index h.pc h.stack rfl rfl rfl rfl h.mode rfl

namespace Op

/-- What only some instructions look at is the same in both states, if this is one of them. -/
structure SeesSame (c : Config) (o : Operands) (s s' : State) (op : Op) : Prop where
  key : op = .skp ∨ op = .sknp → s'.key = s.key
  delay : op = .ldRegDelay → s'.delay = s.delay
  display : op = .drw → s'.display = s.display
  memory : ∀ a, s.index ≤ a → a < s.index + op.readLength c o → s'.memory.byte a = s.memory.byte a

/-- Both configurations mean the same for an instruction that finds this stack. -/
structure ConfiguredSame (c c' : Config) (o : Operands) (stack : List Nat) (op : Op) : Prop where
  shift : op = .shr ∨ op = .shl → c'.shiftSource = c.shiftSource ∨ o.x = o.y
  range : op = .store ∨ op = .load → c'.transferRange = c.transferRange
  depth : op = .call → c'.stackDepth = c.stackDepth ∨
    stack.length < c.stackDepth ∧ stack.length < c'.stackDepth

end Op

namespace State

/-- What was done to `s` to get `t` was also done to `s'` to get `t'`, and it included writing
`length` bytes. -/
structure SameAction (length : Nat) (s s' t t' : State) : Prop where
  core : t.SameCore t'
  memory : ∃ bytes : List Byte, bytes.length = length ∧
    s.memory.write s.index bytes = .ok t.memory ∧ s'.memory.write s.index bytes = .ok t'.memory
  display : s'.display = s.display → t'.display = t.display

variable {s s' t t' : State}

theorem SameAction.of_unwritten (hcore : t.SameCore t') (hmemory : t.memory = s.memory)
    (hmemory' : t'.memory = s'.memory) (hdisplay : s'.display = s.display → t'.display = t.display) :
    SameAction 0 s s' t t' where
  core := hcore
  memory := by
    rw [hmemory, hmemory']
    exact ⟨[], rfl, rfl, rfl⟩
  display := hdisplay

/-- Neither a move of the program counter nor a tick of the clock takes part in an action. -/
theorem SameAction.move {length : Nat} (h : SameAction length s s' t t') (route : Flow) :
    SameAction length s s'
      { t with pc := route.destination t.pc, mode := route.modeAfter t.mode }
      { t' with pc := route.destination t'.pc, mode := route.modeAfter t'.mode } where
  core := ⟨h.core.registers, h.core.index, by rw [h.core.pc], h.core.stack, by rw [h.core.mode]⟩
  memory := h.memory
  display := h.display

theorem SameAction.tick {length : Nat} (h : SameAction length s s' t t') (c c' : Config) :
    SameAction length s s' (t.tick c) (t'.tick c') where
  core := by
    constructor
    case registers => simpa using h.core.registers
    case index => simpa using h.core.index
    case pc => simpa using h.core.pc
    case stack => simpa using h.core.stack
    case mode => simpa using h.core.mode
  memory := by
    rw [tick_memory, tick_memory]
    exact h.memory
  display := by
    rw [tick_display, tick_display]
    exact h.display

theorem SameAction.memory_eq {length : Nat} (h : SameAction length s s' t t')
    (hmemory : s'.memory = s.memory) : t'.memory = t.memory := by
  obtain ⟨bytes, _, hwrite, hwrite'⟩ := h.memory
  rw [hmemory, hwrite] at hwrite'
  exact (Except.ok.inj hwrite').symm

theorem follow_alike {length : Nat} (h : SameAction length s s' t t') (route : Flow) :
    SameOutcome (SameAction length s s') (t.follow route) (t'.follow route) := by
  have hpc := h.core.pc
  cases hfollow : t.follow route with
  | error f => exact .inl ⟨f, rfl, (follow_eq_error_of_pc hpc).mpr hfollow⟩
  | ok u =>
    cases hfollow' : t'.follow route with
    | error f =>
      rw [follow_eq_error_of_pc hpc, hfollow] at hfollow'
      cases hfollow'
    | ok u' =>
      refine .inr ⟨u, u', rfl, rfl, ?_⟩
      rw [follow_eq_ok hfollow, follow_eq_ok hfollow']
      exact h.move route

end State

namespace Op

variable {c c' : Config} {o : Operands} {s s' : State} {op : Op}

theorem ConfiguredSame.of_divider (c : Config) (divider : Byte) (o : Operands) (stack : List Nat)
    (op : Op) : op.ConfiguredSame c { c with timerDivider := divider } o stack where
  shift _ := .inl rfl
  range _ := rfl
  depth _ := .inl rfl

theorem ConfiguredSame.refl (c : Config) (o : Operands) (stack : List Nat) (op : Op) :
    op.ConfiguredSame c c o stack :=
  .of_divider c c.timerDivider o stack op

theorem ConfiguredSame.transferLength (h : op.ConfiguredSame c c' o s.stack)
    (hop : op = .store ∨ op = .load) : c'.transferLength o.x = c.transferLength o.x := by
  rw [Config.transferLength, Config.transferLength, h.range hop]

theorem ConfiguredSame.shiftOperand (h : op.ConfiguredSame c c' o s.stack)
    (hop : op = .shr ∨ op = .shl) : s.shiftOperand c' o = s.shiftOperand c o := by
  unfold State.shiftOperand
  rcases h.shift hop with hsource | hxy
  · rw [hsource]
  · rw [hxy]
    cases c'.shiftSource <;> cases c.shiftSource <;> rfl

private theorem alike_of_unwritten {t t' : State} {route : Flow} (hcore : t.SameCore t')
    (hmemory : t.memory = s.memory) (hmemory' : t'.memory = s'.memory)
    (hdisplay : s'.display = s.display → t'.display = t.display) :
    SameOutcome (fun r r' => r'.2 = r.2 ∧ State.SameAction 0 s s' r.1 r'.1)
      (.ok (t, route) : Except ExecutionFault (State × Flow)) (.ok (t', route)) :=
  .inr ⟨_, _, rfl, rfl, rfl, .of_unwritten hcore hmemory hmemory' hdisplay⟩

/-- What an instruction reports, where it sends the machine and what it writes depend only on what it
looks at. -/
theorem exec_alike (g : Generator) (hcore : s.SameCore s') (hsees : op.SeesSame c o s s')
    (hconfig : op.ConfiguredSame c c' o s.stack) :
    SameOutcome (fun r r' => r'.2 = r.2 ∧ State.SameAction (op.writeLength c o) s s' r.1 r'.1)
      (op.exec c o g s) (op.exec c' o g s') := by
  obtain ⟨m', delay', sound', display', key', phase', rfl⟩ :
      ∃ m' delay' sound' display' key' phase', s' =
        { s with memory := m', delay := delay', sound := sound', display := display'
                 key := key', phase := phase' } :=
    ⟨_, _, _, _, _, _, hcore.eq_with⟩
  -- From here on each instruction computes the same from both states. Those with a case of their own
  -- look at more than the core, can fail, write to memory or clear the picture.
  have hread := Memory.read_congr hsees.memory
  cases op
  case skp | sknp =>
    obtain rfl : key' = s.key := hsees.key (by decide)
    exact alike_of_unwritten ⟨rfl, rfl, rfl, rfl, rfl⟩ rfl rfl id
  case ldRegDelay =>
    obtain rfl : delay' = s.delay := hsees.delay rfl
    exact alike_of_unwritten ⟨rfl, rfl, rfl, rfl, rfl⟩ rfl rfl id
  case shr | shl =>
    have hshift := hconfig.shiftOperand (by decide)
    simp only [State.shiftOperand] at hshift
    simp only [exec, exec.shifted, State.shiftOperand, hshift]
    exact alike_of_unwritten ⟨rfl, rfl, rfl, rfl, rfl⟩ rfl rfl id
  case ret =>
    simp only [exec]
    cases s.stack with
    | nil => exact .inl ⟨_, rfl, rfl⟩
    | cons site rest => exact alike_of_unwritten ⟨rfl, rfl, rfl, rfl, rfl⟩ rfl rfl id
  case call =>
    simp only [exec]
    rcases hconfig.depth rfl with hdepth | ⟨hroom, hroom'⟩
    · rw [hdepth]
      split
      · exact .inl ⟨_, rfl, rfl⟩
      · exact alike_of_unwritten ⟨rfl, rfl, rfl, rfl, rfl⟩ rfl rfl id
    · rw [if_neg (Nat.not_le.mpr hroom), if_neg (Nat.not_le.mpr hroom')]
      exact alike_of_unwritten ⟨rfl, rfl, rfl, rfl, rfl⟩ rfl rfl id
  case ldGlyph =>
    simp only [exec, exec.vx]
    cases Font.glyphAddress? (s.registers.get o.x) with
    | none => exact .inl ⟨_, rfl, rfl⟩
    | some a => exact alike_of_unwritten ⟨rfl, rfl, rfl, rfl, rfl⟩ rfl rfl id
  case drw =>
    obtain rfl : display' = s.display := hsees.display rfl
    simp only [readLength] at hread
    simp only [exec, exec.vx, exec.vy, hread]
    cases s.memory.read s.index o.n.toNat with
    | error f => exact .inl ⟨_, rfl, rfl⟩
    | ok sprite => exact alike_of_unwritten ⟨rfl, rfl, rfl, rfl, rfl⟩ rfl rfl fun _ => rfl
  case load =>
    simp only [readLength] at hread
    simp only [exec, hconfig.transferLength (.inr rfl), hread]
    cases s.memory.read s.index (c.transferLength o.x) with
    | error f => exact .inl ⟨_, rfl, rfl⟩
    | ok bytes => exact alike_of_unwritten ⟨rfl, rfl, rfl, rfl, rfl⟩ rfl rfl id
  case ldDigits =>
    simp only [exec, exec.vx]
    rcases Memory.write_alike s.memory m' s.index (decimalDigits (s.registers.get o.x)) with
      ⟨f, hwrite, hwrite'⟩ | ⟨n, n', hwrite, hwrite', _⟩
    · simp only [hwrite, hwrite']
      exact .inl ⟨f, rfl, rfl⟩
    · simp only [hwrite, hwrite']
      exact .inr ⟨_, _, rfl, rfl, rfl, ⟨rfl, rfl, rfl, rfl, rfl⟩, ⟨_, rfl, hwrite, hwrite'⟩, id⟩
  case store =>
    simp only [exec, hconfig.transferLength (.inl rfl)]
    rcases Memory.write_alike s.memory m' s.index
        (s.registers.toList.take (c.transferLength o.x)) with
      ⟨f, hwrite, hwrite'⟩ | ⟨n, n', hwrite, hwrite', _⟩
    · simp only [hwrite, hwrite']
      exact .inl ⟨f, rfl, rfl⟩
    · simp only [hwrite, hwrite']
      exact .inr ⟨_, _, rfl, rfl, rfl, ⟨rfl, rfl, rfl, rfl, rfl⟩,
        ⟨_, length_transferred, hwrite, hwrite'⟩, id⟩
  case cls => exact alike_of_unwritten ⟨rfl, rfl, rfl, rfl, rfl⟩ rfl rfl fun _ => rfl
  all_goals exact alike_of_unwritten ⟨rfl, rfl, rfl, rfl, rfl⟩ rfl rfl id

end Op

theorem Decoded.execute_alike {d : Decoded} {c c' : Config} {s s' : State} (g : Generator)
    (hcore : s.SameCore s') (hsees : d.op.SeesSame c d.operands s s')
    (hconfig : d.op.ConfiguredSame c c' d.operands s.stack) :
    SameOutcome (State.SameAction (d.op.writeLength c d.operands) s s')
      (d.execute c g s) (d.execute c' g s') := by
  unfold Decoded.execute
  rcases Op.exec_alike g hcore hsees hconfig with
    ⟨f, hexec, hexec'⟩ | ⟨⟨t, route⟩, ⟨t', route'⟩, hexec, hexec', hroute, haction⟩
  · simp only [hexec, hexec']
    exact .inl ⟨f, rfl, rfl⟩
  · obtain rfl : route' = route := hroute
    simp only [hexec, hexec']
    exact State.follow_alike haction route'

/-! ### Steps -/

namespace State

theorem exists_executing_of_op? {s : State} {op : Op} (hop : s.op? = some op) :
    ∃ d, s.executing? = some d ∧ d.op = op :=
  Option.map_eq_some_iff.mp hop

/-- How many bytes the next step reads from the index register on, the opcode not counted. -/
def readLength (c : Config) (s : State) : Nat :=
  match s.executing? with
  | some d => d.op.readLength c d.operands
  | none => 0

/-- How many bytes the next step writes from the index register on. -/
def writeLength (c : Config) (s : State) : Nat :=
  match s.executing? with
  | some d => d.op.writeLength c d.operands
  | none => 0

end State

/-- Two steps that leave the generator at the same place and that fail alike or succeed with states
that `R` relates. -/
structure StepResult.Alike (R : State → State → Prop) (r r' : StepResult) : Prop where
  outcome : SameOutcome R r.outcome r'.outcome
  generator : r'.generator = r.generator

namespace Machine

/-- What the next step looks at is the same from `s` and from `s'`. -/
structure LooksAlike (c c' : Config) (key key' : Option Key) (s s' : State) : Prop where
  core : s.SameCore s'
  opcode : s.mode = .running → s'.currentOpcode = s.currentOpcode
  held : ∀ r, s.mode = .waiting r → key' = key
  sees : ∀ d, s.executing? = some d →
    d.op.SeesSame c d.operands { s with key := key } { s' with key := key' }
  config : ∀ d, s.executing? = some d → d.op.ConfiguredSame c c' d.operands s.stack

/-- What a step did to `s` to get `t` was also done to `s'` to get `t'`, and of the parts that steps
change but do not look at, those that were the same are the same again. -/
structure ActsAlike (c c' : Config) (key key' : Option Key) (s s' t t' : State) : Prop
    extends State.SameAction (s.writeLength c) s s' t t' where
  key : key' = key → t'.key = t.key
  phase : c'.period = c.period → s'.phase = s.phase → t'.phase = t.phase
  timer : ∀ k, c'.period = c.period → s'.phase = s.phase → s'.timer k = s.timer k →
    t'.timer k = t.timer k

variable {c c' : Config} {key key' : Option Key} {g : Generator} {s s' t t' : State}

theorem finish_alike {n : Nat} {x x' : Except ExecutionFault State}
    (h : SameOutcome (State.SameAction n s s') x x') :
    SameOutcome (State.SameAction n s s') (finish c x) (finish c' x') := by
  rcases h with ⟨f, rfl, rfl⟩ | ⟨t, t', rfl, rfl, haction⟩
  · exact .inl ⟨_, rfl, rfl⟩
  · exact .inr ⟨_, _, rfl, rfl, haction.tick c c'⟩

namespace LooksAlike

theorem fetch (h : LooksAlike c c' key key' s s') (hmode : s.mode = .running) :
    s'.fetch = s.fetch := by
  rw [State.fetch, State.fetch, h.opcode hmode]

theorem executing? (h : LooksAlike c c' key key' s s') : s'.executing? = s.executing? := by
  unfold State.executing?
  rw [h.core.mode]
  cases hmode : s.mode with
  | running => simp only [h.fetch hmode]
  | waiting r => rfl

theorem isAtRandom (h : LooksAlike c c' key key' s s') : s'.isAtRandom = s.isAtRandom := by
  unfold State.isAtRandom
  rw [h.core.mode]
  cases hmode : s.mode with
  | running => rw [h.opcode hmode]
  | waiting r => rfl

theorem timerBeforeTick (h : LooksAlike c c' key key' s s') {k : Timer}
    (hk : s'.timer k = s.timer k) : s'.timerBeforeTick k = s.timerBeforeTick k := by
  simp only [State.timerBeforeTick, State.written?, h.executing?, h.core.registers, hk]

/-- With the same memory, only the two instructions that read them care about timers and picture. -/
theorem of_memory (hcore : s.SameCore s') (hmemory : s'.memory = s.memory)
    (hdelay : s.op? = some .ldRegDelay → s'.delay = s.delay)
    (hdisplay : s.op? = some .drw → s'.display = s.display)
    (hconfig : ∀ d, s.executing? = some d → d.op.ConfiguredSame c c' d.operands s.stack) :
    LooksAlike c c' key key s s' where
  core := hcore
  opcode _ := by rw [State.currentOpcode, State.currentOpcode, State.opcodeAt, State.opcodeAt,
    hmemory, hcore.pc]
  held _ _ := rfl
  sees := by
    intro d hd
    have hop := State.op?_of_executing hd
    refine ⟨fun _ => rfl, fun hread => hdelay ?_, fun hdraw => hdisplay ?_, fun a _ _ => ?_⟩
    · rw [hop, hread]
    · rw [hop, hdraw]
    · rw [hmemory]
  config := hconfig

end LooksAlike

private theorem action_of_waiting {r : Nibble} (h : LooksAlike c c' key key' s s')
    (hmode : s.mode = .waiting r) :
    SameOutcome (State.SameAction 0 s s') (step c key s g).outcome (step c' key' s' g).outcome := by
  have hmode' : s'.mode = .waiting r := h.core.mode.trans hmode
  obtain rfl := h.held r hmode
  cases key' with
  | none =>
    rw [step_waiting_none hmode, step_waiting_none hmode']
    have hidle : State.SameAction 0 s s' { s with key := none } { s' with key := none } :=
      .of_unwritten { h.core with } rfl rfl id
    exact .inr ⟨_, _, rfl, rfl, hidle.tick c c'⟩
  | some k =>
    rw [step_waiting_some k hmode, step_waiting_some k hmode']
    have hstored : State.SameAction 0 s s'
        { s with key := some k, registers := s.registers.set r k.toByte, mode := .running }
        { s' with key := some k, registers := s'.registers.set r k.toByte, mode := .running } :=
      .of_unwritten { h.core with registers := by rw [h.core.registers], mode := rfl } rfl rfl id
    exact finish_alike (State.follow_alike hstored .next)

private theorem action_of_executing {d : Decoded} (h : LooksAlike c c' key key' s s')
    (hd : s.executing? = some d) :
    SameOutcome (State.SameAction (d.op.writeLength c d.operands) s s')
      (step c key s g).outcome (step c' key' s' g).outcome := by
  rw [step_executing hd, step_executing (h.executing?.trans hd)]
  have hcore : State.SameCore { s with key := key } { s' with key := key' } := { h.core with }
  apply finish_alike
  apply (Decoded.execute_alike g hcore (h.sees d hd) (h.config d hd)).imp
  intro t t' _ _ haction
  exact ⟨haction.core, haction.memory, haction.display⟩

theorem step_action (h : LooksAlike c c' key key' s s') :
    SameOutcome (State.SameAction (s.writeLength c) s s')
      (step c key s g).outcome (step c' key' s' g).outcome := by
  rcases s.running_or_waiting with hmode | ⟨r, hmode⟩
  · have hmode' : s'.mode = .running := h.core.mode.trans hmode
    cases hfetch : s.fetch with
    | error f =>
      have hfetch' : s'.fetch = .error f := (h.fetch hmode).trans hfetch
      exact .inl ⟨f, step_fetch_error hmode hfetch, step_fetch_error hmode' hfetch'⟩
    | ok d =>
      have hd : s.executing? = some d := State.executing?_eq_some_iff.mpr ⟨hmode, hfetch⟩
      have hlength : s.writeLength c = d.op.writeLength c d.operands := by
        simp only [State.writeLength, hd]
      rw [hlength]
      exact action_of_executing h hd
  · have hlength : s.writeLength c = 0 := by
      simp only [State.writeLength, State.executing?, hmode]
    rw [hlength]
    exact action_of_waiting h hmode

/-- A step depends on nothing but what it looks at. -/
theorem step_alike (g : Generator) (h : LooksAlike c c' key key' s s') :
    (step c key s g).Alike (ActsAlike c c' key key' s s') (step c' key' s' g) where
  outcome := by
    apply (step_action h).imp
    intro t t' hstep hstep' haction
    obtain ⟨hphase, htimer⟩ := step_ticks hstep
    obtain ⟨hphase', htimer'⟩ := step_ticks hstep'
    refine { haction with key := ?key, phase := ?phase, timer := ?timer }
    case key =>
      intro hkey
      rw [(effects_of_step hstep).key, (effects_of_step hstep').key, hkey]
    case phase =>
      intro hperiod hsame
      rw [hphase, hphase', hperiod, hsame]
    case timer =>
      intro k hperiod hsame hk
      rw [← BitVec.toNat_inj, htimer, htimer', h.timerBeforeTick hk, hperiod, hsame]
  generator := by
    rw [step_generator, step_generator, h.isAtRandom]

end Machine

/-! ### Runs -/

/-- Two runs that end in states which `R` relates, with the same fault if one of them faults, and with
the generator at the same place. -/
structure RunResult.Alike (R : State → State → Prop) (r r' : RunResult) : Prop where
  state : R r.state r'.state
  fault : r'.fault = r.fault
  generator : r'.generator = r.generator

theorem RunResult.Alike.imp {R Q : State → State → Prop} {r r' : RunResult} (h : r.Alike R r')
    (himp : R r.state r'.state → Q r.state r'.state) : r.Alike Q r' :=
  ⟨himp h.state, h.fault, h.generator⟩

theorem RunResult.Alike.eq {r r' : RunResult} (h : r.Alike Eq r') : r' = r :=
  RunResult.ext h.state.symm h.fault h.generator

namespace Machine

variable {c c' : Config} {key key' : Option Key} {keys keys' : List (Option Key)} {g : Generator}
  {s s' : State} {R Q : State → State → Prop}

theorem getElem?_starts_zero (c : Config) (key : Option Key) (keys : List (Option Key)) (s : State)
    (g : Generator) : (starts c (key :: keys) s g)[0]? = some s := by
  cases hstep : (step c key s g).outcome with
  | error f =>
    rw [starts_cons_of_error hstep]
    rfl
  | ok t =>
    rw [starts_cons_of_ok hstep]
    rfl

/-- If the first steps are alike, then so are the runs that begin with them, as long as what follows
is. -/
theorem runKeys_cons_alike (h : (step c key s g).Alike R (step c' key' s' g))
    (hfails : ∀ f, (step c key s g).outcome = .error f → Q s s')
    (hrest : ∀ t t', (step c key s g).outcome = .ok t → (step c' key' s' g).outcome = .ok t' →
      R t t' → (runKeys c keys t (step c key s g).generator).Alike Q
        (runKeys c' keys' t' (step c key s g).generator)) :
    (runKeys c (key :: keys) s g).Alike Q (runKeys c' (key' :: keys') s' g) := by
  rcases h.outcome with ⟨f, hstep, hstep'⟩ | ⟨t, t', hstep, hstep', hR⟩
  · rw [runKeys_cons_of_error hstep, runKeys_cons_of_error hstep']
    exact ⟨hfails f hstep, rfl, h.generator⟩
  · rw [runKeys_cons_of_ok hstep, runKeys_cons_of_ok hstep', h.generator]
    exact hrest t t' hstep hstep' hR

/-- A relation that each two steps keep holds after any number of steps. `P` is what the relation
needs of the states that the steps of the first run start from, and of the keys given to them. -/
theorem runKeys_alike {P : State → Option Key → Option Key → Prop}
    (hstep : ∀ s s' key key' g, R s s' → P s key key' →
      (step c key s g).Alike R (step c' key' s' g))
    (hlength : keys'.length = keys.length)
    (hkeys : ∀ (i : Nat) t key key', (starts c keys s g)[i]? = some t → keys[i]? = some key →
      keys'[i]? = some key' → P t key key')
    (hs : R s s') (n : Nat) :
    (runKeys c (keys.take n) s g).Alike R (runKeys c' (keys'.take n) s' g) := by
  induction n generalizing keys keys' s s' g with
  | zero => exact ⟨hs, rfl, rfl⟩
  | succ n ih =>
    match keys, keys', hlength with
    | [], [], _ => exact ⟨hs, rfl, rfl⟩
    | key :: keys, key' :: keys', hlength =>
      have hfirst := getElem?_starts_zero c key keys s g
      rw [List.take_succ_cons, List.take_succ_cons]
      apply runKeys_cons_alike (hstep s s' key key' g hs (hkeys 0 s key key' hfirst rfl rfl))
      · intro f _
        exact hs
      · intro t t' houtcome _ ht
        apply ih (Nat.succ.inj hlength) _ ht
        intro i u k k' hu hk hk'
        apply hkeys (i + 1) u k k' _ hk hk'
        rw [starts_cons_of_ok houtcome, List.getElem?_cons_succ]
        exact hu

/-- The same for two runs with the same keys. -/
theorem runKeys_alike_of_starts {P : State → Prop}
    (hstep : ∀ s s' key g, R s s' → P s → (step c key s g).Alike R (step c' key s' g))
    (hstarts : ∀ t ∈ starts c keys s g, P t) (hs : R s s') (n : Nat) :
    (runKeys c (keys.take n) s g).Alike R (runKeys c' (keys.take n) s' g) := by
  apply runKeys_alike (P := fun t key key' => P t ∧ key = key') _ rfl _ hs n
  · rintro s s' key _ g hR ⟨hP, rfl⟩
    exact hstep s s' key g hR hP
  · intro i t key key' ht hkey hkey'
    refine ⟨hstarts t (List.mem_of_getElem? ht), ?_⟩
    rw [hkey] at hkey'
    exact Option.some.inj hkey'

end Machine

end Chip8
