import Chip8.Proofs.CallStack

/-!
# Reachable states

The states a machine gets into by loading and by steps that succeed, and what holds of all of them:
the program counter and every address on the stack are places for an opcode, the index register is an
address, and the timer phase leaves room for one more step.
-/

namespace Chip8

/-- The largest stack depth that any of the configurations allows. -/
def Config.deepest (cs : List Config) : Nat := (cs.map Config.stackDepth).foldr max 0

/-- The states of a machine that is switched on, or given a program at a base below `bound`, and then
takes steps that succeed. The list holds the configurations of the steps, latest first; the keys and
the generators are free. -/
inductive Reachable (bound : Nat) : List Config → State → Prop
  | initial : Reachable bound [] .initial
  | load {program : List Byte} {base : Nat} {s : State} (hbase : base < bound)
      (h : State.load program base = .ok s) : Reachable bound [] s
  | step {cs : List Config} {s t : State} {c : Config} (key : Option Key) (g : Generator)
      (hs : Reachable bound cs s) (h : (Machine.step c key s g).outcome = .ok t) :
      Reachable bound (c :: cs) t

/-- What every reachable state satisfies. -/
structure State.Sound (s : State) : Prop where
  pc : CodeAddress s.pc
  stack : ∀ a ∈ s.stack, CodeAddress a
  index : s.index < Memory.size
  phase : s.phase ≤ 254

theorem reachable_of_loadProgram {program : List Byte} {s : State}
    (h : State.loadProgram program = .ok s) : Reachable Memory.size [] s :=
  .load (by decide) h

namespace State

variable {c : Config} {s t : State}

theorem initial_sound : initial.Sound where
  pc := ⟨by decide, by decide⟩
  stack := by
    intro a ha
    cases ha
  index := by decide
  phase := by decide

theorem load_sound {program : List Byte} {base : Nat} (hbase : base < Memory.size)
    (h : load program base = .ok s) : s.Sound := by
  have hcode := codeAddress_of_load h fun hend => absurd hend.2 (Nat.ne_of_lt hbase)
  obtain ⟨_, _, _, rfl⟩ := load_eq_ok_iff.mp h
  exact { initial_sound with pc := hcode }

theorem exists_currentOpcode (hs : s.Sound) : ∃ w, s.currentOpcode = .ok w :=
  Memory.exists_word_iff.mpr hs.pc.2

theorem follow_codeAddress {route : Flow} (hpc : CodeAddress s.pc) (h : s.follow route = .ok t) :
    CodeAddress t.pc := by
  cases route with
  | next =>
    obtain ⟨hroom, rfl⟩ := advance_eq_ok_iff.mp h
    exact hpc.next hroom
  | jump target =>
    obtain ⟨hroom, heven, rfl⟩ := jumpTo_eq_ok_iff.mp h
    exact ⟨heven, hroom⟩
  | await r =>
    cases h
    exact hpc

theorem tick_phase_le : (s.tick c).phase ≤ 254 := by
  have hpos := c.period_pos
  have hle := c.period_le
  have hlt := Nat.mod_lt (s.phase + 1) hpos
  rw [tick_phase]
  omega

end State

/-- Whatever sets the index register keeps it an address. -/
theorem Op.exec_index {op : Op} {c : Config} {o : Operands} {g : Generator} {s t : State} {route : Flow}
    (hindex : s.index < Memory.size) (h : op.exec c o g s = .ok (t, route)) :
    t.index < Memory.size := by
  have hframe := exec_frame h
  cases op
  case ldI =>
    cases h
    exact o.nnn.isLt
  case addI =>
    cases h
    exact Nat.mod_lt _ (by decide)
  case ldGlyph =>
    simp only [exec] at h
    split at h
    · cases h
    · rename_i a hglyph
      cases h
      have hlimit := Font.glyphAddress?_lt hglyph
      simp only [Font.glyphSize, Font.limit_eq, Memory.size] at *
      omega
  all_goals
    rw [hframe.index (by decide) (by decide) (by decide)]
    exact hindex

namespace Machine

variable {c : Config} {key : Option Key} {g : Generator} {s t : State}

theorem step_codeAddress (hpc : CodeAddress s.pc) (h : (step c key s g).outcome = .ok t) :
    CodeAddress t.pc := by
  rcases step_cases h with ⟨r, _, _, rfl⟩ | ⟨r, k, _, _, hroom, rfl⟩ | ⟨d, u, _, hu, rfl⟩
  · rw [State.tick_pc]
    exact hpc
  · rw [State.tick_pc]
    exact hpc.next hroom
  · obtain ⟨v, route, hexec, hfollow⟩ := Decoded.execute_eq_ok_iff.mp hu
    have hframe := Op.exec_frame hexec
    rw [State.tick_pc]
    apply State.follow_codeAddress _ hfollow
    rw [hframe.pc]
    exact hpc

theorem step_index (hindex : s.index < Memory.size) (h : (step c key s g).outcome = .ok t) :
    t.index < Memory.size := by
  rcases step_cases h with ⟨r, _, _, rfl⟩ | ⟨r, k, _, _, _, rfl⟩ | ⟨d, u, _, hu, rfl⟩
  · rw [State.tick_index]
    exact hindex
  · rw [State.tick_index]
    exact hindex
  · obtain ⟨v, route, hexec, rfl⟩ := Decoded.execute_eq_ok hu
    have hindex' : v.index < Memory.size := Op.exec_index (s := { s with key := key }) hindex hexec
    rw [State.tick_index]
    exact hindex'

theorem step_phase (h : (step c key s g).outcome = .ok t) : t.phase ≤ 254 := by
  rcases step_cases h with ⟨r, _, _, rfl⟩ | ⟨r, k, _, _, _, rfl⟩ | ⟨d, u, _, _, rfl⟩ <;>
    exact State.tick_phase_le

theorem step_sound (hs : s.Sound) (h : (step c key s g).outcome = .ok t) : t.Sound where
  pc := step_codeAddress hs.pc h
  index := step_index hs.index h
  phase := step_phase h
  stack := by
    rcases step_stack h with ⟨_, _, hpush⟩ | ⟨_, site, hpop, _⟩ | ⟨_, _, hsame⟩
    · rw [hpush, List.forall_mem_cons]
      exact ⟨hs.pc, hs.stack⟩
    · have hall := hs.stack
      rw [hpop, List.forall_mem_cons] at hall
      exact hall.2
    · rw [hsame]
      exact hs.stack

/-- A step leaves the stack within the depth of its configuration or no longer than it was. -/
theorem step_stack_length (h : (step c key s g).outcome = .ok t) :
    t.stack.length ≤ max c.stackDepth s.stack.length := by
  rcases step_stack h with ⟨_, hdepth, hpush⟩ | ⟨_, site, hpop, _⟩ | ⟨_, _, hsame⟩
  · rw [hpush, List.length_cons]
    omega
  · rw [hpop, List.length_cons]
    omega
  · rw [hsame]
    omega

end Machine

namespace Reachable

variable {cs : List Config} {s : State}

theorem sound (h : Reachable Memory.size cs s) : s.Sound := by
  induction h with
  | initial => exact State.initial_sound
  | load hbase h => exact State.load_sound hbase h
  | step _ _ _ h ih => exact Machine.step_sound ih h

theorem stack_length_le {bound : Nat} (h : Reachable bound cs s) :
    s.stack.length ≤ Config.deepest cs := by
  induction h with
  | initial => exact Nat.le_refl 0
  | load _ h =>
    obtain ⟨_, _, _, rfl⟩ := State.load_eq_ok_iff.mp h
    exact Nat.le_refl 0
  | @step cs s t c _ _ _ h ih =>
    have hlen := Machine.step_stack_length h
    have hdeepest : Config.deepest (c :: cs) = max c.stackDepth (Config.deepest cs) := rfl
    omega

/-- One more step, on which the machine executes `d`. -/
theorem executing {bound : Nat} {t : State} {d : Decoded} (h : Reachable bound cs s)
    (hd : s.executing? = some d) (c : Config)
    (ht : Machine.finish c (d.execute c (Generator.cycling #[]) { s with key := none }) = .ok t) :
    Reachable bound (c :: cs) t := by
  refine .step none (Generator.cycling #[]) h ?_
  rw [Machine.step_executing hd]
  exact ht

/-- In every reachable state a whole opcode lies at the program counter, the index register is an
address, the stack holds such places for opcodes and is no longer than some configuration allowed,
the next step cannot overflow the phase, and a waiting machine waits for one of its registers. -/
theorem invariant (h : Reachable Memory.size cs s) :
    (s.pc % 2 = 0 ∧ s.pc + 1 < Memory.size) ∧ s.index < Memory.size ∧
    (∀ a ∈ s.stack, a % 2 = 0 ∧ a ≤ 0xFFE) ∧ s.stack.length ≤ Config.deepest cs ∧
    (s.phase ≤ 254 ∧ s.phase + 1 < 256) ∧
    (∀ r, s.mode = .waiting r → r.toNat < Registers.count) ∧
    ∃ w, s.currentOpcode = .ok w := by
  have hs := h.sound
  refine ⟨hs.pc, hs.index, ?_, h.stack_length_le, ⟨hs.phase, ?_⟩, ?_, State.exists_currentOpcode hs⟩
  · intro a ha
    obtain ⟨heven, hroom⟩ := hs.stack a ha
    simp only [Memory.size] at hroom
    exact ⟨heven, by omega⟩
  · have hphase := hs.phase
    omega
  · intro r _
    exact r.isLt

/-- A subroutine of depth one that waits for a key, entered while the timers tick every 255 steps and
left waiting while they tick at every step. -/
theorem invariant_waiting :
    ∃ s, Reachable Memory.size [{ timerDivider := 0 }, { timerDivider := 255, stackDepth := 1 }] s ∧
      s.mode = .waiting 5 ∧ (s.pc % 2 = 0 ∧ s.pc + 1 < Memory.size) ∧
      (∀ a ∈ s.stack, a % 2 = 0 ∧ a ≤ 0xFFE) ∧ s.stack = [0x200] ∧ s.stack.length ≤ 16 ∧
      s.phase + 1 < 256 ∧ ∃ w, s.currentOpcode = .ok w := by
  let program : List Byte := [0x22, 0x04, 0x00, 0x00, 0xF5, 0x0A]
  let loaded : State := { State.initial with memory := Memory.initial.store programStart program }
  let called : State := { loaded with pc := 0x204, stack := [0x200], phase := 1 }
  let waiting : State := { called with mode := .waiting 5, phase := 0 }
  have hload : Reachable Memory.size [] loaded :=
    reachable_of_loadProgram (State.load_eq_ok_iff.mpr ⟨by decide, by decide, by decide, rfl⟩)
  have hcall : loaded.executing? = some ⟨0x2204, .call, { nnn := 0x204 }⟩ :=
    State.executing?_of_stored program 0 0x2204 rfl (by decide) rfl rfl (by decide) (by decide) rfl
  have hkey : called.executing? = some ⟨0xF50A, .ldKey, { x := 5 }⟩ :=
    State.executing?_of_stored program 4 0xF50A rfl (by decide) rfl rfl (by decide) (by decide) rfl
  have hcalled : Reachable Memory.size [{ timerDivider := 255, stackDepth := 1 }] called := by
    refine .step none (Generator.cycling #[]) hload ?_
    rw [Machine.step_executing hcall]
    rfl
  have hwaiting : Reachable Memory.size
      [{ timerDivider := 0 }, { timerDivider := 255, stackDepth := 1 }] waiting := by
    refine .step none (Generator.cycling #[]) hcalled ?_
    rw [Machine.step_executing hkey]
    have htick : State.tick { timerDivider := 0 } { called with mode := .waiting 5 } = waiting := by
      simp [State.tick_eq, Config.period, called, waiting, loaded, State.initial]
    exact congrArg Except.ok htick
  obtain ⟨hpc, _, hstack, hlength, ⟨_, hphase⟩, _, hopcode⟩ := invariant hwaiting
  exact ⟨waiting, hwaiting, rfl, hpc, hstack, rfl, hlength, hphase, hopcode⟩

end Reachable

end Chip8
