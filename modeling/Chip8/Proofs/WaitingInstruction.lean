import Chip8.Host.Status
import Chip8.Proofs.KeyWait
import Chip8.Proofs.ProgramCounter
import Mathlib.Tactic.IntervalCases

/-!
# The instruction behind a wait

A machine that waits for a key still stands on the `LD Vx, K` that made it wait, since a wait
neither moves the program counter nor writes to memory. The status panel shows this instruction, and
the register that it names is the one that the key goes into.
-/

namespace Chip8

namespace Opcode

theorem awaitKey_eq : ∀ x : Nibble, awaitKey x = 0xF00A#16 ||| x.setWidth 16 <<< 8 := by
  decide

/-- An opcode that is read as `LD Vx, K` is the one of the register it names. -/
theorem eq_awaitKey {w : Opcode} {d : Decoded} (hd : decode w = .ok d) (hop : d.op = .ldKey) :
    w = awaitKey d.operands.x := by
  have haccepts := decode_accepts hd
  have hoperands := decode_operands hd
  rw [hop] at haccepts hoperands
  have hfixed : w &&& 0xF0FF#16 = 0xF00A#16 := by
    simpa [Encoding.accepts, Op.encoding] using haccepts
  have hx : d.operands.x = w.extractLsb' 8 4 := by
    rw [hoperands]
    rfl
  rw [awaitKey_eq, hx, ← hfixed]
  -- Every bit is one of the register's or one of the mask's.
  apply BitVec.eq_of_getLsbD_eq
  intro i hi
  simp only [BitVec.getLsbD_or, BitVec.getLsbD_and, BitVec.getLsbD_shiftLeft,
    BitVec.getLsbD_setWidth, BitVec.getLsbD_extractLsb']
  interval_cases i <;> simp

end Opcode

/-! ### The panel -/

namespace Status

private theorem line_of_awaitKey : ∀ i : Fin 16,
    let digit := Numeral.hexAlphabet[i]
    let opcode := Numeral.hexPadded 4 (Opcode.awaitKey (.ofFin i)).toNat
    let text := Template.fill .hex { x := .ofFin i } Op.ldKey.encoding.mnemonic
    " " ++ (opcode ++ ("  " ++ text ++ note true)) =
      s!" F{digit}0A  LD V{digit}, K  (waiting for key)" := by
  decide

/-- The line for a wait, in which the register is told by its digit. -/
theorem instruction_of_waiting {s : State} {x : Nibble} (hmode : s.mode = .waiting x)
    (hop : s.currentOpcode = .ok (Opcode.awaitKey x)) :
    ∃ digit, Numeral.hexAlphabet[x.toNat]? = some digit ∧
      instruction s = s!" F{digit}0A  LD V{digit}, K  (waiting for key)" := by
  obtain ⟨i⟩ := x
  refine ⟨Numeral.hexAlphabet[i], by simp, ?_⟩
  have hsaid : opcodeText (Opcode.awaitKey (.ofFin i)) =
      Template.fill .hex { x := .ofFin i } Op.ldKey.encoding.mnemonic := by
    simp only [opcodeText, disassemble, disassembleIn, decode_awaitKey, Decoded.text]
  have hwaiting : s.isWaiting = true := by
    rw [State.isWaiting, hmode]
  rw [instruction_eq hop, hsaid, hwaiting]
  exact line_of_awaitKey i

end Status

/-! ### Standing still -/

namespace State

variable {s t : State}

/-- A machine that waits stands on the instruction that makes it wait. -/
def StandsOnWait (s : State) : Prop :=
  ∀ x, s.mode = .waiting x → s.currentOpcode = .ok (Opcode.awaitKey x)

theorem standsOnWait_of_running (hmode : s.mode = .running) : s.StandsOnWait := by
  intro x hx
  rw [hmode] at hx
  cases hx

theorem currentOpcode_congr (hmemory : t.memory = s.memory) (hpc : t.pc = s.pc) :
    t.currentOpcode = s.currentOpcode := by
  rw [currentOpcode, opcodeAt, hmemory, hpc]
  rfl

end State

namespace Machine

variable {c : Config} {key : Option Key} {g : Generator} {s t : State} {x : Nibble}

theorem step_standsOnWait (hs : s.StandsOnWait) (h : (step c key s g).outcome = .ok t) :
    t.StandsOnWait := by
  rcases step_cases h with ⟨r, _, _, rfl⟩ | ⟨r, k, _, _, _, rfl⟩ | ⟨d, u, hd, hu, rfl⟩
  · intro x hx
    rw [State.tick_mode] at hx
    rw [← hs x hx]
    exact State.currentOpcode_congr (State.tick_memory c _) (State.tick_pc c _)
  · exact State.standsOnWait_of_running (State.tick_mode c _)
  · -- Only `LD Vx, K` begins a wait, and it leaves the program counter and memory alone.
    intro x hx
    have hmode := step_executing_mode hd h
    rw [hx] at hmode
    by_cases hop : d.op = .ldKey
    · rw [if_pos hop] at hmode
      cases hmode
      obtain ⟨w, hw, hdecode⟩ := State.exists_decode_of_executing hd
      rw [← Opcode.eq_awaitKey hdecode hop, ← hw]
      have hpc := step_executing_pc hd h
      obtain ⟨v, route, hexec, rfl⟩ := Decoded.execute_eq_ok hu
      rw [hop] at hpc hexec
      apply State.currentOpcode_congr _ hpc
      rw [State.tick_memory]
      exact (Op.exec_frame hexec).memory (by decide) (by decide)
    · rw [if_neg hop] at hmode
      cases hmode

/-- A fault-free run of `n` steps that are given no key. Every step may have a configuration and a
generator of its own. -/
def Idle (n : Nat) (path : Nat → State) : Prop :=
  ∀ i < n, ∃ c g, (step c none (path i) g).outcome = .ok (path (i + 1))

theorem Idle.waiting {n : Nat} {path : Nat → State} (hidle : Idle n path)
    (hmode : (path 0).mode = .waiting x) :
    (path n).mode = .waiting x ∧ (path n).pc = (path 0).pc ∧
      (path n).registers = (path 0).registers := by
  induction n with
  | zero => exact ⟨hmode, rfl, rfl⟩
  | succ n ih =>
    obtain ⟨hwait, hpc, hregisters⟩ := ih fun i hi => hidle i (by omega)
    obtain ⟨c, g, hstep⟩ := hidle n (by omega)
    obtain ⟨hpc', hwait', hregisters'⟩ := (step_waiting_route hwait hstep).1 rfl
    exact ⟨hwait', hpc'.trans hpc, hregisters'.trans hregisters⟩

end Machine

namespace Reachable

variable {bound : Nat} {cs : List Config} {s : State}

theorem standsOnWait (h : Reachable bound cs s) : s.StandsOnWait := by
  induction h with
  | initial => exact State.standsOnWait_of_running rfl
  | load _ hload =>
    obtain ⟨_, _, _, rfl⟩ := State.load_eq_ok_iff.mp hload
    exact State.standsOnWait_of_running rfl
  | step _ _ _ hstep ih => exact Machine.step_standsOnWait ih hstep

/-- A machine that stands on any instruction but `LD Vx, K` is not waiting, and executes it. -/
theorem executing_of_opcode (h : Reachable bound cs s) {w : Opcode} {d : Decoded}
    (hw : s.currentOpcode = .ok w) (hd : decode w = .ok d) (hop : d.op ≠ .ldKey) :
    s.executing? = some d := by
  rcases s.running_or_waiting with hmode | ⟨r, hmode⟩
  · exact State.executing?_of_opcodeAt hmode hw hd
  · obtain rfl := Except.ok.inj (hw.symm.trans (h.standsOnWait r hmode))
    obtain rfl := Except.ok.inj (hd.symm.trans (decode_awaitKey r))
    exact absurd rfl hop

/-- A machine that waits for a key for register `x` stands on the opcode `Fx0A`, and the panel shows
it with its register. However long no key is given, and under whatever configurations, the key that
ends the wait goes into the register of that instruction. -/
theorem waits_on_instruction (h : Reachable bound cs s) {x : Nibble} (hmode : s.mode = .waiting x) :
    s.currentOpcode = .ok (0xF00A#16 ||| x.setWidth 16 <<< 8) ∧
    (∃ digit, Numeral.hexAlphabet[x.toNat]? = some digit ∧
      (Status.lines s)[2]? = some s!" F{digit}0A  LD V{digit}, K  (waiting for key)") ∧
    ∃ d, decode (0xF00A#16 ||| x.setWidth 16 <<< 8) = .ok d ∧ d.op = .ldKey ∧
      ∀ n path, Machine.Idle n path → path 0 = s →
        ∀ c k g t, (Machine.step c (some k) (path n) g).outcome = .ok t →
          t.registers = s.registers.set d.operands.x k.toByte ∧ t.pc = s.pc + 2 := by
  have hop := h.standsOnWait x hmode
  obtain ⟨digit, hdigit, hline⟩ := Status.instruction_of_waiting hmode hop
  rw [← Opcode.awaitKey_eq]
  refine ⟨hop, ⟨digit, hdigit, ?_⟩, ⟨_, decode_awaitKey x, rfl, ?_⟩⟩
  · rw [← hline]
    rfl
  · rintro n path hidle rfl c k g t hstep
    obtain ⟨hwait, hpc, hregisters⟩ := hidle.waiting hmode
    obtain ⟨hpc', _, hregisters'⟩ := (Machine.step_waiting_route hwait hstep).2 k rfl
    rw [hpc', hregisters', hpc, hregisters]
    exact ⟨rfl, rfl⟩

/-- `LD V5, K` at the start of a program, and a key after two steps without one. -/
theorem waits_on_instruction_F50A :
    ∃ s t path, Reachable Memory.size [{}] s ∧ s.mode = .waiting 5 ∧ s.currentOpcode = .ok 0xF50A ∧
      (Status.lines s)[2]? = some " F50A  LD V5, K  (waiting for key)" ∧
      Machine.Idle 2 path ∧ path 0 = s ∧
      (Machine.step {} (some 7) (path 2) (Generator.cycling #[])).outcome = .ok t ∧
      t.registers = s.registers.set 5 7 := by
  let program : List Byte := [0xF5, 0x0A]
  let loaded : State := { State.initial with memory := Memory.initial.store programStart program }
  let path (i : Nat) : State := { loaded with mode := .waiting 5, phase := i + 1 }
  let t : State :=
    { loaded with registers := Registers.zero.set 5 7, pc := 0x202, key := some 7, phase := 4 }
  have hload : Reachable Memory.size [] loaded :=
    reachable_of_loadProgram (State.load_eq_ok_iff.mpr ⟨by decide, by decide, by decide, rfl⟩)
  have hawait : loaded.executing? = some ⟨0xF50A, .ldKey, { x := 5 }⟩ :=
    State.executing?_of_stored program 0 0xF50A rfl (by decide) rfl rfl (by decide) (by decide) rfl
  have hs : Reachable Memory.size [{}] (path 0) := by
    refine .step none (Generator.cycling #[]) hload ?_
    rw [Machine.step_executing hawait]
    rfl
  have hidle : Machine.Idle 2 path := by
    intro i hi
    refine ⟨{}, Generator.cycling #[], ?_⟩
    match i, hi with
    | 0, _ | 1, _ =>
      rw [Machine.step_waiting_none rfl]
      rfl
  have hkey : (Machine.step {} (some 7) (path 2) (Generator.cycling #[])).outcome = .ok t := by
    rw [Machine.step_waiting_some 7 rfl]
    rfl
  obtain ⟨hopcode, ⟨digit, hdigit, hline⟩, d, hd, _, hlands⟩ := hs.waits_on_instruction rfl
  obtain ⟨hregisters, _⟩ := hlands 2 path hidle rfl _ _ _ _ hkey
  have hx : d.operands.x = 5 := by
    cases hd
    rfl
  rw [hx] at hregisters
  cases hdigit
  exact ⟨path 0, t, path, hs, rfl, hopcode, hline, hidle, rfl, hkey, hregisters⟩

end Reachable

end Chip8
