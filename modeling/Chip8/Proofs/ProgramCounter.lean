import Chip8.Proofs.Reachable

/-!
# The program counter

Where a step takes the program counter. One rule serves all instructions: an instruction that jumps,
calls, returns or skips says where to go on, one that waits stays, and after any other the following
opcode is next.
-/

namespace Chip8

theorem Flow.destination_skipIf (pc : Nat) (condition : Bool) :
    (skipIf pc condition).destination pc = if condition then pc + 4 else pc + 2 := by
  cases condition <;> rfl

namespace State

variable {s : State} {r : Nibble}

theorem keyMatches_iff :
    s.keyMatches r = true ↔ ∃ k, s.key = some k ∧ k.val = (s.registers.get r).toNat := by
  have hbyte : ∀ k : Key, k.toByte = s.registers.get r ↔ k.val = (s.registers.get r).toNat := by
    intro k
    rw [← BitVec.toNat_inj, Key.toNat_toByte]
  unfold keyMatches
  cases s.key with
  | none => simp
  | some k => simp [hbyte]

/-- Keys are digits, so no key matches a larger number. -/
theorem keyMatches_eq_false (h : s.key = none ∨ 15 < (s.registers.get r).toNat) :
    s.keyMatches r = false := by
  rw [Bool.eq_false_iff]
  intro hmatch
  obtain ⟨k, hkey, hval⟩ := keyMatches_iff.mp hmatch
  rcases h with hnone | hlarge
  · rw [hnone] at hkey
    cases hkey
  · have hlt := k.isLt
    omega

end State

namespace Machine

variable {c : Config} {key : Option Key} {g : Generator} {s t : State}

theorem step_ret {d : Decoded} (hd : s.executing? = some d) (hop : d.op = .ret)
    (h : (step c key s g).outcome = .ok t) :
    ∃ site, s.stack = site :: t.stack ∧ t.pc = site + 2 := by
  have hret : s.op? = some .ret := by rw [State.op?_of_executing hd, hop]
  rcases step_stack h with ⟨hcall, _⟩ | ⟨_, hreturn⟩ | ⟨_, hother, _⟩
  · rw [hret] at hcall
    cases hcall
  · exact hreturn
  · exact absurd hret hother

end Machine

/-- One rule for the program counter. A step that succeeds leaves it on an opcode. It stays where
it is while no key ends a wait, and when a wait begins. `RET` goes on behind the call that it takes
from the stack, jumps and calls go to their target, which does not wrap, a skip whose condition
holds passes over one opcode, and every other step goes on with the next one. The conditions of
skips come in pairs of opposites. -/
theorem Reachable.next_pc {cs : List Config} {s t : State} (h : Reachable Memory.size cs s)
    {c : Config} {key : Option Key} {g : Generator}
    (hstep : (Machine.step c key s g).outcome = .ok t) :
    (t.pc % 2 = 0 ∧ t.pc + 1 < Memory.size) ∧
    (∀ r, s.mode = .waiting r → t.pc = if key = none then s.pc else s.pc + 2) ∧
    (s.mode = .running → ∃ d, s.executing? = some d ∧
      match d.op with
      | .ldKey => t.pc = s.pc
      | .ret => ∃ site, s.stack = site :: t.stack ∧ t.pc = site + 2
      | .jp | .call => t.pc = d.operands.nnn.toNat
      | .jpV0 => t.pc = (s.registers.get 0).toNat + d.operands.nnn.toNat
      | op => t.pc = if op.skips d.operands { s with key := key } then s.pc + 4 else s.pc + 2) ∧
    ∀ (o : Operands) (u : State),
      (Op.seByte.skips o u = true ↔ u.registers.get o.x = o.kk) ∧
      (Op.sneByte.skips o u = true ↔ ¬ Op.seByte.skips o u = true) ∧
      (Op.seReg.skips o u = true ↔ u.registers.get o.x = u.registers.get o.y) ∧
      (Op.sneReg.skips o u = true ↔ ¬ Op.seReg.skips o u = true) ∧
      (Op.skp.skips o u = true ↔ ∃ k, u.key = some k ∧ k.val = (u.registers.get o.x).toNat) ∧
      (Op.sknp.skips o u = true ↔ ¬ Op.skp.skips o u = true) ∧
      (u.key = none ∨ 15 < (u.registers.get o.x).toNat →
        Op.sknp.skips o u = true ∧ Op.skp.skips o u = false) ∧
      ∀ op, op ∉ [Op.seByte, .sneByte, .seReg, .sneReg, .skp, .sknp] → op.skips o u = false := by
  refine ⟨(h.step key g hstep).sound.pc, ?_, ?_, ?_⟩
  · intro r hmode
    obtain ⟨hidle, hreceive⟩ := Machine.step_waiting_route hmode hstep
    cases key with
    | none => exact (hidle rfl).1
    | some k => exact (hreceive k rfl).1
  · intro hmode
    obtain ⟨d, hd⟩ := Machine.exists_executing hmode hstep
    have hpc := Machine.step_executing_pc hd hstep
    refine ⟨d, hd, ?_⟩
    cases hop : d.op
    case ret => exact Machine.step_ret hd hop hstep
    case jp | call | jpV0 | ldKey =>
      rw [hop] at hpc
      exact hpc
    -- What is left are the skips, whose condition may hold, and what never skips.
    all_goals
      rw [hop] at hpc
      rw [hpc]
      exact Flow.destination_skipIf s.pc _
  · intro o u
    refine ⟨by simp [Op.skips], by simp [Op.skips], by simp [Op.skips], by simp [Op.skips],
      State.keyMatches_iff, by simp [Op.skips], ?_, ?_⟩
    · intro hnone
      have hfalse := State.keyMatches_eq_false hnone
      exact ⟨by rw [Op.skips, hfalse, Bool.not_false], hfalse⟩
    · intro op hop
      cases op <;> first | rfl | simp at hop

/-- A jump to its own address stays there, and is not moved on from. -/
theorem Reachable.next_pc_loop :
    ∃ s t, State.loadProgram [0x12, 0x00] = .ok s ∧ Reachable Memory.size [] s ∧
      (Machine.step {} none s (Generator.cycling #[])).outcome = .ok t ∧ t.pc = s.pc := by
  let loaded : State :=
    { State.initial with memory := Memory.initial.store programStart [0x12, 0x00] }
  have hload : State.loadProgram [0x12, 0x00] = .ok loaded :=
    State.load_eq_ok_iff.mpr ⟨by decide, by decide, by decide, rfl⟩
  have hreachable : Reachable Memory.size [] loaded := reachable_of_loadProgram hload
  have hjump : loaded.executing? = some ⟨0x1200, .jp, { nnn := 0x200 }⟩ :=
    State.executing?_of_stored [0x12, 0x00] 0 0x1200 rfl (by decide) rfl rfl (by decide) (by decide)
      rfl
  have hstep : (Machine.step {} none loaded (Generator.cycling #[])).outcome =
      .ok { loaded with phase := 1 } := by
    rw [Machine.step_executing hjump]
    rfl
  obtain ⟨_, _, hrunning, _⟩ := hreachable.next_pc hstep
  obtain ⟨d, hd, hpc⟩ := hrunning rfl
  obtain rfl := Option.some.inj (hjump.symm.trans hd)
  exact ⟨loaded, _, hload, hreachable, hstep, hpc⟩

end Chip8
