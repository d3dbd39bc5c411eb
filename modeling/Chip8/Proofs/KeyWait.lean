import Chip8.Proofs.Faults
import Chip8.Proofs.KeySequence
import Mathlib.Logic.Function.Iterate

/-!
# Waiting for a key

`LD Vx, K` is a load of a register that may take any number of steps. It stops the machine in front of
itself, lets the clock tick for as long as no key is given, and puts the first key given into its
register. The key of the step that begins the wait is not taken.
-/

namespace Chip8

/-- The opcode of `LD Vx, K`. -/
def Opcode.awaitKey (x : Nibble) : Opcode := 0xF#4 ++ x ++ 0x0A#8

theorem decode_awaitKey (x : Nibble) :
    decode (Opcode.awaitKey x) = .ok ⟨Opcode.awaitKey x, .ldKey, { x := x }⟩ := by
  have hall : ∀ i : Fin 16,
      Encoding.firstMatch? Op.encoding Op.all (Opcode.awaitKey (BitVec.ofFin i)) = some .ldKey ∧
        (Opcode.awaitKey (BitVec.ofFin i)).extractLsb' 8 4 = BitVec.ofFin i := by
    decide
  obtain ⟨i⟩ := x
  obtain ⟨hmatch, hx⟩ := hall i
  have hoperands : Op.ldKey.encoding.layout.extract (Opcode.awaitKey ⟨i⟩) = { x := ⟨i⟩ } :=
    congrArg (fun x : Nibble => ({ x := x } : Operands)) hx
  simp only [decode, hmatch, hoperands]

namespace State

/-- A state with the clock of another: its phase and its timers. -/
def withClock (s t : State) : State :=
  { s with phase := t.phase, delay := t.delay, sound := t.sound }

theorem tick_withClock (c : Config) (s t : State) :
    (s.withClock t).tick c = s.withClock (t.tick c) := by
  simp only [tick_eq, withClock]

end State

namespace Machine

variable {c : Config} {s : State} {x : Nibble} {g : Generator}

/-- The state in which a machine that came to `LD Vx, K` in state `s` waits, with the clock of `t`. -/
def waitingAt (s : State) (x : Nibble) (key : Option Key) (t : State) : State :=
  State.withClock { s with mode := .waiting x, key := key } t

theorem step_awaitKey (key : Option Key) (hmode : s.mode = .running)
    (hop : s.currentOpcode = .ok (Opcode.awaitKey x)) :
    (step c key s g).outcome = .ok (waitingAt s x key (s.tick c)) ∧
      (step c key s g).generator = g := by
  have hd := State.executing?_of_opcodeAt hmode hop (decode_awaitKey x)
  refine ⟨?_, step_executing_generator hd⟩
  rw [step_executing hd, waitingAt, ← State.tick_withClock]
  rfl

/-- Without a key the machine only lets the clock tick. -/
theorem step_idle (key : Option Key) (t : State) :
    (step c none (waitingAt s x key t) g).outcome = .ok (waitingAt s x none (t.tick c)) := by
  rw [step_waiting_none rfl, waitingAt, waitingAt, ← State.tick_withClock]
  rfl

theorem runKeys_idle (key : Option Key) (n : Nat) (t : State) :
    runKeys c (List.replicate n none) (waitingAt s x key t) g =
      ⟨waitingAt s x (if n = 0 then key else none) ((State.tick c)^[n] t), none, g⟩ := by
  induction n generalizing key t with
  | zero => rfl
  | succ n ih =>
    rw [List.replicate_succ, runKeys_cons_of_ok (step_idle key t), step_waiting_generator rfl, ih,
      Function.iterate_succ_apply]
    simp

/-- Coming to the instruction and finding no key. -/
theorem runKeys_awaitKey (first : Option Key) (n : Nat) (hmode : s.mode = .running)
    (hop : s.currentOpcode = .ok (Opcode.awaitKey x)) :
    runKeys c (first :: List.replicate n none) s g =
      ⟨waitingAt s x (if n = 0 then first else none) ((State.tick c)^[n + 1] s), none, g⟩ := by
  obtain ⟨hstep, hgen⟩ := step_awaitKey (c := c) (g := g) first hmode hop
  rw [runKeys_cons_of_ok hstep, hgen, runKeys_idle, ← Function.iterate_succ_apply]

/-- The key goes into the register, and the machine is past the instruction. -/
theorem step_receives (key : Option Key) (k : Key) (t : State) (hpc : CodeAddress s.pc) :
    (step c (some k) (waitingAt s x key t) g).outcome =
      if s.pc = 0xFFE then .error (.execution (.memoryOutOfBounds 0x1000))
      else .ok (State.withClock
        { s with
          registers := s.registers.set x k.toByte
          pc := s.pc + 2
          mode := .running
          key := some k } (t.tick c)) := by
  have hpc' : CodeAddress (State.pc { waitingAt s x key t with key := some k }) := hpc
  rw [step_waiting_some k rfl]
  split
  · rename_i hlast
    exact finish_eq_error_iff.mpr ⟨_, (receive_eq_error_iff hpc').mpr ⟨hlast, rfl⟩, rfl⟩
  · rename_i hne
    have hroom : s.pc + 3 < Memory.size := hpc.room hne
    rw [← State.tick_withClock]
    exact finish_eq_ok_iff.mpr ⟨_, receive_eq_ok_iff.mpr ⟨hroom, rfl⟩, rfl⟩

end Machine

/-- The wait as one delayed load. However long no key is given, every step succeeds and the states
differ from the one before the wait only in the mode, the key and the clock; the key of the first
step is not taken. The step that is given a key then loads the register and moves on, with the clock
as after as many ticks as there were steps, unless there is no room behind the instruction. No step
uses the generator. -/
theorem Reachable.key_wait {cs : List Config} {s : State} (h : Reachable Memory.size cs s)
    (hmode : s.mode = .running) {x : Nibble} (hop : s.currentOpcode = .ok (Opcode.awaitKey x))
    (c : Config) (first : Option Key) (n : Nat) (k : Key) (g : Generator) :
    let idle : State := State.withClock
      { s with mode := .waiting x, key := if n = 0 then first else none }
      ((State.tick c)^[n + 1] s)
    let loaded : State := State.withClock
      { s with
        registers := s.registers.set x k.toByte
        pc := s.pc + 2
        mode := .running
        key := some k }
      ((State.tick c)^[n + 2] s)
    Machine.runKeys c (first :: List.replicate n none) s g = ⟨idle, none, g⟩ ∧
      Machine.runKeys c (first :: List.replicate n none ++ [some k]) s g =
        if s.pc = 0xFFE then ⟨idle, some (.execution (.memoryOutOfBounds 0x1000)), g⟩
        else ⟨loaded, none, g⟩ := by
  intro idle loaded
  have hidle : Machine.runKeys c (first :: List.replicate n none) s g = ⟨idle, none, g⟩ :=
    Machine.runKeys_awaitKey first n hmode hop
  refine ⟨hidle, ?_⟩
  have hreceives : (Machine.step c (some k) idle g).outcome =
      if s.pc = 0xFFE then .error (.execution (.memoryOutOfBounds 0x1000)) else .ok loaded := by
    have hstep := Machine.step_receives (c := c) (s := s) (x := x) (g := g)
      (if n = 0 then first else none) k ((State.tick c)^[n + 1] s) h.sound.pc
    rw [← Function.iterate_succ_apply' (State.tick c)] at hstep
    exact hstep
  rw [Machine.runKeys_append, hidle, RunResult.andThen_of_ok rfl]
  split
  · rename_i hlast
    rw [if_pos hlast] at hreceives
    rw [Machine.runKeys_cons_of_error hreceives, Machine.step_waiting_generator rfl]
  · rename_i hne
    rw [if_neg hne] at hreceives
    rw [Machine.runKeys_cons_of_ok hreceives, Machine.step_waiting_generator rfl]
    rfl

/-- A wait of ten steps at the usual place, and one at the last opcode of memory, which cannot end. -/
theorem Reachable.key_wait_twice :
    (∃ s, State.load [0xF5, 0x0A] 0x200 = .ok s ∧ Reachable Memory.size [] s ∧
      s.currentOpcode = .ok (Opcode.awaitKey 5) ∧
      let r := Machine.runKeys {} (some 3 :: List.replicate 9 none ++ [some 7]) s
        (Generator.cycling #[])
      r.fault = none ∧ r.state.registers.get 5 = 7 ∧ r.state.pc = 0x202 ∧ r.state.mode = .running) ∧
    (∃ s, State.load [0xF5, 0x0A] 0xFFE = .ok s ∧ Reachable Memory.size [] s ∧
      s.currentOpcode = .ok (Opcode.awaitKey 5) ∧
      let r := Machine.runKeys {} (some 3 :: List.replicate 9 none ++ [some 7]) s
        (Generator.cycling #[])
      r.fault = some (.execution (.memoryOutOfBounds 0x1000)) ∧ r.state.mode = .waiting 5) := by
  let loadedAt (base : Nat) : State :=
    { State.initial with memory := Memory.initial.store base [0xF5, 0x0A], pc := base }
  have hload : ∀ base, programStart ≤ base → base % 2 = 0 → base + 1 < Memory.size →
      State.load [0xF5, 0x0A] base = .ok (loadedAt base) ∧
        Reachable Memory.size [] (loadedAt base) ∧
        (loadedAt base).currentOpcode = .ok (Opcode.awaitKey 5) := by
    intro base hstart heven hroom
    have hfit : [0xF5#8, 0x0A#8].length + base ≤ Memory.size := by
      simp only [List.length_cons, List.length_nil]
      omega
    have hok : State.load [0xF5, 0x0A] base = .ok (loadedAt base) :=
      State.load_eq_ok_iff.mpr ⟨hstart, heven, hfit, rfl⟩
    have hopcode := State.opcodeAt_load hok (i := 0) (by decide)
    exact ⟨hok, .load (by omega) hok, hopcode⟩
  constructor
  · obtain ⟨hok, hreachable, hop⟩ := hload 0x200 (by decide) (by decide) (by decide)
    obtain ⟨_, hrun⟩ := hreachable.key_wait rfl hop {} (some 3) 9 7 (Generator.cycling #[])
    refine ⟨_, hok, hreachable, hop, ?_⟩
    rw [hrun, if_neg (by decide)]
    exact ⟨rfl, rfl, rfl, rfl⟩
  · obtain ⟨hok, hreachable, hop⟩ := hload 0xFFE (by decide) (by decide) (by decide)
    obtain ⟨_, hrun⟩ := hreachable.key_wait rfl hop {} (some 3) 9 7 (Generator.cycling #[])
    refine ⟨_, hok, hreachable, hop, ?_⟩
    rw [hrun, if_pos rfl]
    exact ⟨rfl, rfl⟩

end Chip8
