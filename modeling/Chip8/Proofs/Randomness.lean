import Chip8.Proofs.Faults
import Chip8.Proofs.KeySequence

/-!
# Random words

What a run takes from its generator. A step uses one word if it starts with the machine running in
front of an opcode `Cxkk`, and none otherwise, also when it fails. Only the lowest byte of a word is
looked at, so two generators that agree in the lowest bytes of the words used give the same run.
-/

namespace Chip8

namespace Generator

/-- The generator after `n` more words. -/
def skip (g : Generator) (n : Nat) : Generator := { g with used := g.used + n }

theorem skip_add (g : Generator) (m n : Nat) : (g.skip m).skip n = g.skip (m + n) := by
  simp only [skip, Nat.add_assoc]

/-- The next `n` words of two generators have the same lowest bytes. -/
def AgreeFor (n : Nat) (g g' : Generator) : Prop :=
  ∀ i < n, (g.words (g.used + i)).toNat % 256 = (g'.words (g'.used + i)).toNat % 256

variable {n : Nat} {g g' : Generator}

theorem AgreeFor.byte (h : AgreeFor (n + 1) g g') : g.byte = g'.byte := by
  rw [← BitVec.toNat_inj]
  exact h 0 (Nat.succ_pos n)

theorem AgreeFor.skip {m : Nat} (h : AgreeFor (m + n) g g') :
    AgreeFor n (g.skip m) (g'.skip m) := by
  intro i hi
  have hword := h (m + i) (by omega)
  simp only [← Nat.add_assoc] at hword
  exact hword

end Generator

/-! ### The opcodes that draw -/

/-- All encodings fix the first digit of an opcode. -/
theorem Op.firstDigit_of_accepts {op : Op} {w : Opcode} (h : op.encoding.accepts w = true) :
    w &&& 0xF000 = op.encoding.pattern &&& 0xF000 := by
  have hfixed : w &&& op.encoding.mask = op.encoding.pattern := by
    simpa [Encoding.accepts] using h
  have hmask : op.encoding.mask &&& 0xF000 = 0xF000 := by
    cases op <;> rfl
  rw [← hfixed, BitVec.and_assoc, hmask]

theorem Op.eq_rnd_iff_of_decode {w : Opcode} {d : Decoded} (hd : decode w = .ok d) :
    d.op = .rnd ↔ w &&& 0xF000 = 0xC000 := by
  rw [Op.firstDigit_of_accepts (decode_accepts hd)]
  cases d.op <;> decide

/-- `Cxkk` names an instruction, whatever the other digits are. -/
theorem decode_ne_error_of_rnd {w : Opcode} (h : w &&& 0xF000 = 0xC000) (e : DecodeError) :
    decode w ≠ .error e := by
  intro he
  have haccepts : Op.rnd.encoding.accepts w = true := beq_iff_eq.mpr h
  rw [(decode_eq_error_iff.mp he).2 .rnd] at haccepts
  cases haccepts

namespace State

variable {s : State}

/-- Whether the machine is running in front of an opcode `Cxkk`. -/
def isAtRandom (s : State) : Bool :=
  match s.mode, s.currentOpcode with
  | .running, .ok w => w &&& 0xF000 == 0xC000
  | _, _ => false

theorem isAtRandom_of_executing {d : Decoded} (hd : s.executing? = some d) :
    s.isAtRandom = d.draws := by
  obtain ⟨hmode, _⟩ := executing?_eq_some_iff.mp hd
  obtain ⟨w, hw, hdecode⟩ := exists_decode_of_executing hd
  simp only [isAtRandom, hmode, hw, Decoded.draws]
  rw [Bool.eq_iff_iff, beq_iff_eq, beq_iff_eq]
  exact (Op.eq_rnd_iff_of_decode hdecode).symm

/-- A machine that executes nothing waits, or cannot read its opcode. -/
theorem executing?_eq_none_iff :
    s.executing? = none ↔
      (∃ r, s.mode = .waiting r) ∨ s.mode = .running ∧ ∃ f, s.fetch = .error f := by
  unfold executing?
  cases hm : s.mode with
  | waiting r => simp
  | running => cases hf : s.fetch <;> simp [Except.toOption]

theorem isAtRandom_of_not_executing (h : s.executing? = none) : s.isAtRandom = false := by
  rcases executing?_eq_none_iff.mp h with ⟨r, hmode⟩ | ⟨hmode, f, hfetch⟩
  · simp only [isAtRandom, hmode]
  · rcases fetch_eq_error_iff.mp hfetch with ⟨e, hw, _⟩ | ⟨w, e, hw, hdecode, _⟩
    · simp only [isAtRandom, hmode, hw]
    · simp only [isAtRandom, hmode, hw, beq_eq_false_iff_ne]
      intro hrnd
      exact decode_ne_error_of_rnd hrnd e hdecode

end State

/-! ### One step -/

theorem Op.exec_of_byte {op : Op} {g g' : Generator} (h : op = .rnd → g.byte = g'.byte) (c : Config)
    (o : Operands) (s : State) : op.exec c o g s = op.exec c o g' s := by
  cases op
  case rnd => simp only [exec, h rfl]
  all_goals rfl

theorem Decoded.execute_of_byte {d : Decoded} {g g' : Generator}
    (h : d.draws = true → g.byte = g'.byte) (c : Config) (s : State) :
    d.execute c g s = d.execute c g' s := by
  unfold Decoded.execute
  rw [Op.exec_of_byte fun hrnd => h (by simp [draws, hrnd])]

/-- What is drawn decides what a register holds, and never whether the instruction succeeds. -/
theorem Decoded.execute_error_iff (d : Decoded) (c : Config) (g g' : Generator) (s : State)
    (f : ExecutionFault) : d.execute c g s = .error f ↔ d.execute c g' s = .error f := by
  by_cases hrnd : d.op = .rnd
  · have hadvance : ∀ g : Generator, d.execute c g s = .error f ↔ s.follow .next = .error f := by
      intro g
      simp only [Decoded.execute, hrnd, Op.exec]
      exact State.follow_eq_error_of_pc rfl
    rw [hadvance g, hadvance g']
  · rw [Decoded.execute_of_byte fun hdraws => absurd (by simpa [draws] using hdraws) hrnd]

namespace Machine

variable {c : Config} {key : Option Key} {g g' : Generator} {s t : State}

/-- A step that executes nothing takes nothing from the generator. -/
theorem step_of_not_executing (c : Config) (key : Option Key) (hnone : s.executing? = none) :
    ∃ outcome, ∀ g, (step c key s g).outcome = outcome ∧ (step c key s g).generator = g := by
  rcases State.executing?_eq_none_iff.mp hnone with ⟨r, hmode⟩ | ⟨hmode, f, hfetch⟩
  · cases key with
    | none => exact ⟨_, fun g => ⟨step_waiting_none hmode, step_waiting_generator hmode⟩⟩
    | some k => exact ⟨_, fun g => ⟨step_waiting_some k hmode, step_waiting_generator hmode⟩⟩
  · have hfetch' : State.fetch { s with key := key } = .error f := hfetch
    refine ⟨.error f, fun g => ?_⟩
    rw [step_running hmode, execute, hfetch']
    exact ⟨rfl, rfl⟩

theorem step_generator (c : Config) (key : Option Key) (s : State) (g : Generator) :
    (step c key s g).generator = g.skip s.isAtRandom.toNat := by
  cases hd : s.executing? with
  | none =>
    obtain ⟨_, hstep⟩ := step_of_not_executing c key hd
    rw [State.isAtRandom_of_not_executing hd]
    exact (hstep g).2
  | some d =>
    rw [State.isAtRandom_of_executing hd, step_executing_generator hd, Decoded.generatorAfter]
    cases d.draws <;> rfl

theorem step_outcome_of_byte (h : s.isAtRandom = true → g.byte = g'.byte) :
    (step c key s g).outcome = (step c key s g').outcome := by
  cases hd : s.executing? with
  | none =>
    obtain ⟨_, hstep⟩ := step_of_not_executing c key hd
    rw [(hstep g).1, (hstep g').1]
  | some d =>
    rw [State.isAtRandom_of_executing hd] at h
    rw [step_executing hd, step_executing hd, Decoded.execute_of_byte h]

/-- Whether a step fails, and how, does not depend on the generator. -/
theorem step_error_iff (f : Fault) :
    (step c key s g).outcome = .error f ↔ (step c key s g').outcome = .error f := by
  cases hd : s.executing? with
  | none =>
    obtain ⟨_, hstep⟩ := step_of_not_executing c key hd
    rw [(hstep g).1, (hstep g').1]
  | some d =>
    rw [step_executing hd, step_executing hd, finish_eq_error_iff, finish_eq_error_iff]
    simp only [d.execute_error_iff c g g']

/-! ### Runs -/

/-- The states that the steps of a run start from, that of a failing step included. -/
def starts (c : Config) : List (Option Key) → State → Generator → List State
  | [], _, _ => []
  | key :: keys, s, g =>
    let r := step c key s g
    match r.outcome with
    | .error _ => [s]
    | .ok t => s :: starts c keys t r.generator

/-- How many steps of a run start in front of an opcode `Cxkk`. -/
def draws (c : Config) (keys : List (Option Key)) (s : State) (g : Generator) : Nat :=
  (starts c keys s g).countP State.isAtRandom

variable {keys : List (Option Key)}

theorem starts_cons_of_ok (h : (step c key s g).outcome = .ok t) :
    starts c (key :: keys) s g = s :: starts c keys t (step c key s g).generator := by
  simp [starts, h]

theorem starts_cons_of_error {f : Fault} (h : (step c key s g).outcome = .error f) :
    starts c (key :: keys) s g = [s] := by
  simp [starts, h]

theorem draws_cons_of_ok (h : (step c key s g).outcome = .ok t) :
    draws c (key :: keys) s g =
      s.isAtRandom.toNat + draws c keys t (step c key s g).generator := by
  rw [draws, starts_cons_of_ok h, List.countP_cons, Nat.add_comm, draws]
  cases s.isAtRandom <;> rfl

theorem draws_cons_of_error {f : Fault} (h : (step c key s g).outcome = .error f) :
    draws c (key :: keys) s g = s.isAtRandom.toNat := by
  rw [draws, starts_cons_of_error h, List.countP_singleton]
  cases s.isAtRandom <;> rfl

theorem runKeys_generator (c : Config) (keys : List (Option Key)) (s : State) (g : Generator) :
    (runKeys c keys s g).generator = g.skip (draws c keys s g) := by
  induction keys generalizing s g with
  | nil => rfl
  | cons key keys ih =>
    have hgenerator := step_generator c key s g
    cases hstep : (step c key s g).outcome with
    | error f => rw [runKeys_cons_of_error hstep, draws_cons_of_error hstep, hgenerator]
    | ok t =>
      rw [runKeys_cons_of_ok hstep, ih, draws_cons_of_ok hstep, ← Generator.skip_add, hgenerator]

/-- Agreement on the words that one run uses makes the other run the same. -/
theorem runKeys_congr (hagree : Generator.AgreeFor (draws c keys s g) g g') :
    starts c keys s g' = starts c keys s g ∧
      (runKeys c keys s g').state = (runKeys c keys s g).state ∧
      (runKeys c keys s g').fault = (runKeys c keys s g).fault := by
  induction keys generalizing s g g' with
  | nil => exact ⟨rfl, rfl, rfl⟩
  | cons key keys ih =>
    cases hstep : (step c key s g).outcome with
    | error f =>
      have hstep' : (step c key s g').outcome = .error f := (step_error_iff f).mp hstep
      rw [starts_cons_of_error hstep, starts_cons_of_error hstep', runKeys_cons_of_error hstep,
        runKeys_cons_of_error hstep']
      exact ⟨rfl, rfl, rfl⟩
    | ok t =>
      have hgenerator := step_generator c key s g
      have hgenerator' := step_generator c key s g'
      rw [draws_cons_of_ok hstep, hgenerator] at hagree
      -- If this step draws, its word is the first of those agreed on; the others are for the rest.
      have hbyte : s.isAtRandom = true → g.byte = g'.byte := by
        intro hrandom
        rw [hrandom, Bool.toNat_true, Nat.add_comm] at hagree
        exact hagree.byte
      have hstep' : (step c key s g').outcome = .ok t := by
        rw [← step_outcome_of_byte hbyte, hstep]
      obtain ⟨hstarts, hstate, hfault⟩ := ih hagree.skip
      rw [starts_cons_of_ok hstep, starts_cons_of_ok hstep', runKeys_cons_of_ok hstep,
        runKeys_cons_of_ok hstep', hgenerator, hgenerator', hstarts]
      exact ⟨rfl, hstate, hfault⟩

/-- What randomness does to a run. A step uses one word if it starts in front of an opcode `Cxkk`,
and none otherwise, whether or not it fails, and a run uses those of its steps. A generator that
agrees in the lowest bytes of these words gives the same states and the same fault, and as many of
its words are used. A run without such a step is the same with any generator, of which it uses
nothing. No generator makes a step fail that succeeds with another one, so a failed step fails
again. -/
theorem run_randomness (c : Config) (keys : List (Option Key)) (s : State) (g : Generator) :
    (∀ key, (step c key s g).generator = if s.isAtRandom then g.skip 1 else g) ∧
    (runKeys c keys s g).generator = g.skip (draws c keys s g) ∧
    (∀ g', Generator.AgreeFor (draws c keys s g) g g' →
      starts c keys s g' = starts c keys s g ∧
        runKeys c keys s g' =
          ⟨(runKeys c keys s g).state, (runKeys c keys s g).fault, g'.skip (draws c keys s g)⟩) ∧
    ((∀ t ∈ starts c keys s g, t.isAtRandom = false) → ∀ g',
      starts c keys s g' = starts c keys s g ∧
        runKeys c keys s g' = ⟨(runKeys c keys s g).state, (runKeys c keys s g).fault, g'⟩) ∧
    (∀ key g' f, (step c key s g).outcome = .error f ↔ (step c key s g').outcome = .error f) ∧
    ∀ key f, (step c key s g).outcome = .error f →
      (step c key s (step c key s g).generator).outcome = .error f := by
  have hagreeing : ∀ g', Generator.AgreeFor (draws c keys s g) g g' →
      starts c keys s g' = starts c keys s g ∧
        runKeys c keys s g' =
          ⟨(runKeys c keys s g).state, (runKeys c keys s g).fault, g'.skip (draws c keys s g)⟩ := by
    intro g' hagree
    obtain ⟨hstarts, hstate, hfault⟩ := runKeys_congr hagree
    have hgenerator := runKeys_generator c keys s g'
    rw [draws, hstarts] at hgenerator
    refine ⟨hstarts, ?_⟩
    rw [← hstate, ← hfault, draws, ← hgenerator]
  refine ⟨?_, runKeys_generator c keys s g, hagreeing, ?_, fun key g' f => step_error_iff f, ?_⟩
  · intro key
    rw [step_generator]
    cases s.isAtRandom <;> rfl
  · intro hnone g'
    have hzero : draws c keys s g = 0 := by
      rw [draws, List.countP_eq_zero]
      intro t ht
      simp [hnone t ht]
    have hrun := hagreeing g'
    rw [hzero] at hrun
    exact hrun fun i hi => absurd hi (Nat.not_lt_zero i)
  · intro key f hfails
    exact (step_error_iff f).mp hfails

/-- The words of `changing` differ from these, in the first two above the lowest byte only. -/
private def steady : Generator := { words := fun _ => 0x105 }

private def changing : Generator := { words := fun n => if n < 2 then 0x205 else 0 }

private theorem steady_agrees : Generator.AgreeFor 2 steady changing := by
  unfold Generator.AgreeFor
  decide

/-- `RND V0, F` and `RND V1, FF` at the end of memory. The second uses its word and then has no
place to go on. -/
theorem run_randomness_last_words :
    let past : Fault := .execution (.memoryOutOfBounds 0x1000)
    ∃ s t, State.load [0xC0, 0x0F, 0xC1, 0xFF] 0xFFC = .ok s ∧ t.registers.get 0 = 5 ∧
      Generator.AgreeFor 2 steady changing ∧
      runKeys {} [none, none, none] s steady = ⟨t, some past, steady.skip 2⟩ ∧
      runKeys {} [none, none, none] s changing = ⟨t, some past, changing.skip 2⟩ := by
  intro past
  let program : List Byte := [0xC0, 0x0F, 0xC1, 0xFF]
  let s : State :=
    { State.initial with memory := Memory.initial.store 0xFFC program, pc := 0xFFC }
  let t : State := { s with registers := Registers.zero.set 0 5, pc := 0xFFE, phase := 1 }
  have hload : State.load program 0xFFC = .ok s :=
    State.load_eq_ok_iff.mpr ⟨by decide, by decide, by decide, rfl⟩
  have hfirst : s.executing? = some ⟨0xC00F, .rnd, { x := 0, kk := 0x0F }⟩ :=
    State.executing?_of_stored program 0 0xC00F rfl (by decide) rfl rfl (by decide) (by decide) rfl
  have hsecond : t.executing? = some ⟨0xC1FF, .rnd, { x := 1, kk := 0xFF }⟩ :=
    State.executing?_of_stored program 2 0xC1FF rfl (by decide) rfl rfl (by decide) (by decide) rfl
  have hok : (step {} none s steady).outcome = .ok t := by
    rw [step_executing hfirst]
    rfl
  have hfails : (step {} none t (steady.skip 1)).outcome = .error past := by
    rw [step_executing hsecond]
    rfl
  have hword : (step {} none s steady).generator = steady.skip 1 := step_executing_generator hfirst
  have hdraws : draws {} [none, none, none] s steady = 2 := by
    rw [draws_cons_of_ok hok, hword, draws_cons_of_error hfails,
      State.isAtRandom_of_executing hfirst, State.isAtRandom_of_executing hsecond]
    rfl
  have hrun : runKeys {} [none, none, none] s steady = ⟨t, some past, steady.skip 2⟩ := by
    rw [runKeys_cons_of_ok hok, hword, runKeys_cons_of_error hfails,
      step_executing_generator hsecond]
    rfl
  obtain ⟨_, _, hagreeing, _⟩ := run_randomness {} [none, none, none] s steady
  rw [hdraws, hrun] at hagreeing
  exact ⟨s, t, hload, rfl, steady_agrees, hrun, (hagreeing changing steady_agrees).2⟩

end Machine

end Chip8
