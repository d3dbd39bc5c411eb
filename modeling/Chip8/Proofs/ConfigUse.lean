import Chip8.Proofs.Comparison

/-!
# Where the configuration matters

Besides the period of the clock, a configuration acts only through six instructions: `SHR` and `SHL`
whose operands are different registers, the two register transfers, and a `CALL` that finds the stack
full. A run in which two configurations agree on these is the same under both. The stack depth is a
limit and no more, so raising it changes no run that keeps within it.
-/

namespace Chip8

namespace State

/-- Both configurations mean the same for the instruction that the next step executes. -/
def ConfiguredSame (c c' : Config) (s : State) : Prop :=
  ∀ d, s.executing? = some d → d.op.ConfiguredSame c c' d.operands s.stack

end State

namespace Machine

variable {c c' : Config} {key : Option Key} {keys : List (Option Key)} {g : Generator} {s t : State}

theorem step_alike_of_config (hperiod : c'.period = c.period) (h : s.ConfiguredSame c c') :
    (step c key s g).Alike Eq (step c' key s g) := by
  have hlooks : LooksAlike c c' key key s s :=
    .of_memory ⟨rfl, rfl, rfl, rfl, rfl⟩ rfl (fun _ => rfl) (fun _ => rfl) h
  have hsteps := step_alike g hlooks
  refine ⟨hsteps.outcome.imp ?_, hsteps.generator⟩
  intro t t' _ _ hacts
  exact (State.ext (hacts.memory_eq rfl) hacts.core.registers hacts.core.index hacts.core.pc
    hacts.core.stack (hacts.timer .delay hperiod rfl rfl) (hacts.timer .sound hperiod rfl rfl)
    (hacts.display rfl) (hacts.key rfl) hacts.core.mode (hacts.phase hperiod rfl)).symm

theorem runKeys_eq_of_config (hperiod : c'.period = c.period)
    (h : ∀ t ∈ starts c keys s g, t.ConfiguredSame c c') (n : Nat) :
    runKeys c' (keys.take n) s g = runKeys c (keys.take n) s g := by
  apply RunResult.Alike.eq
  apply runKeys_alike_of_starts (P := State.ConfiguredSame c c') _ h rfl n
  rintro s _ key g rfl hs
  exact step_alike_of_config hperiod hs

/-! ### The depth of the stack -/

theorem step_call_full (hop : s.op? = some .call) (hfull : c.stackDepth ≤ s.stack.length) :
    (step c key s g).outcome = .error (.execution (.stackOverflow c.stackDepth)) := by
  obtain ⟨d, hd, hcall⟩ := State.exists_executing_of_op? hop
  rw [step_executing hd]
  simp only [Decoded.execute, hcall, Op.exec, hfull, ↓reduceIte, finish]

/-- A run that comes to a `CALL` with a full stack ends there. -/
theorem fault_of_call_full (ht : t ∈ starts c keys s g) (hop : t.op? = some .call)
    (hfull : c.stackDepth ≤ t.stack.length) :
    (runKeys c keys s g).fault = some (.execution (.stackOverflow c.stackDepth)) := by
  induction keys generalizing s g with
  | nil => cases ht
  | cons key keys ih =>
    cases hstep : (step c key s g).outcome with
    | error f =>
      rw [starts_cons_of_error hstep, List.mem_singleton] at ht
      subst ht
      rw [step_call_full hop hfull] at hstep
      cases hstep
      rw [runKeys_cons_of_error (step_call_full hop hfull)]
    | ok u =>
      rw [starts_cons_of_ok hstep, List.mem_cons] at ht
      rcases ht with rfl | ht
      · rw [step_call_full hop hfull] at hstep
        cases hstep
      · rw [runKeys_cons_of_ok hstep]
        exact ih ht

/-- What the configuration can do to a run. Two configurations with the same period give the same run
if they take the shifts from the same register, or every shift names one register twice; if they
transfer the same registers, or no register transfer is executed; and if every `CALL` finds room on
the stack under both, or both have the same depth. In particular, a greater depth changes no run that
does not overflow the stack. -/
theorem config_matters (c c' : Config) (keys : List (Option Key)) (s : State) (g : Generator) :
    (c'.period = c.period →
      (c'.shiftSource = c.shiftSource ∨
        ∀ t ∈ starts c keys s g, ∀ d, t.executing? = some d → d.op = .shr ∨ d.op = .shl →
          d.operands.x = d.operands.y) →
      (c'.transferRange = c.transferRange ∨
        ∀ t ∈ starts c keys s g, t.op? ≠ some .store ∧ t.op? ≠ some .load) →
      (∀ t ∈ starts c keys s g, t.op? = some .call → c'.stackDepth = c.stackDepth ∨
        t.stack.length < c.stackDepth ∧ t.stack.length < c'.stackDepth) →
      ∀ n, runKeys c' (keys.take n) s g = runKeys c (keys.take n) s g) ∧
    ∀ depth, c.stackDepth ≤ depth →
      (runKeys c keys s g).fault ≠ some (.execution (.stackOverflow c.stackDepth)) →
      ∀ n, runKeys { c with stackDepth := depth } (keys.take n) s g =
        runKeys c (keys.take n) s g := by
  constructor
  · intro hperiod hshift hrange hdepth n
    refine runKeys_eq_of_config hperiod (fun t ht d hd => ?_) n
    have hop := State.op?_of_executing hd
    refine ⟨fun hshifts => ?shift, fun htransfers => ?range, fun hcall => ?depth⟩
    case shift => exact hshift.imp_right fun hsame => hsame t ht d hd hshifts
    case range =>
      rcases hrange with hsame | hnone
      · exact hsame
      · obtain ⟨hstore, hload⟩ := hnone t ht
        rw [hop] at hstore hload
        rcases htransfers with htransfer | htransfer
        · exact absurd (congrArg some htransfer) hstore
        · exact absurd (congrArg some htransfer) hload
    case depth =>
      rw [hcall] at hop
      exact hdepth t ht hop
  · intro depth hle hfault n
    let deeper : Config := { c with stackDepth := depth }
    have hperiod : deeper.period = c.period := rfl
    -- A `CALL` without room would have ended the run with the fault that is excluded.
    have hsame : ∀ t ∈ starts c keys s g, t.ConfiguredSame c deeper := by
      intro t ht d hd
      refine ⟨fun _ => .inl rfl, fun _ => rfl, fun hcall => ?_⟩
      have hroom : t.stack.length < c.stackDepth := by
        apply Nat.not_le.mp
        intro hfull
        have hop : t.op? = some .call := by rw [State.op?_of_executing hd, hcall]
        exact hfault (fault_of_call_full ht hop hfull)
      exact .inr ⟨hroom, Nat.lt_of_lt_of_le hroom hle⟩
    exact runKeys_eq_of_config hperiod hsame n

/-- `CALL 202`, `SHR V1, V1` and then `JP 204`. The stack has room for one call, so a depth of two
will do, and so will any depth from sixteen on. -/
theorem config_matters_within_depth :
    ∃ s, State.loadProgram [0x22, 0x02, 0x81, 0x16, 0x12, 0x04] = .ok s ∧
      let keys : List (Option Key) := [none, none, none]
      let g : Generator := Generator.cycling #[]
      let other : Config := { stackDepth := 2, shiftSource := .vx, transferRange := .exclusive }
      (∀ n, runKeys other (keys.take n) s g = runKeys {} (keys.take n) s g) ∧
      ∀ n, runKeys { stackDepth := 100 } (keys.take n) s g = runKeys {} (keys.take n) s g := by
  let program : List Byte := [0x22, 0x02, 0x81, 0x16, 0x12, 0x04]
  let g : Generator := Generator.cycling #[]
  let other : Config := { stackDepth := 2, shiftSource := .vx, transferRange := .exclusive }
  let s : State := { State.initial with memory := Memory.initial.store programStart program }
  let called : State := { s with pc := 0x202, stack := [0x200], phase := 1 }
  let value : Byte := called.registers.get 1
  let halved : State := called.setResult 1 (value >>> 1) (value.getLsbD 0)
  let shifted : State := { halved with pc := 0x204, phase := 2 }
  let last : State := { shifted with phase := 3 }
  have hload : State.loadProgram program = .ok s :=
    State.load_eq_ok_iff.mpr ⟨by decide, by decide, by decide, rfl⟩
  have hcall : s.executing? = some ⟨0x2202, .call, { nnn := 0x202 }⟩ :=
    State.executing?_of_stored program 0 0x2202 rfl (by decide) rfl rfl (by decide) (by decide) rfl
  have hshift : called.executing? = some ⟨0x8116, .shr, { x := 1, y := 1 }⟩ :=
    State.executing?_of_stored program 2 0x8116 rfl (by decide) rfl rfl (by decide) (by decide) rfl
  have hjump : shifted.executing? = some ⟨0x1204, .jp, { nnn := 0x204 }⟩ :=
    State.executing?_of_stored program 4 0x1204 rfl (by decide) rfl rfl (by decide) (by decide) rfl
  have hfirst : (step {} none s g).outcome = .ok called := by
    rw [step_executing hcall]
    rfl
  have hsecond : (step {} none called g).outcome = .ok shifted := by
    rw [step_executing hshift]
    rfl
  have hthird : (step {} none shifted g).outcome = .ok last := by
    rw [step_executing hjump]
    rfl
  have hfirstWord : (step {} none s g).generator = g := step_executing_generator hcall
  have hsecondWord : (step {} none called g).generator = g := step_executing_generator hshift
  have hstarts : starts {} [none, none, none] s g = [s, called, shifted] := by
    rw [starts_cons_of_ok hfirst, hfirstWord, starts_cons_of_ok hsecond, hsecondWord,
      starts_cons_of_ok hthird]
    rfl
  have hfault : (runKeys {} [none, none, none] s g).fault = none := by
    rw [runKeys_cons_of_ok hfirst, hfirstWord, runKeys_cons_of_ok hsecond, hsecondWord,
      runKeys_cons_of_ok hthird]
    rfl
  obtain ⟨hsame, _⟩ := config_matters {} other [none, none, none] s g
  obtain ⟨_, hdeeper⟩ := config_matters {} {} [none, none, none] s g
  refine ⟨s, hload, hsame rfl (.inr ?shift) (.inr ?range) ?depth, hdeeper 100 (by decide) ?fault⟩
  case shift =>
    rw [hstarts]
    simp only [List.mem_cons, List.not_mem_nil, or_false, forall_eq_or_imp, forall_eq, hcall, hshift,
      hjump, Option.some.injEq, forall_eq']
    decide
  case range =>
    rw [hstarts]
    simp only [List.mem_cons, List.not_mem_nil, or_false, forall_eq_or_imp, forall_eq,
      State.op?_of_executing hcall, State.op?_of_executing hshift, State.op?_of_executing hjump]
    decide
  case depth =>
    rw [hstarts]
    simp only [List.mem_cons, List.not_mem_nil, or_false, forall_eq_or_imp, forall_eq,
      State.op?_of_executing hcall, State.op?_of_executing hshift, State.op?_of_executing hjump]
    decide
  case fault =>
    rw [hfault]
    exact nofun

end Machine

end Chip8
