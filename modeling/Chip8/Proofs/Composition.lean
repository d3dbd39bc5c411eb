import Chip8.Proofs.KeySequence

/-!
# Runs in parts

A run can be cut anywhere: it goes on from the state and the generator that the part before left. It
is told by its single steps, of which each is given what the one before it left, and a step that fails
is the last one, however many more were asked for.
-/

namespace Chip8

theorem RunResult.outcome_eq_error_iff {r : RunResult} {f : Fault} :
    r.outcome = .error f ↔ r.fault = some f := by
  unfold outcome
  cases r.fault <;> simp

namespace Machine

/-- What the first `n` single steps leave, if all of them succeed. Each is given the state and the
generator that the one before it left. -/
def afterSteps (c : Config) (key : Option Key) (s : State) (g : Generator) :
    Nat → Option (State × Generator)
  | 0 => some (s, g)
  | n + 1 =>
    match afterSteps c key s g n with
    | none => none
    | some (t, g) =>
      let r := step c key t g
      match r.outcome with
      | .error _ => none
      | .ok u => some (u, r.generator)

variable {c : Config} {key : Option Key} {s t : State} {g g' : Generator} {f : Fault} {n m : Nat}

theorem run_add (n m : Nat) (s : State) (g : Generator) :
    run c key (n + m) s g = (run c key n s g).andThen (run c key m) := by
  rw [run_eq_runKeys, ← List.replicate_append_replicate, runKeys_append, run_eq_runKeys]
  congr 1
  funext t g
  rw [run_eq_runKeys]

theorem run_of_fault (h : (run c key n s g).fault = some f) (hle : n ≤ m) :
    run c key m s g = run c key n s g := by
  obtain ⟨k, rfl⟩ := Nat.exists_eq_add_of_le hle
  rw [run_add, RunResult.andThen_of_fault h]

/-- One more step after those of a run that succeeded. -/
theorem run_succ (h : run c key n s g = ⟨t, none, g'⟩) :
    run c key (n + 1) s g =
      match (step c key t g').outcome with
      | .ok u => ⟨u, none, (step c key t g').generator⟩
      | .error f => ⟨t, some f, (step c key t g').generator⟩ := by
  rw [run_add, h, RunResult.andThen_of_ok rfl, run]
  cases (step c key t g').outcome <;> rfl

theorem run_of_afterSteps (h : afterSteps c key s g n = some (t, g')) :
    run c key n s g = ⟨t, none, g'⟩ := by
  induction n generalizing t g' with
  | zero =>
    cases h
    rfl
  | succ n ih =>
    rw [afterSteps] at h
    split at h
    · cases h
    · rename_i u gu hbefore
      have hrun := run_succ (ih hbefore)
      cases hstep : (step c key u gu).outcome with
      | error f => simp [hstep] at h
      | ok v =>
        simp only [hstep, Option.some.injEq, Prod.mk.injEq] at h
        rw [hrun, hstep, ← h.1, ← h.2]

/-- A run that asks for a step that fails ends with it. -/
theorem run_of_failure (h : afterSteps c key s g m = some (t, g'))
    (hfails : (step c key t g').outcome = .error f) (hlt : m < n) :
    run c key n s g = ⟨t, some f, (step c key t g').generator⟩ := by
  have hlast : run c key (m + 1) s g = ⟨t, some f, (step c key t g').generator⟩ := by
    rw [run_succ (run_of_afterSteps h), hfails]
  have hfault : (run c key (m + 1) s g).fault = some f := by rw [hlast]
  rw [run_of_fault hfault hlt, hlast]

/-- All steps of a run succeed, or there is one that fails after all before it have succeeded. -/
theorem steps_or_failure (c : Config) (key : Option Key) (s : State) (g : Generator) (n : Nat) :
    (∃ t g', afterSteps c key s g n = some (t, g')) ∨
      ∃ m < n, ∃ t g' f, afterSteps c key s g m = some (t, g') ∧
        (step c key t g').outcome = .error f := by
  induction n with
  | zero => exact .inl ⟨s, g, rfl⟩
  | succ n ih =>
    rcases ih with ⟨t, g', h⟩ | ⟨m, hm, hfailure⟩
    · cases hstep : (step c key t g').outcome with
      | ok u =>
        refine .inl ⟨u, (step c key t g').generator, ?_⟩
        simp only [afterSteps, h, hstep]
      | error f => exact .inr ⟨n, Nat.lt_succ_self n, t, g', f, h, hstep⟩
    · exact .inr ⟨m, Nat.lt_succ_of_lt hm, hfailure⟩

theorem runLog_of_fault (h : (run c key n s g).fault = some f) (hle : n ≤ m) :
    runLog c key m s g = runLog c key n s g := by
  induction n generalizing s g m with
  | zero => cases h
  | succ n ih =>
    obtain ⟨k, rfl⟩ : ∃ k, m = k + 1 := ⟨m - 1, by omega⟩
    rw [run] at h
    rw [runLog, runLog]
    cases hstep : (step c key s g).outcome with
    | error e => rfl
    | ok t =>
      simp only [hstep] at h ⊢
      rw [ih h (Nat.le_of_succ_le_succ hle)]

/-- A run of `n + m` steps is one of `n` steps and, if these succeed, one of `m` steps that goes on from
the state and the generator they left. A run succeeds with what its single steps leave if all of them
succeed. It fails as the first of them that does, with the generator where that step left it; a run
that asks for more steps ends in the same way, and logs no more. -/
theorem run_composes (c : Config) (key : Option Key) (s : State) (g : Generator) :
    (∀ n m, run c key (n + m) s g =
      match (run c key n s g).outcome with
      | .ok t => run c key m t (run c key n s g).generator
      | .error _ => run c key n s g) ∧
    (∀ n t g', (run c key n s g).outcome = .ok t ∧ (run c key n s g).generator = g' ↔
      afterSteps c key s g n = some (t, g')) ∧
    (∀ n f g', (run c key n s g).outcome = .error f ∧ (run c key n s g).generator = g' ↔
      ∃ m < n, ∃ t gm, afterSteps c key s g m = some (t, gm) ∧
        (step c key t gm).outcome = .error f ∧ (step c key t gm).generator = g') ∧
    ∀ n f, (run c key n s g).outcome = .error f → ∀ m, n ≤ m →
      (run c key m s g).outcome = .error f ∧
        (run c key m s g).generator = (run c key n s g).generator ∧
        runLog c key m s g = runLog c key n s g := by
  refine ⟨?parts, ?succeeds, ?fails, ?larger⟩
  case parts =>
    intro n m
    rw [run_add, RunResult.andThen, RunResult.outcome]
    cases (run c key n s g).fault <;> rfl
  case succeeds =>
    intro n t g'
    constructor
    · rintro ⟨hok, rfl⟩
      rcases steps_or_failure c key s g n with ⟨u, gu, h⟩ | ⟨m, hm, u, gu, f, h, hfails⟩
      · rw [run_of_afterSteps h] at hok ⊢
        cases hok
        exact h
      · rw [run_of_failure h hfails hm] at hok
        cases hok
    · intro h
      rw [run_of_afterSteps h]
      exact ⟨rfl, rfl⟩
  case fails =>
    intro n f g'
    constructor
    · rintro ⟨herror, rfl⟩
      rcases steps_or_failure c key s g n with ⟨u, gu, h⟩ | ⟨m, hm, u, gu, e, h, hfails⟩
      · rw [run_of_afterSteps h] at herror
        cases herror
      · rw [run_of_failure h hfails hm] at herror ⊢
        cases herror
        exact ⟨m, hm, u, gu, h, hfails, rfl⟩
    · rintro ⟨m, hm, t, gm, h, hfails, rfl⟩
      rw [run_of_failure h hfails hm]
      exact ⟨rfl, rfl⟩
  case larger =>
    intro n f herror m hle
    have hfault := RunResult.outcome_eq_error_iff.mp herror
    rw [run_of_fault hfault hle, runLog_of_fault hfault hle]
    exact ⟨herror, rfl, rfl⟩

private def fives : Generator := { words := fun _ => 5 }

/-- `RND V0, F`, which draws a word, and a `RET` that has nowhere to return to. -/
theorem run_composes_underflow :
    let underflow : Fault := .execution .stackUnderflow
    ∃ s t, State.loadProgram [0xC0, 0x0F, 0x00, 0xEE] = .ok s ∧ t.registers.get 0 = 5 ∧
      afterSteps {} none s fives 1 = some (t, fives.advance) ∧
      (run {} none 2 s fives).outcome = .error underflow ∧
      run {} none (1 + 8) s fives = run {} none 8 t fives.advance ∧
      (run {} none 9 s fives).outcome = .error underflow ∧
      (run {} none 9 s fives).generator = fives.advance := by
  intro underflow
  let program : List Byte := [0xC0, 0x0F, 0x00, 0xEE]
  let s : State := { State.initial with memory := Memory.initial.store programStart program }
  let t : State := { s with registers := Registers.zero.set 0 5, pc := 0x202, phase := 1 }
  have hload : State.loadProgram program = .ok s :=
    State.load_eq_ok_iff.mpr ⟨by decide, by decide, by decide, rfl⟩
  have hdraw : s.executing? = some ⟨0xC00F, .rnd, { x := 0, kk := 0x0F }⟩ :=
    State.executing?_of_stored program 0 0xC00F rfl (by decide) rfl rfl (by decide) (by decide) rfl
  have hreturn : t.executing? = some ⟨0x00EE, .ret, {}⟩ :=
    State.executing?_of_stored program 2 0x00EE rfl (by decide) rfl rfl (by decide) (by decide) rfl
  have hok : (step {} none s fives).outcome = .ok t := by
    rw [step_executing hdraw]
    rfl
  have hfails : (step {} none t fives.advance).outcome = .error underflow := by
    rw [step_executing hreturn]
    rfl
  have hone : afterSteps {} none s fives 1 = some (t, fives.advance) := by
    simp only [afterSteps, hok, step_executing_generator hdraw]
    rfl
  obtain ⟨hparts, hsucceeds, hends, hlarger⟩ := run_composes {} none s fives
  obtain ⟨hfirst, hword⟩ := (hsucceeds 1 t fives.advance).mpr hone
  obtain ⟨herror, hgenerator⟩ := (hends 2 underflow fives.advance).mpr
    ⟨1, by decide, t, fives.advance, hone, hfails, step_executing_generator hreturn⟩
  obtain ⟨herror', hgenerator', _⟩ := hlarger 2 underflow herror 9 (by decide)
  have hsplit := hparts 1 8
  rw [hfirst, hword] at hsplit
  exact ⟨s, t, hload, rfl, hone, herror, hsplit, herror', hgenerator'.trans hgenerator⟩

end Machine

end Chip8
