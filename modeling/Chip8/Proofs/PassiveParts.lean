import Chip8.Proofs.Comparison

/-!
# Passive parts

The sound timer, the clock and the picture are written by every program and read by few. Nothing reads
the sound timer, only `LD Vx, DT` reads the delay timer and only `DRW` reads the picture. A run that
executes none of these goes the same way whatever the timers, the divider and the picture are.
-/

namespace Chip8

namespace State

/-- The states differ at most in the sound timer. -/
def SameButSound (s s' : State) : Prop := ∃ sound, s' = { s with sound := sound }

/-- The states differ at most in the timers and the phase of the clock. -/
def SameButTiming (s s' : State) : Prop :=
  ∃ delay sound phase, s' = { s with delay := delay, sound := sound, phase := phase }

/-- The states differ at most in the picture. -/
def SameButDisplay (s s' : State) : Prop := ∃ display, s' = { s with display := display }

end State

namespace Machine

variable {c : Config} {key : Option Key} {keys : List (Option Key)} {g : Generator} {s s' t t' : State}

theorem step_alike_of_sound (h : s.SameButSound s') :
    (step c key s g).Alike State.SameButSound (step c key s' g) := by
  obtain ⟨sound, rfl⟩ := h
  have hlooks : LooksAlike c c key key s { s with sound := sound } :=
    .of_memory ⟨rfl, rfl, rfl, rfl, rfl⟩ rfl (fun _ => rfl) (fun _ => rfl) fun d _ => .refl ..
  have hsteps := step_alike g hlooks
  refine ⟨hsteps.outcome.imp ?_, hsteps.generator⟩
  intro t t' _ _ hacts
  exact ⟨t'.sound, State.ext (hacts.memory_eq rfl) hacts.core.registers hacts.core.index
    hacts.core.pc hacts.core.stack (hacts.timer .delay rfl rfl rfl) rfl (hacts.display rfl)
    (hacts.key rfl) hacts.core.mode (hacts.phase rfl rfl)⟩

/-- Neither `LD Vx, DT` nor `DRW` fails because of what it reads from timer or picture. -/
theorem step_alike_of_failure {c' : Config} {d : Decoded} {R : State → State → Prop} {f : Fault}
    (hd : s.executing? = some d) (hd' : s'.executing? = some d)
    (hop : d.op = .ldRegDelay ∨ d.op = .drw) (hcore : s.SameCore s')
    (hmemory : s'.memory = s.memory) (hfails : (step c key s g).outcome = .error f) :
    (step c key s g).Alike R (step c' key s' g) where
  outcome := by
    refine .inl ⟨f, hfails, ?_⟩
    rw [step_executing hd, finish_eq_error_iff] at hfails
    rw [step_executing hd', finish_eq_error_iff]
    obtain ⟨e, hexec, rfl⟩ := hfails
    refine ⟨e, ?_, rfl⟩
    unfold Decoded.execute at hexec ⊢
    rcases hop with hop | hop
    · simp only [hop, Op.exec] at hexec ⊢
      refine (State.follow_eq_error_of_pc ?_).mpr hexec
      exact hcore.pc
    · simp only [hop, Op.exec, hmemory, hcore.index] at hexec ⊢
      cases hread : s.memory.read s.index d.operands.n.toNat with
      | error e' =>
        simp only [hread] at hexec ⊢
        exact hexec
      | ok sprite =>
        simp only [hread] at hexec ⊢
        refine (State.follow_eq_error_of_pc ?_).mpr hexec
        exact hcore.pc
  generator := by
    rw [step_generator, step_generator, State.isAtRandom_of_executing hd,
      State.isAtRandom_of_executing hd']

theorem step_alike_unless {c' : Config} {op : Op} {R : State → State → Prop}
    (hop : op = .ldRegDelay ∨ op = .drw) (hcore : s.SameCore s') (hmemory : s'.memory = s.memory)
    (hexecuting : s'.executing? = s.executing?)
    (hcompleted : ∀ t, (step c key s g).outcome = .ok t → s.op? ≠ some op)
    (hother : s.op? ≠ some op → (step c key s g).Alike R (step c' key s' g)) :
    (step c key s g).Alike R (step c' key s' g) := by
  cases hstep : (step c key s g).outcome with
  | ok t => exact hother (hcompleted t hstep)
  | error f =>
    -- The comparison of steps does not apply here, since the states differ in what `op` looks at.
    by_cases hat : s.op? = some op
    · obtain ⟨d, hd, rfl⟩ := State.exists_executing_of_op? hat
      exact step_alike_of_failure hd (hexecuting.trans hd) hop hcore hmemory hstep
    · exact hother hat

theorem step_alike_of_timing_unread {divider : Byte} (h : s.SameButTiming s')
    (hread : s.op? ≠ some .ldRegDelay) :
    (step c key s g).Alike State.SameButTiming
      (step { c with timerDivider := divider } key s' g) := by
  obtain ⟨delay, sound, phase, rfl⟩ := h
  have hlooks : LooksAlike c { c with timerDivider := divider } key key s
      { s with delay := delay, sound := sound, phase := phase } :=
    .of_memory ⟨rfl, rfl, rfl, rfl, rfl⟩ rfl (fun hop => absurd hop hread) (fun _ => rfl)
      fun d _ => .of_divider ..
  have hsteps := step_alike g hlooks
  refine ⟨hsteps.outcome.imp ?_, hsteps.generator⟩
  intro t t' _ _ hacts
  exact ⟨t'.delay, t'.sound, t'.phase, State.ext (hacts.memory_eq rfl) hacts.core.registers
    hacts.core.index hacts.core.pc hacts.core.stack rfl rfl (hacts.display rfl) (hacts.key rfl)
    hacts.core.mode rfl⟩

theorem step_alike_of_timing {divider : Byte} (h : s.SameButTiming s')
    (hread : ∀ t, (step c key s g).outcome = .ok t → s.op? ≠ some .ldRegDelay) :
    (step c key s g).Alike State.SameButTiming
      (step { c with timerDivider := divider } key s' g) := by
  obtain ⟨delay, sound, phase, rfl⟩ := h
  refine step_alike_unless (.inl rfl) ⟨rfl, rfl, rfl, rfl, rfl⟩ rfl rfl hread fun hop => ?_
  exact step_alike_of_timing_unread ⟨delay, sound, phase, rfl⟩ hop

theorem step_alike_of_display_unread (h : s.SameButDisplay s') (hdraw : s.op? ≠ some .drw) :
    (step c key s g).Alike State.SameButDisplay (step c key s' g) := by
  obtain ⟨display, rfl⟩ := h
  have hlooks : LooksAlike c c key key s { s with display := display } :=
    .of_memory ⟨rfl, rfl, rfl, rfl, rfl⟩ rfl (fun _ => rfl) (fun hop => absurd hop hdraw)
      fun d _ => .refl ..
  have hsteps := step_alike g hlooks
  refine ⟨hsteps.outcome.imp ?_, hsteps.generator⟩
  intro t t' _ _ hacts
  exact ⟨t'.display, State.ext (hacts.memory_eq rfl) hacts.core.registers hacts.core.index
    hacts.core.pc hacts.core.stack (hacts.timer .delay rfl rfl rfl) (hacts.timer .sound rfl rfl rfl)
    rfl (hacts.key rfl) hacts.core.mode (hacts.phase rfl rfl)⟩

theorem step_alike_of_display (h : s.SameButDisplay s')
    (hdraw : ∀ t, (step c key s g).outcome = .ok t → s.op? ≠ some .drw) :
    (step c key s g).Alike State.SameButDisplay (step c key s' g) := by
  obtain ⟨display, rfl⟩ := h
  refine step_alike_unless (.inr rfl) ⟨rfl, rfl, rfl, rfl, rfl⟩ rfl rfl hdraw fun hop => ?_
  exact step_alike_of_display_unread ⟨display, rfl⟩ hop

/-! ### Runs -/

/-- The states that the steps of a run start from, without that of a failing step. -/
def completed (c : Config) : List (Option Key) → State → Generator → List State
  | [], _, _ => []
  | key :: keys, s, g =>
    let r := step c key s g
    match r.outcome with
    | .error _ => []
    | .ok t => s :: completed c keys t r.generator

theorem completed_cons_of_ok (h : (step c key s g).outcome = .ok t) :
    completed c (key :: keys) s g = s :: completed c keys t (step c key s g).generator := by
  simp [completed, h]

theorem completed_cons_of_error {f : Fault} (h : (step c key s g).outcome = .error f) :
    completed c (key :: keys) s g = [] := by
  simp [completed, h]

theorem forall_completed_cons {P : State → Prop} (h : ∀ t ∈ completed c (key :: keys) s g, P t)
    (hstep : (step c key s g).outcome = .ok t) :
    P s ∧ ∀ u ∈ completed c keys t (step c key s g).generator, P u := by
  rw [completed_cons_of_ok hstep] at h
  exact List.forall_mem_cons.mp h

/-- A relation that each two steps keep holds after any number of steps. `P` is what the relation
needs of the states that the steps of the first run start from, unless the step fails. -/
theorem runKeys_alike_of_completed {c' : Config} {R : State → State → Prop} {P : State → Prop}
    (hstep : ∀ s s' key g, R s s' → (∀ t, (step c key s g).outcome = .ok t → P s) →
      (step c key s g).Alike R (step c' key s' g))
    (hcompleted : ∀ t ∈ completed c keys s g, P t) (hs : R s s') (n : Nat) :
    (runKeys c (keys.take n) s g).Alike R (runKeys c' (keys.take n) s' g) := by
  induction n generalizing keys s s' g with
  | zero => exact ⟨hs, rfl, rfl⟩
  | succ n ih =>
    match keys with
    | [] => exact ⟨hs, rfl, rfl⟩
    | key :: keys =>
      rw [List.take_succ_cons]
      have hfirst := hstep s s' key g hs fun t ht => (forall_completed_cons hcompleted ht).1
      apply runKeys_cons_alike hfirst
      · intro f _
        exact hs
      · intro t t' ht _ hR
        exact ih (forall_completed_cons hcompleted ht).2 hR

/-! ### Clearing the picture -/

theorem step_cls (hop : s.op? = some .cls) (h : (step c key s g).outcome = .ok t) :
    t.display = .blank := by
  rcases s.running_or_waiting with hmode | ⟨r, hmode⟩
  · obtain ⟨d, hd⟩ := exists_executing hmode h
    obtain ⟨u, route, hexec, rfl⟩ := step_executing_eq_ok hd h
    rw [State.op?_of_executing hd] at hop
    rw [Option.some.inj hop] at hexec
    cases hexec
    exact State.tick_display c _
  · rw [State.op?_of_waiting hmode] at hop
    cases hop

theorem eq_of_cls (hs : s.SameButDisplay s') (hop : s.op? = some .cls)
    (h : (step c key s g).outcome = .ok t) (h' : (step c key s' g).outcome = .ok t')
    (ht : t.SameButDisplay t') : t' = t := by
  have hop' : s'.op? = some .cls := by
    obtain ⟨display, rfl⟩ := hs
    exact hop
  have hblank := step_cls hop h
  have hblank' := step_cls hop' h'
  obtain ⟨display, rfl⟩ := ht
  exact State.ext rfl rfl rfl rfl rfl rfl rfl (hblank'.trans hblank.symm) rfl rfl rfl

/-- Once a step has cleared both pictures, the runs are the same. -/
theorem runKeys_eq_of_cls (h : s.SameButDisplay s')
    (hdraw : ∀ t ∈ completed c keys s g, t.op? ≠ some .drw) {i : Nat}
    (hi : (completed c keys s g)[i]? = some t) (hop : t.op? = some .cls) {n : Nat} (hn : i < n) :
    runKeys c (keys.take n) s' g = runKeys c (keys.take n) s g := by
  induction keys generalizing s s' g i n with
  | nil =>
    rw [completed, List.getElem?_nil] at hi
    cases hi
  | cons key keys ih =>
    obtain ⟨n, rfl⟩ := Nat.exists_eq_add_of_lt (Nat.zero_lt_of_lt hn)
    rw [Nat.zero_add] at hn ⊢
    rw [List.take_succ_cons]
    have hfirst : (step c key s g).Alike State.SameButDisplay (step c key s' g) :=
      step_alike_of_display h fun u hu => (forall_completed_cons hdraw hu).1
    rcases hfirst.outcome with ⟨f, hstep, _⟩ | ⟨u, u', hstep, hstep', hu⟩
    · rw [completed_cons_of_error hstep, List.getElem?_nil] at hi
      cases hi
    · obtain ⟨_, hrest⟩ := forall_completed_cons hdraw hstep
      rw [completed_cons_of_ok hstep] at hi
      rw [runKeys_cons_of_ok hstep, runKeys_cons_of_ok hstep', hfirst.generator]
      cases i with
      | zero =>
        obtain rfl : s = t := Option.some.inj hi
        rw [eq_of_cls h hop hstep hstep' hu]
      | succ i =>
        rw [List.getElem?_cons_succ] at hi
        exact ih hu hrest hi (Nat.lt_of_succ_lt_succ hn)

/-- Timing and picture reach a program only through `LD Vx, DT` and the collision flag of `DRW`. Runs
whose start states differ only in the sound timer stay so. A run that executes no `LD Vx, DT` does the
same whatever the timers, the phase and the divider are, but for the timers and the phase. A run that
executes no `DRW` does the same whatever the picture is, but for the picture; from a `CLS` on it is
the same entirely. In all three cases the faults are the same, and so are the words drawn. -/
theorem passive_parts (c : Config) (keys : List (Option Key)) (s s' : State) (g : Generator) :
    (s.SameButSound s' →
      ∀ n, (runKeys c (keys.take n) s g).Alike State.SameButSound
        (runKeys c (keys.take n) s' g)) ∧
    (s.SameButTiming s' → (∀ t ∈ completed c keys s g, t.op? ≠ some .ldRegDelay) →
      ∀ divider n, (runKeys c (keys.take n) s g).Alike State.SameButTiming
        (runKeys { c with timerDivider := divider } (keys.take n) s' g)) ∧
    (s.SameButDisplay s' → (∀ t ∈ completed c keys s g, t.op? ≠ some .drw) →
      (∀ n, (runKeys c (keys.take n) s g).Alike State.SameButDisplay
        (runKeys c (keys.take n) s' g)) ∧
      ∀ (i : Nat) t, (completed c keys s g)[i]? = some t → t.op? = some .cls →
        ∀ n, i < n → runKeys c (keys.take n) s' g = runKeys c (keys.take n) s g) := by
  refine ⟨?sound, ?timing, ?display⟩
  case sound =>
    intro hs n
    exact runKeys_alike_of_starts (P := fun _ => True)
      (fun s s' key g hs _ => step_alike_of_sound hs) (fun _ _ => trivial) hs n
  case timing =>
    intro hs hread divider n
    exact runKeys_alike_of_completed (fun s s' key g hs hread => step_alike_of_timing hs hread)
      hread hs n
  case display =>
    intro hs hdraw
    refine ⟨fun n => ?_, fun i t hi hop n hn => runKeys_eq_of_cls hs hdraw hi hop hn⟩
    exact runKeys_alike_of_completed (fun s s' key g hs hdraw => step_alike_of_display hs hdraw)
      hdraw hs n

/-- `LD DT, V0`, `CLS` and then `JP 204`, with other timers, under another divider and with a picture
that the second step clears. -/
theorem passive_parts_cleared :
    ∃ s, State.loadProgram [0xF0, 0x15, 0x00, 0xE0, 0x12, 0x04] = .ok s ∧
      let keys : List (Option Key) := [none, some 4, none]
      let g : Generator := Generator.cycling #[]
      let clocked : State := { s with delay := 5, sound := 9, phase := 100 }
      let painted : State := { s with display := (Display.blank.draw 0 0 [0xFF]).1 }
      (∀ n, (runKeys {} (keys.take n) s g).Alike State.SameButSound
        (runKeys {} (keys.take n) { s with sound := 9 } g)) ∧
      (∀ n, (runKeys {} (keys.take n) s g).Alike State.SameButTiming
        (runKeys { timerDivider := 1 } (keys.take n) clocked g)) ∧
      (∀ n, (runKeys {} (keys.take n) s g).Alike State.SameButDisplay
        (runKeys {} (keys.take n) painted g)) ∧
      ∀ n, 1 < n → runKeys {} (keys.take n) painted g = runKeys {} (keys.take n) s g := by
  let program : List Byte := [0xF0, 0x15, 0x00, 0xE0, 0x12, 0x04]
  let g : Generator := Generator.cycling #[]
  let s : State := { State.initial with memory := Memory.initial.store programStart program }
  let clearing : State := { s with pc := 0x202, phase := 1 }
  let looping : State := { s with pc := 0x204, key := some 4, phase := 2 }
  let last : State := { looping with key := none, phase := 3 }
  have hload : State.loadProgram program = .ok s :=
    State.load_eq_ok_iff.mpr ⟨by decide, by decide, by decide, rfl⟩
  have hset : s.executing? = some ⟨0xF015, .ldDelay, { x := 0 }⟩ :=
    State.executing?_of_stored program 0 0xF015 rfl (by decide) rfl rfl (by decide) (by decide) rfl
  have hclear : clearing.executing? = some ⟨0x00E0, .cls, {}⟩ :=
    State.executing?_of_stored program 2 0x00E0 rfl (by decide) rfl rfl (by decide) (by decide) rfl
  have hjump : looping.executing? = some ⟨0x1204, .jp, { nnn := 0x204 }⟩ :=
    State.executing?_of_stored program 4 0x1204 rfl (by decide) rfl rfl (by decide) (by decide) rfl
  have hfirst : (step {} none s g).outcome = .ok clearing := by
    rw [step_executing hset]
    rfl
  have hsecond : (step {} (some 4) clearing g).outcome = .ok looping := by
    rw [step_executing hclear]
    rfl
  have hthird : (step {} none looping g).outcome = .ok last := by
    rw [step_executing hjump]
    rfl
  have hfirstWord : (step {} none s g).generator = g := step_executing_generator hset
  have hsecondWord : (step {} (some 4) clearing g).generator = g := step_executing_generator hclear
  have hcompleted : completed {} [none, some 4, none] s g = [s, clearing, looping] := by
    rw [completed_cons_of_ok hfirst, hfirstWord, completed_cons_of_ok hsecond, hsecondWord,
      completed_cons_of_ok hthird]
    rfl
  have hops : ∀ t ∈ completed {} [none, some 4, none] s g,
      t.op? = some .ldDelay ∨ t.op? = some .cls ∨ t.op? = some .jp := by
    rw [hcompleted]
    simp only [List.mem_cons, List.not_mem_nil, or_false, forall_eq_or_imp, forall_eq,
      State.op?_of_executing hset, State.op?_of_executing hclear, State.op?_of_executing hjump]
    decide
  have hneither : ∀ t ∈ completed {} [none, some 4, none] s g,
      t.op? ≠ some .ldRegDelay ∧ t.op? ≠ some .drw := by
    intro t ht
    rcases hops t ht with hop | hop | hop <;> rw [hop] <;> decide
  obtain ⟨hsound, _, _⟩ := passive_parts {} [none, some 4, none] s { s with sound := 9 } g
  obtain ⟨_, htiming, _⟩ := passive_parts {} [none, some 4, none] s
    { s with delay := 5, sound := 9, phase := 100 } g
  obtain ⟨_, _, hdisplay⟩ := passive_parts {} [none, some 4, none] s
    { s with display := (Display.blank.draw 0 0 [0xFF]).1 } g
  obtain ⟨hpainted, hagain⟩ := hdisplay ⟨_, rfl⟩ fun t ht => (hneither t ht).2
  refine ⟨s, hload, hsound ⟨_, rfl⟩, htiming ⟨_, _, _, rfl⟩ (fun t ht => (hneither t ht).1) 1,
    hpainted, hagain 1 clearing ?_ (State.op?_of_executing hclear)⟩
  rw [hcompleted]
  rfl

end Machine

end Chip8
