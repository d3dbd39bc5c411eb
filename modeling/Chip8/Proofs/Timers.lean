import Chip8.Proofs.CallStack
import Mathlib.Data.Nat.Init

/-!
# Timers

Both timers count down together, whenever the phase comes round to zero. In a run under one
configuration these are the steps whose number, counted on from the phase that the run began with, is
a multiple of the period. A timer then holds what was last put into it, less the ticks since.
-/

namespace Chip8

inductive Timer where
  | delay | sound
  deriving DecidableEq, Repr

/-- The instruction that sets a timer. -/
def Timer.setter : Timer → Op
  | delay => .ldDelay
  | sound => .ldSound

namespace State

def timer (s : State) : Timer → Byte
  | .delay => s.delay
  | .sound => s.sound

/-- The value that the next step puts into a timer, if it executes the instruction that does so. -/
def written? (s : State) (k : Timer) : Option Byte :=
  match s.executing? with
  | none => none
  | some d => if d.op = k.setter then some (s.registers.get d.operands.x) else none

/-- What a timer holds when the clock of the next step comes to it. -/
def timerBeforeTick (s : State) (k : Timer) : Byte := (s.written? k).getD (s.timer k)

theorem written?_of_waiting {s : State} {r : Nibble} (hmode : s.mode = .waiting r) (k : Timer) :
    s.written? k = none := by
  simp [written?, executing?, hmode]

theorem timerBeforeTick_of_executing {s : State} {d : Decoded} (hd : s.executing? = some d)
    (k : Timer) :
    s.timerBeforeTick k =
      if d.op = k.setter then s.registers.get d.operands.x else s.timer k := by
  by_cases hset : d.op = k.setter <;> simp [timerBeforeTick, written?, hd, hset]

theorem toNat_timer_tick (c : Config) (s : State) (k : Timer) :
    ((s.tick c).timer k).toNat =
      (s.timer k).toNat - if (s.phase + 1) % c.period = 0 then 1 else 0 := by
  have hlt := (s.timer k).isLt
  by_cases htick : (s.phase + 1) % c.period = 0
  · cases k <;> simp only [timer, tick_eq, htick, ↓reduceIte, BitVec.toNat_ofNat] at hlt ⊢ <;> omega
  · cases k <;> simp [timer, tick_eq, htick]

end State

theorem Op.exec_timer {op : Op} {c : Config} {o : Operands} {g : Generator} {s t : State}
    {route : Flow} (h : op.exec c o g s = .ok (t, route)) (k : Timer) :
    t.timer k = if op = k.setter then s.registers.get o.x else s.timer k := by
  by_cases hset : op = k.setter
  · rw [if_pos hset]
    subst hset
    cases k <;> cases h <;> rfl
  · rw [if_neg hset]
    cases k with
    | delay => exact (exec_frame h).delay hset
    | sound => exact (exec_frame h).sound hset

theorem Op.exec_of_divider (op : Op) (c : Config) (divider : Byte) (o : Operands) (g : Generator)
    (s : State) : op.exec { c with timerDivider := divider } o g s = op.exec c o g s := by
  cases op <;> rfl

namespace Machine

variable {c : Config} {key : Option Key} {g : Generator} {s t : State}

theorem step_ticks (h : (step c key s g).outcome = .ok t) :
    t.phase = (s.phase + 1) % c.period ∧
      ∀ k, (t.timer k).toNat =
        (s.timerBeforeTick k).toNat - if (s.phase + 1) % c.period = 0 then 1 else 0 := by
  rcases step_cases h with ⟨r, hmode, _, rfl⟩ | ⟨r, k, hmode, _, _, rfl⟩ | ⟨d, u, hd, hu, rfl⟩
  · refine ⟨State.tick_phase c _, fun k => ?_⟩
    rw [State.toNat_timer_tick, State.timerBeforeTick, State.written?_of_waiting hmode]
    cases k <;> rfl
  · refine ⟨State.tick_phase c _, fun k => ?_⟩
    rw [State.toNat_timer_tick, State.timerBeforeTick, State.written?_of_waiting hmode]
    cases k <;> rfl
  · obtain ⟨v, route, hexec, rfl⟩ := Decoded.execute_eq_ok hu
    have hphase : v.phase = s.phase := (Op.exec_frame hexec).phase
    refine ⟨by rw [State.tick_phase, hphase], fun k => ?_⟩
    have htimer : (v.timer k).toNat = (s.timerBeforeTick k).toNat := by
      rw [Op.exec_timer hexec, State.timerBeforeTick_of_executing hd]
      cases k <;> rfl
    rw [State.toNat_timer_tick, hphase, ← htimer]
    cases k <;> rfl

/-! ### The divider -/

theorem finish_of_period {c' : Config} (hperiod : c'.period = c.period) : finish c' = finish c := by
  funext result
  cases result with
  | error f => rfl
  | ok u => simp only [finish, State.tick_eq, hperiod]

/-- The divider only acts through the period. -/
theorem step_of_divider {divider : Byte}
    (hperiod : Config.period { c with timerDivider := divider } = c.period) :
    step { c with timerDivider := divider } key s g = step c key s g := by
  have hfinish := finish_of_period hperiod
  have hexecute : ∀ (d : Decoded) (s : State),
      d.execute { c with timerDivider := divider } g s = d.execute c g s := by
    intro d s
    unfold Decoded.execute
    rw [Op.exec_of_divider]
  unfold step execute
  simp only [hfinish, hexecute]

/-! ### Runs -/

/-- A fault-free run of `n` steps under one configuration, in which `path i` is the state after `i`
of them. Every step may have a key and a generator of its own. -/
def PathUnder (c : Config) (n : Nat) (path : Nat → State) : Prop :=
  ∀ i < n, ∃ key g, (step c key (path i) g).outcome = .ok (path (i + 1))

/-- How many of the steps from number `a` to number `b` of a run let the timers count down. The first
step is number one. -/
def ticks (path : Nat → State) (a b : Nat) : Nat :=
  (List.range' a (b + 1 - a)).countP fun i => (path i).phase = 0

theorem ticks_succ (path : Nat → State) {a b : Nat} (hab : a ≤ b + 1) :
    ticks path a (b + 1) = ticks path a b + if (path (b + 1)).phase = 0 then 1 else 0 := by
  have hlen : b + 1 + 1 - a = b + 1 - a + 1 := by omega
  have hidx : a + (b + 1 - a) = b + 1 := by omega
  simp [ticks, hlen, List.range'_1_concat, hidx, List.countP_append, List.countP_singleton]

namespace PathUnder

variable {n : Nat} {path : Nat → State}

theorem phase_eq (hrun : PathUnder c n path) {i : Nat} (hi : i < n) :
    (path (i + 1)).phase = ((path 0).phase + (i + 1)) % c.period := by
  induction i with
  | zero =>
    obtain ⟨key, g, hstep⟩ := hrun 0 hi
    exact (step_ticks hstep).1
  | succ i ih =>
    obtain ⟨key, g, hstep⟩ := hrun (i + 1) hi
    rw [(step_ticks hstep).1, ih (by omega), Nat.mod_add_mod]
    rfl

/-- The clock has struck once more when the phase is zero. -/
theorem lap_succ (hrun : PathUnder c n path) {i : Nat} (hi : i < n) :
    ((path 0).phase + (i + 1)) / c.period =
      ((path 0).phase + i) / c.period + if (path (i + 1)).phase = 0 then 1 else 0 := by
  have hphase := hrun.phase_eq hi
  simp only [← Nat.add_assoc] at hphase ⊢
  simp only [Nat.succ_div, Nat.dvd_iff_mod_eq_zero, hphase]

theorem ticks_eq (hrun : PathUnder c n path) {a b : Nat} (hab : a ≤ b) (hb : b ≤ n) :
    ticks path (a + 1) b =
      ((path 0).phase + b) / c.period - ((path 0).phase + a) / c.period := by
  induction b, hab using Nat.le_induction with
  | base => simp [ticks]
  | succ b hab ih =>
    have hbefore := ih (by omega)
    have hlap := hrun.lap_succ (i := b) (by omega)
    have hle : ((path 0).phase + a) / c.period ≤ ((path 0).phase + b) / c.period :=
      Nat.div_le_div_right (by omega)
    rw [ticks_succ path (by omega), hbefore]
    omega

theorem timer_succ (hrun : PathUnder c n path) (k : Timer) {i : Nat} (hi : i < n) :
    ((path (i + 1)).timer k).toNat =
      ((path i).timerBeforeTick k).toNat - if (path (i + 1)).phase = 0 then 1 else 0 := by
  obtain ⟨key, g, hstep⟩ := hrun i hi
  obtain ⟨hphase, htimer⟩ := step_ticks hstep
  rw [htimer k, hphase]

/-- From the moment before the tick of a step, as long as nothing more is put into a timer, it only
counts down. -/
theorem timer_eq (hrun : PathUnder c n path) (k : Timer) {i j : Nat} (hij : i < j) (hj : j ≤ n)
    (hquiet : ∀ l, i < l → l < j → (path l).written? k = none) :
    ((path j).timer k).toNat = ((path i).timerBeforeTick k).toNat - ticks path (i + 1) j := by
  induction j, hij using Nat.le_induction with
  | base =>
    rw [hrun.timer_succ k hj, ticks_succ path (Nat.le_refl _)]
    simp [ticks]
  | succ j hij ih =>
    have hbefore := ih (by omega) fun l hl hlj => hquiet l hl (by omega)
    have hnone := hquiet j hij (by omega)
    rw [hrun.timer_succ k hj, State.timerBeforeTick, hnone, Option.getD_none, hbefore,
      ticks_succ path (by omega), Nat.sub_sub]

theorem timer_of_quiet (hrun : PathUnder c n path) (k : Timer) {i j : Nat} (hij : i ≤ j)
    (hj : j ≤ n) (hquiet : ∀ l, i ≤ l → l < j → (path l).written? k = none) :
    ((path j).timer k).toNat = ((path i).timer k).toNat - ticks path (i + 1) j := by
  rcases Nat.eq_or_lt_of_le hij with rfl | hlt
  · simp [ticks]
  · have hnone := hquiet i (Nat.le_refl i) hlt
    rw [hrun.timer_eq k hlt hj fun l hl hlj => hquiet l (Nat.le_of_lt hl) hlj,
      State.timerBeforeTick, hnone, Option.getD_none]

end PathUnder

/-- The law of the timers in a run of `n` steps. The phase goes round the period, from wherever an
earlier period left it, and the ticks among the steps `a` to `b` are the multiples of the period that
it passes. A timer that nothing is put into loses one for each tick, down to zero; one that was last
set by the step after the state `j` loses one for each tick from that step on, the step itself
included. A window as long as the period takes just one, and a divider of zero is like one. -/
theorem timers_over_run {n : Nat} {path : Nat → State} (hrun : PathUnder c n path) :
    (1 ≤ n → (path n).phase = ((path 0).phase + n) % c.period) ∧
    (∀ a b, 1 ≤ a → a ≤ b → b ≤ n →
      ticks path a b =
        ((path 0).phase + b) / c.period - ((path 0).phase + a - 1) / c.period) ∧
    (∀ k, (∀ i < n, (path i).written? k = none) →
      ((path n).timer k).toNat = ((path 0).timer k).toNat - ticks path 1 n) ∧
    (∀ k j w, j < n → (path j).written? k = some w →
      (∀ i, j < i → i < n → (path i).written? k = none) →
      ((path n).timer k).toNat = w.toNat - ticks path (j + 1) n) ∧
    (∀ k i, i + c.period ≤ n → (∀ l, i ≤ l → l < i + c.period → (path l).written? k = none) →
      ((path (i + c.period)).timer k).toNat = ((path i).timer k).toNat - 1) ∧
    (∀ k i w, i < n → (path i).written? k = some w → (path (i + 1)).phase = 0 →
      ((path (i + 1)).timer k).toNat = w.toNat - 1) ∧
    (∀ key s g,
      step { c with timerDivider := 0 } key s g = step { c with timerDivider := 1 } key s g) := by
  refine ⟨?_, ?_, ?_, ?_, ?_, ?_, ?_⟩
  · intro hn
    obtain ⟨m, rfl⟩ := Nat.exists_eq_add_of_le' hn
    exact hrun.phase_eq (by omega)
  · intro a b ha hab hb
    obtain ⟨a, rfl⟩ := Nat.exists_eq_add_of_le' ha
    exact hrun.ticks_eq (Nat.le_of_succ_le hab) hb
  · intro k hquiet
    exact hrun.timer_of_quiet k (Nat.zero_le n) (Nat.le_refl n) fun l _ hl => hquiet l hl
  · intro k j w hj hwrite hquiet
    have hlast := hrun.timer_eq k hj (Nat.le_refl n) hquiet
    rw [State.timerBeforeTick, hwrite, Option.getD_some] at hlast
    exact hlast
  · intro k i hi hquiet
    have hwindow := hrun.timer_of_quiet k (Nat.le_add_right i c.period) hi hquiet
    have hone := hrun.ticks_eq (Nat.le_add_right i c.period) hi
    rw [← Nat.add_assoc, Nat.add_div_right _ c.period_pos, Nat.add_sub_cancel_left] at hone
    rw [hwindow, hone]
  · intro k i w hi hwrite hphase
    rw [hrun.timer_succ k hi, State.timerBeforeTick, hwrite, if_pos hphase, Option.getD_some]
  · intro key s g
    exact step_of_divider (c := { c with timerDivider := 1 }) rfl

/-- `LD DT, V0` and then `LD V5, K`, which is never given a key. -/
private def timedProgram : List Byte := [0xF0, 0x15, 0xF5, 0x0A]

private def timedConfig : Config := { timerDivider := 3 }

/-- The run begins with a phase that only a period above 200 leaves, and so that its first step ticks. -/
private def timedPath (i : Nat) : State :=
  { State.initial with
    memory := Memory.initial.store programStart timedProgram
    registers := Registers.zero.set 0 9
    pc := if i = 0 then 0x200 else 0x202
    delay := [0, 8, 8, 8, 7].getD i 0
    sound := [5, 4, 4, 4, 3].getD i 0
    mode := if i < 2 then .running else .waiting 5
    phase := [200, 0, 1, 2, 0].getD i 0 }

private theorem timedPath_sets :
    (timedPath 0).executing? = some ⟨0xF015, .ldDelay, { x := 0 }⟩ :=
  State.executing?_of_stored timedProgram 0 0xF015 rfl (by decide) rfl rfl (by decide) rfl rfl

private theorem timedPath_waits :
    (timedPath 1).executing? = some ⟨0xF50A, .ldKey, { x := 5 }⟩ :=
  State.executing?_of_stored timedProgram 2 0xF50A rfl (by decide) rfl rfl (by decide) rfl rfl

private theorem timedPath_isPath : PathUnder timedConfig 4 timedPath := by
  intro i hi
  refine ⟨none, Generator.cycling #[], ?_⟩
  match i, hi with
  | 0, _ =>
    rw [step_executing timedPath_sets]
    rfl
  | 1, _ =>
    rw [step_executing timedPath_waits]
    rfl
  | 2, _ | 3, _ =>
    rw [step_waiting_none rfl]
    rfl

theorem timers_over_run_from_phase_200 :
    PathUnder timedConfig 4 timedPath ∧ (timedPath 0).phase = 200 ∧ (timedPath 4).phase = 0 ∧
      ticks timedPath 1 4 = 2 ∧ (timedPath 0).written? .delay = some 9 ∧
      ((timedPath 1).timer .delay).toNat = 8 ∧ ((timedPath 4).timer .delay).toNat = 7 ∧
      ((timedPath 3).timer .sound).toNat = 4 ∧ ((timedPath 4).timer .sound).toNat = 3 := by
  have hset : (timedPath 0).written? .delay = some 9 := by
    simp only [State.written?, timedPath_sets]
    rfl
  have hlater : ∀ k i, 0 < i → i < 4 → (timedPath i).written? k = none := by
    intro k i hpos hi
    match i, hpos, hi with
    | 1, _, _ =>
      simp only [State.written?, timedPath_waits]
      cases k <;> rfl
    | 2, _, _ | 3, _, _ => exact State.written?_of_waiting rfl k
  have hquiet : ∀ i < 4, (timedPath i).written? .sound = none := by
    intro i hi
    cases i with
    | zero =>
      simp only [State.written?, timedPath_sets]
      rfl
    | succ i => exact hlater .sound (i + 1) (by omega) hi
  obtain ⟨hphase, hticks, hunset, hlast, hwindow, hsame, _⟩ := timers_over_run timedPath_isPath
  have htwo : ticks timedPath 1 4 = 2 := hticks 1 4 (by decide) (by decide) (by decide)
  have hdelay := hlast .delay 0 9 (by decide) hset fun i hi => hlater .delay i hi
  have hsound := hunset .sound hquiet
  rw [htwo] at hdelay hsound
  refine ⟨timedPath_isPath, rfl, hphase (by decide), htwo, hset,
    hsame .delay 0 9 (by decide) hset rfl, hdelay, hwindow .sound 0 (by decide) ?_, hsound⟩
  intro l _ hl
  exact hquiet l (Nat.lt_of_lt_of_le hl (by decide))

end Machine

end Chip8
