import Chip8.Host.Session
import Chip8.Proofs.Faults
import Chip8.Proofs.KeySequence

/-!
# Frames

A session runs its machine frame by frame, but what it shows and how it ends is told by one run that
knows no frames (`Session.flat`): its steps take the keys held in their frames, every so many steps its
state is shown, and the session ends with its first fault or in front of the first frame that quits.
-/

namespace Chip8

/-! ### Events -/

/-- Escape, or `c` with Control. -/
def KeyEvent.AsksToQuit (e : KeyEvent) : Prop :=
  e.code = .escape ∨ e.code = .char 'c' ∧ e.control = true

theorem KeyEvent.quits_iff {e : KeyEvent} : e.quits = true ↔ e.AsksToQuit := by
  unfold quits AsksToQuit
  cases e.code <;> simp

/-- None of the events of a frame asks to quit. -/
def Quiet (events : List KeyEvent) : Prop := ∀ e ∈ events, ¬ e.AsksToQuit

namespace Keymap

/-- What the events of a frame make of a keymap, as long as none of them quits. -/
def afterEvents (m : Keymap) (events : List KeyEvent) : Keymap :=
  events.foldl (fun m e => e.apply m) m

/-- The keymap that a frame plays with: the events of all frames up to it have been applied, and the
held key has aged between each two of them. -/
def inFrame (m : Keymap) (events : Nat → List KeyEvent) : Nat → Keymap
  | 0 => m.afterEvents (events 0)
  | f + 1 => (m.inFrame events f).endFrame.afterEvents (events (f + 1))

/-- The keymap that a frame begins with. -/
def beforeFrame (m : Keymap) (events : Nat → List KeyEvent) : Nat → Keymap
  | 0 => m
  | f + 1 => (m.inFrame events f).endFrame

theorem inFrame_eq (m : Keymap) (events : Nat → List KeyEvent) (f : Nat) :
    m.inFrame events f = (m.beforeFrame events f).afterEvents (events f) := by
  cases f <;> rfl

theorem takeEvents_of_quiet {m : Keymap} {events : List KeyEvent} (hquiet : Quiet events) :
    m.takeEvents events = some (m.afterEvents events) := by
  induction events generalizing m with
  | nil => rfl
  | cons e es ih =>
    have hstay : ¬ e.quits = true := fun hq => hquiet e (by simp) (KeyEvent.quits_iff.mp hq)
    rw [takeEvents, if_neg hstay, ih fun e' he' => hquiet e' (List.mem_cons_of_mem e he')]
    rfl

/-- What comes after an event that quits does not matter. -/
theorem takeEvents_of_quit {m : Keymap} {q : KeyEvent} (hq : q.AsksToQuit)
    (before later : List KeyEvent) : m.takeEvents (before ++ q :: later) = none := by
  induction before generalizing m with
  | nil => rw [List.nil_append, takeEvents, if_pos (KeyEvent.quits_iff.mpr hq)]
  | cons e es ih =>
    rw [List.cons_append, takeEvents]
    split
    · rfl
    · exact ih

end Keymap

/-! ### Playing -/

namespace Playback

/-- Goes on playing if the session still runs. -/
def andThen (p : Playback) (next : Session → Playback) : Playback :=
  match p.progress with
  | .running s => ⟨p.frames ++ (next s).frames, (next s).progress⟩
  | _ => p

end Playback

namespace Session

theorem play_append (s : Session) (first second : List (List KeyEvent)) :
    s.play (first ++ second) = (s.play first).andThen fun t => t.play second := by
  induction first generalizing s with
  | nil => rfl
  | cons events rest ih =>
    rw [List.cons_append, play, play]
    cases hframe : s.frame events with
    | quit last => rfl
    | halted h => rfl
    | running t =>
      simp only [ih]
      cases hprogress : (t.play rest).progress <;> simp [Playback.andThen, hprogress]

/-! ### The run behind a session -/

/-- The key of step `i`, which is that of its frame. Steps and frames count from zero. -/
def keyOfStep (s : Session) (events : Nat → List KeyEvent) (i : Nat) : Option Key :=
  (s.keymap.inFrame events (i / s.stepsPerFrame)).heldKey

/-- The first `m` steps of a session as one run. -/
def flat (s : Session) (events : Nat → List KeyEvent) (m : Nat) : RunResult :=
  Machine.runKeys s.config ((List.range m).map (s.keyOfStep events)) s.state s.generator

/-- The states at the ends of the first `count` frames. -/
def ends (s : Session) (events : Nat → List KeyEvent) (count : Nat) : List State :=
  (List.range count).map fun i => (s.flat events ((i + 1) * s.stepsPerFrame)).state

/-- The session in front of frame `f`, if it gets there. -/
def before (s : Session) (events : Nat → List KeyEvent) (f : Nat) : Session :=
  { s with
    state := (s.flat events (f * s.stepsPerFrame)).state
    generator := (s.flat events (f * s.stepsPerFrame)).generator
    keymap := s.keymap.beforeFrame events f }

theorem before_zero (s : Session) (events : Nat → List KeyEvent) : s.before events 0 = s := by
  simp only [before, Nat.zero_mul]
  rfl

variable {s : Session} {events : Nat → List KeyEvent}

theorem flat_add (m k : Nat) :
    s.flat events (m + k) = (s.flat events m).andThen
      (Machine.runKeys s.config ((List.range' m k).map (s.keyOfStep events))) := by
  have hsplit : List.range (m + k) = List.range m ++ List.range' m k := by
    rw [List.range_eq_range', List.range_eq_range', ← List.range'_append_1, Nat.zero_add]
  rw [flat, hsplit, List.map_append, Machine.runKeys_append]
  rfl

theorem flat_of_fault {m k : Nat} {f : Fault} (hfault : (s.flat events m).fault = some f)
    (hle : m ≤ k) : s.flat events k = s.flat events m := by
  obtain ⟨j, rfl⟩ := Nat.exists_eq_add_of_le hle
  rw [flat_add, RunResult.andThen_of_fault hfault]

theorem flat_ok_of_le {m k : Nat} (hok : (s.flat events k).fault = none) (hle : m ≤ k) :
    (s.flat events m).fault = none := by
  cases hm : (s.flat events m).fault with
  | none => rfl
  | some f =>
    rw [flat_of_fault hm hle, hm] at hok
    cases hok

/-- The step that fails after `m` steps have succeeded leaves their state. -/
theorem flat_succ_of_fault {m : Nat} {f : Fault} (hok : (s.flat events m).fault = none)
    (hfault : (s.flat events (m + 1)).fault = some f) :
    (s.flat events (m + 1)).state = (s.flat events m).state ∧
      (Machine.step s.config (s.keyOfStep events m) (s.flat events m).state
        (s.flat events m).generator).outcome = .error f := by
  have hadd : s.flat events (m + 1) = Machine.runKeys s.config [s.keyOfStep events m]
      (s.flat events m).state (s.flat events m).generator := by
    rw [flat_add, RunResult.andThen_of_ok hok]
    rfl
  cases hstep : (Machine.step s.config (s.keyOfStep events m) (s.flat events m).state
      (s.flat events m).generator).outcome with
  | ok t =>
    rw [hadd, Machine.runKeys_cons_of_ok hstep] at hfault
    cases hfault
  | error e =>
    rw [hadd, Machine.runKeys_cons_of_error hstep] at hfault ⊢
    cases hfault
    exact ⟨rfl, rfl⟩

/-- All steps of a frame are given the key held in it. -/
theorem keyOfStep_of_frame {f i : Nat} (hi : i < s.stepsPerFrame) :
    s.keyOfStep events (f * s.stepsPerFrame + i) = (s.keymap.inFrame events f).heldKey := by
  have hframe : (f * s.stepsPerFrame + i) / s.stepsPerFrame = f :=
    Nat.div_eq_of_lt_le (Nat.le_add_right _ i) (by rw [Nat.succ_mul]; omega)
  rw [keyOfStep, hframe]

theorem keys_of_frame (f : Nat) :
    (List.range' (f * s.stepsPerFrame) s.stepsPerFrame).map (s.keyOfStep events) =
      List.replicate s.stepsPerFrame (s.keymap.inFrame events f).heldKey := by
  rw [List.range'_eq_map_range, List.map_map, List.eq_replicate_iff]
  refine ⟨by simp, ?_⟩
  intro key hkey
  obtain ⟨i, hi, rfl⟩ := List.mem_map.mp hkey
  exact keyOfStep_of_frame (List.mem_range.mp hi)

theorem flat_frame (f : Nat) :
    s.flat events ((f + 1) * s.stepsPerFrame) =
      (s.flat events (f * s.stepsPerFrame)).andThen
        (Machine.run s.config (s.keymap.inFrame events f).heldKey s.stepsPerFrame) := by
  rw [Nat.succ_mul, flat_add, keys_of_frame]
  congr 1
  funext t g
  rw [Machine.run_eq_runKeys]

/-! ### One frame -/

theorem frame_before {f : Nat} (hquiet : Quiet (events f))
    (hok : (s.flat events (f * s.stepsPerFrame)).fault = none) :
    (s.before events f).frame (events f) =
      match (s.flat events ((f + 1) * s.stepsPerFrame)).fault with
      | some fault => .halted (.ofFault (s.flat events ((f + 1) * s.stepsPerFrame)).state fault)
      | none => .running (s.before events (f + 1)) := by
  have hkeymap : (s.before events f).keymap.takeEvents (events f) =
      some (s.keymap.inFrame events f) := by
    rw [Keymap.inFrame_eq]
    exact Keymap.takeEvents_of_quiet hquiet
  have hrun : Machine.run (s.before events f).config (s.keymap.inFrame events f).heldKey
      (s.before events f).stepsPerFrame (s.before events f).state (s.before events f).generator =
        s.flat events ((f + 1) * s.stepsPerFrame) := by
    rw [flat_frame, RunResult.andThen_of_ok hok]
    rfl
  simp only [frame, hkeymap, hrun]
  cases hend : (s.flat events ((f + 1) * s.stepsPerFrame)).fault with
  | some fault => rfl
  | none => rfl

theorem frame_of_quit (t : Session) {q : KeyEvent} (hq : q.AsksToQuit)
    (earlier later : List KeyEvent) : t.frame (earlier ++ q :: later) = .quit t.state := by
  rw [frame, Keymap.takeEvents_of_quit hq]

/-! ### All frames -/

theorem play_succ_of_running {count : Nat} {frames : List State} {t : Session}
    (h : s.play ((List.range count).map events) = ⟨frames, .running t⟩) :
    s.play ((List.range (count + 1)).map events) = match t.frame (events count) with
      | .running u => ⟨frames ++ [u.state], .running u⟩
      | ended => ⟨frames, ended⟩ := by
  rw [List.range_succ, List.map_append, List.map_singleton, play_append, h, Playback.andThen]
  simp only [play]
  cases t.frame (events count) <;> simp

theorem play_of_quiet {count : Nat} (hquiet : ∀ f < count, Quiet (events f))
    (hok : (s.flat events (count * s.stepsPerFrame)).fault = none) :
    s.play ((List.range count).map events) =
      ⟨s.ends events count, .running (s.before events count)⟩ := by
  induction count with
  | zero =>
    rw [before_zero]
    rfl
  | succ count ih =>
    have hwhole : (s.flat events (count * s.stepsPerFrame)).fault = none :=
      flat_ok_of_le hok (Nat.mul_le_mul_right _ (Nat.le_succ count))
    have hbefore := ih (fun f hf => hquiet f (by omega)) hwhole
    rw [play_succ_of_running hbefore, frame_before (hquiet count (by omega)) hwhole, hok]
    simp [ends, List.range_succ, before]

theorem play_range_of_ended {k count : Nat} (hle : k ≤ count)
    (hended : ∀ t, (s.play ((List.range k).map events)).progress ≠ .running t) :
    s.play ((List.range count).map events) = s.play ((List.range k).map events) := by
  obtain ⟨j, rfl⟩ := Nat.exists_eq_add_of_le hle
  rw [List.range_add, List.map_append, play_append, Playback.andThen]
  cases hprogress : (s.play ((List.range k).map events)).progress with
  | running t => exact absurd hprogress (hended t)
  | quit last => rfl
  | halted h => rfl

/-- The first fault ends the session within its frame. -/
theorem play_of_fault (hn : 0 < s.stepsPerFrame) {m : Nat} {fault : Fault}
    (hquiet : ∀ f ≤ m / s.stepsPerFrame, Quiet (events f))
    (hok : (s.flat events m).fault = none) (hfault : (s.flat events (m + 1)).fault = some fault)
    {count : Nat} (hcount : m / s.stepsPerFrame < count) :
    s.play ((List.range count).map events) =
      ⟨s.ends events (m / s.stepsPerFrame), .halted (.ofFault (s.flat events m).state fault)⟩ := by
  have hwhole : (s.flat events (m / s.stepsPerFrame * s.stepsPerFrame)).fault = none :=
    flat_ok_of_le hok (Nat.div_mul_le_self m s.stepsPerFrame)
  have hlast : s.flat events ((m / s.stepsPerFrame + 1) * s.stepsPerFrame) =
      s.flat events (m + 1) := by
    apply flat_of_fault hfault
    rw [Nat.succ_mul]
    exact Nat.lt_div_mul_add hn
  have hplayed : s.play ((List.range (m / s.stepsPerFrame + 1)).map events) =
      ⟨s.ends events (m / s.stepsPerFrame), .halted (.ofFault (s.flat events m).state fault)⟩ := by
    have hbefore := play_of_quiet (fun f hf => hquiet f (Nat.le_of_lt hf)) hwhole
    rw [play_succ_of_running hbefore, frame_before (hquiet _ (Nat.le_refl _)) hwhole, hlast, hfault,
      (flat_succ_of_fault hok hfault).1]
  rw [play_range_of_ended hcount (by rw [hplayed]; simp), hplayed]

/-- An event that quits ends the session in front of its frame. -/
theorem play_of_quit {f : Nat} {earlier later : List KeyEvent}
    {q : KeyEvent} (hquiet : ∀ i < f, Quiet (events i))
    (hok : (s.flat events (f * s.stepsPerFrame)).fault = none)
    (hevents : events f = earlier ++ q :: later) (hq : q.AsksToQuit) {count : Nat}
    (hcount : f < count) :
    s.play ((List.range count).map events) =
      ⟨s.ends events f, .quit (s.flat events (f * s.stepsPerFrame)).state⟩ := by
  have hplayed : s.play ((List.range (f + 1)).map events) =
      ⟨s.ends events f, .quit (s.flat events (f * s.stepsPerFrame)).state⟩ := by
    have hbefore := play_of_quiet hquiet hok
    rw [play_succ_of_running hbefore, hevents, frame_of_quit _ hq]
    rfl
  rw [play_range_of_ended hcount (by rw [hplayed]; simp), hplayed]

/-- No event after one that quits is noticed. -/
theorem play_of_quit_append (s : Session) {q : KeyEvent} (hq : q.AsksToQuit)
    (first : List (List KeyEvent)) (earlier later : List KeyEvent) (rest : List (List KeyEvent)) :
    s.play (first ++ (earlier ++ q :: later) :: rest) = s.play (first ++ [earlier ++ [q]]) := by
  rw [play_append, play_append]
  congr 1
  funext t
  rw [play, play, frame_of_quit t hq, frame_of_quit t hq]

/-- The state in which a step of the run behind a session fails has an opcode to show, and it is the
one that a failure to decode names. -/
theorem opcode_of_fault {cs : List Config} (hs : Reachable Memory.size cs s.state)
    {m : Nat} {fault : Fault} (hok : (s.flat events m).fault = none)
    (hfault : (s.flat events (m + 1)).fault = some fault) :
    ∃ w, (s.flat events m).state.currentOpcode = .ok w ∧
      ∀ v, fault = .decode (.unknownOpcode v) → v = w := by
  obtain ⟨cs', hreachable⟩ := hs.runKeys s.config ((List.range m).map (s.keyOfStep events)) s.generator
  have hsound : (s.flat events m).state.Sound := hreachable.sound
  obtain ⟨w, hw⟩ := State.exists_currentOpcode hsound
  refine ⟨w, hw, ?_⟩
  rintro v rfl
  have hfaults := (Machine.step_eq_error_iff hsound).mp (flat_succ_of_fault hok hfault).2
  cases hfaults with
  | decode _ hv _ =>
    rw [hw] at hv
    exact (Except.ok.inj hv).symm

/-- A session of a loaded program follows the run behind it. Every step of a frame is given the key
held in the frame. As long as nobody quits and nothing fails, the states at the ends of the frames are
shown; the first fault, after `m` steps, ends the session within its frame and is reported with the
place and the opcode of the state that it failed from; an event that quits ends it in front of its
frame, and nothing that comes after it matters. -/
theorem plays_flat {program : List Byte} {start : State}
    (hload : State.loadProgram program = .ok start) (c : Config) (g : Generator) {n : Nat}
    (hn : 1 ≤ n) (events : Nat → List KeyEvent) :
    let s : Session := { config := c, stepsPerFrame := n, state := start, generator := g }
    let played (count : Nat) : Playback := s.play ((List.range count).map events)
    (∀ f i, i < n →
      s.keyOfStep events (f * n + i) = (Keymap.inFrame {} events f).heldKey) ∧
    (∀ count, (∀ f < count, Quiet (events f)) → (s.flat events (count * n)).fault = none →
      played count = ⟨s.ends events count, .running (s.before events count)⟩) ∧
    (∀ m fault, (∀ f ≤ m / n, Quiet (events f)) → (s.flat events m).fault = none →
      (s.flat events (m + 1)).fault = some fault →
      ∃ w opcode, (s.flat events m).state.currentOpcode = .ok w ∧
        opcode = Numeral.hexPadded 4 w.toNat ∧ opcode.toList.length = 4 ∧ opcode ≠ "----" ∧
        (∀ v, fault = .decode (.unknownOpcode v) → v = w) ∧
        ∀ count, m / n < count →
          played count =
            ⟨s.ends events (m / n), .halted ⟨(s.flat events m).state.pc, opcode, fault⟩⟩) ∧
    (∀ f earlier q later, (∀ i < f, Quiet (events i)) → (s.flat events (f * n)).fault = none →
      events f = earlier ++ q :: later → q.AsksToQuit →
      ∀ count, f < count →
        played count = ⟨s.ends events f, .quit (s.flat events (f * n)).state⟩) ∧
    (∀ first earlier q later rest, q.AsksToQuit →
      s.play (first ++ (earlier ++ q :: later) :: rest) = s.play (first ++ [earlier ++ [q]])) := by
  intro s played
  refine ⟨?_, ?_, ?_, ?_, ?_⟩
  · intro f i hi
    exact keyOfStep_of_frame hi
  · intro count hquiet hok
    exact play_of_quiet hquiet hok
  · intro m fault hquiet hok hfault
    obtain ⟨w, hw, hdecode⟩ := opcode_of_fault (reachable_of_loadProgram hload) hok hfault
    have hhalt : Halt.ofFault (s.flat events m).state fault =
        ⟨(s.flat events m).state.pc, Numeral.hexPadded 4 w.toNat, fault⟩ := by
      simp only [Halt.ofFault, hw]
    refine ⟨w, _, hw, rfl, ?_, ?_, hdecode, ?_⟩
    · exact Numeral.length_toList_hexPadded_toNat 4 (by decide) w
    · intro hdashes
      have hdash : '-' ∈ (Numeral.hexPadded 4 w.toNat).toList := by
        rw [hdashes]
        decide
      exact absurd (Numeral.mem_toList_hexPadded hdash) (by decide)
    · intro count hcount
      rw [← hhalt]
      exact play_of_fault (s := s) hn hquiet hok hfault hcount
  · intro f earlier q later hquiet hok hevents hq count hcount
    exact play_of_quit hquiet hok hevents hq hcount
  · intro first earlier q later rest hq
    exact play_of_quit_append s hq first earlier later rest

/-- `LD V0, 7` and then no instruction. -/
private def briefProgram : List Byte := [0x60, 0x07, 0xFF, 0xFF]

private def briefStart : State :=
  { State.initial with memory := Memory.initial.store programStart briefProgram }

/-- After the first step, which is given the key of `w`. -/
private def briefShown : State :=
  { briefStart with registers := Registers.zero.set 0 7, pc := 0x202, key := Key.ofNat? 5, phase := 1 }

private abbrev briefSession : Session :=
  { config := {}, stepsPerFrame := 1, state := briefStart, generator := Generator.cycling #[] }

/-- `w` in the first frame, and other events in the second one. -/
private def typed (second : List KeyEvent) : Nat → List KeyEvent
  | 0 => [{ code := .char 'w' }]
  | 1 => second
  | _ => []

private theorem briefProgram_loads : State.loadProgram briefProgram = .ok briefStart :=
  State.load_eq_ok_iff.mpr ⟨by decide, by decide, by decide, rfl⟩

private theorem flat_brief (second : List KeyEvent) :
    briefSession.flat (typed second) 1 = ⟨briefShown, none, Generator.cycling #[]⟩ := by
  have hd : briefStart.executing? = some ⟨0x6007, .ldByte, { x := 0, kk := 0x07 }⟩ :=
    State.executing?_of_stored briefProgram 0 0x6007 rfl (by decide) rfl rfl (by decide) rfl rfl
  have hstep : (Machine.step {} (Key.ofNat? 5) briefStart (Generator.cycling #[])).outcome =
      .ok briefShown := by
    rw [Machine.step_executing hd]
    rfl
  have hkeys : (List.range 1).map (briefSession.keyOfStep (typed second)) = [Key.ofNat? 5] := rfl
  rw [flat, hkeys, briefSession, Machine.runKeys_cons_of_ok hstep,
    Machine.step_executing_generator hd]
  rfl

private theorem briefShown_opcode : briefShown.currentOpcode = .ok 0xFFFF := by
  have hstored := State.opcodeAt_load briefProgram_loads (i := 2) (by decide)
  have hword : Opcode.ofBytes briefProgram[2] briefProgram[2 + 1] = 0xFFFF := rfl
  rw [hword] at hstored
  exact hstored

private theorem flat_brief_fails :
    (briefSession.flat (typed []) 2).fault = some (.decode (.unknownOpcode 0xFFFF)) := by
  have hnone : decode 0xFFFF = .error (.unknownOpcode 0xFFFF) := rfl
  have hfetch : briefShown.fetch = .error (.decode (.unknownOpcode 0xFFFF)) :=
    State.fetch_eq_error_iff.mpr (.inr ⟨_, _, briefShown_opcode, hnone, rfl⟩)
  rw [flat_add (m := 1) (k := 1), flat_brief, RunResult.andThen_of_ok rfl]
  exact congrArg RunResult.fault
    (Machine.runKeys_cons_of_error (Machine.step_fetch_error rfl hfetch))

private theorem ends_brief (second : List KeyEvent) :
    briefSession.ends (typed second) 1 = [briefShown] := by
  have hsteps : (0 + 1) * briefSession.stepsPerFrame = 1 := rfl
  rw [ends, List.range_one, List.map_singleton, hsteps, flat_brief]

/-- One step to a frame: the second frame halts, unless Escape comes first. -/
theorem plays_flat_one_frame :
    State.loadProgram briefProgram = .ok briefStart ∧
      briefSession.play [[{ code := .char 'w' }], []] =
        ⟨[briefShown], .halted ⟨0x202, "FFFF", .decode (.unknownOpcode 0xFFFF)⟩⟩ ∧
      briefSession.play [[{ code := .char 'w' }], [{ code := .escape }, { code := .char 'q' }]] =
        ⟨[briefShown], .quit briefShown⟩ := by
  have hplays (second : List KeyEvent) :=
    plays_flat briefProgram_loads {} (Generator.cycling #[]) (Nat.le_refl 1) (typed second)
  have hquiet (second : List KeyEvent) : ∀ i < 1, Quiet (typed second i) := by
    intro i hi
    obtain rfl : i = 0 := by omega
    simp [typed, Quiet, KeyEvent.AsksToQuit]
  have hok (second : List KeyEvent) : (briefSession.flat (typed second) 1).fault = none := by
    rw [flat_brief]
  refine ⟨briefProgram_loads, ?_, ?_⟩
  · obtain ⟨_, _, hhalts, _, _⟩ := hplays []
    have hearlier : ∀ f ≤ 1 / 1, Quiet (typed [] f) := by
      intro f hf
      have hcases : f < 1 ∨ f = 1 := by omega
      rcases hcases with hfirst | rfl
      · exact hquiet [] f hfirst
      · simp [typed, Quiet]
    obtain ⟨w, _, _, rfl, _, _, hdecode, hplay⟩ := hhalts 1 _ hearlier (hok []) flat_brief_fails
    have hhex : Numeral.hexPadded 4 (0xFFFF : Opcode).toNat = "FFFF" := rfl
    have hends := ends_brief []
    have hflat := flat_brief []
    rw [briefSession] at hends hflat
    have hhalted := hplay 2 (by decide)
    rw [← hdecode _ rfl, Nat.div_one, hends, hflat, hhex] at hhalted
    exact hhalted
  · let leave : List KeyEvent := [{ code := .escape }, { code := .char 'q' }]
    obtain ⟨_, _, _, hquits, _⟩ := hplays leave
    have hquit := hquits 1 [] _ _ (hquiet leave) (hok leave) rfl (.inl rfl) 2 (by decide)
    have hends := ends_brief leave
    have hflat := flat_brief leave
    rw [briefSession] at hends hflat
    rw [hends, hflat] at hquit
    exact hquit

end Session

end Chip8
