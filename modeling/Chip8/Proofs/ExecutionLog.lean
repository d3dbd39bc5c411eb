import Chip8.Machine.Run
import Chip8.Proofs.Listings
import Chip8.Proofs.OpcodeDigits
import Chip8.Proofs.Reachable

/-!
# What the log tells

The lines of a step are told from the state it starts in and the key it is given. Over a run, a wait is
reported when it begins and when it ends, and the last of these reports tells whether the machine waits.
-/

namespace Chip8

/-! ### Sequences of steps -/

/-- What a step is given besides the state. -/
structure Turn where
  config : Config
  key : Option Key
  generator : Generator

def Turn.step (turn : Turn) (s : State) : StepResult :=
  Machine.step turn.config turn.key s turn.generator

namespace Machine

/-- The steps that a sequence of turns takes, with the states they start in; a step that fails is the
last. -/
def attempts : List Turn → State → List (State × Turn)
  | [], _ => []
  | turn :: rest, s =>
    (s, turn) ::
      match (turn.step s).outcome with
      | .error _ => []
      | .ok t => attempts rest t

def outcomeOf : List Turn → State → Except Fault State
  | [], s => .ok s
  | turn :: rest, s =>
    match (turn.step s).outcome with
    | .error f => .error f
    | .ok t => outcomeOf rest t

def logOf (turns : List Turn) (s : State) : List LogEntry :=
  (attempts turns s).flatMap fun (start, turn) => (turn.step start).log

variable {turn : Turn} {turns : List Turn} {s t : State}

theorem attempts_cons_of_ok (h : (turn.step s).outcome = .ok t) :
    attempts (turn :: turns) s = (s, turn) :: attempts turns t := by
  rw [attempts, h]

theorem attempts_cons_of_error {f : Fault} (h : (turn.step s).outcome = .error f) :
    attempts (turn :: turns) s = [(s, turn)] := by
  rw [attempts, h]

theorem outcomeOf_cons_of_ok (h : (turn.step s).outcome = .ok t) :
    outcomeOf (turn :: turns) s = outcomeOf turns t := by
  rw [outcomeOf, h]

theorem outcomeOf_cons_of_error {f : Fault} (h : (turn.step s).outcome = .error f) :
    outcomeOf (turn :: turns) s = .error f := by
  rw [outcomeOf, h]

theorem logOf_cons_of_ok (h : (turn.step s).outcome = .ok t) :
    logOf (turn :: turns) s = (turn.step s).log ++ logOf turns t := by
  rw [logOf, attempts_cons_of_ok h]
  rfl

theorem logOf_cons_of_error {f : Fault} (h : (turn.step s).outcome = .error f) :
    logOf (turn :: turns) s = (turn.step s).log := by
  rw [logOf, attempts_cons_of_error h]
  exact List.append_nil _

/-- A run with one key held down is such a sequence. -/
theorem exists_turns_of_run (c : Config) (key : Option Key) (n : Nat) (s : State) (g : Generator) :
    ∃ turns : List Turn, turns.length = n ∧ (∀ turn ∈ turns, turn.config = c ∧ turn.key = key) ∧
      outcomeOf turns s = (run c key n s g).outcome ∧ logOf turns s = runLog c key n s g := by
  induction n generalizing s g with
  | zero => exact ⟨[], rfl, nofun, rfl, rfl⟩
  | succ n ih =>
    let turn : Turn := ⟨c, key, g⟩
    rw [run, runLog]
    cases hstep : (step c key s g).outcome with
    | error f =>
      have hturn : (turn.step s).outcome = .error f := hstep
      refine ⟨turn :: List.replicate n turn, by simp, ?_, ?_, ?_⟩
      · rw [← List.replicate_succ]
        intro turn' hmem
        rw [List.eq_of_mem_replicate hmem]
        exact ⟨rfl, rfl⟩
      · exact outcomeOf_cons_of_error hturn
      · exact logOf_cons_of_error hturn
    | ok t =>
      have hturn : (turn.step s).outcome = .ok t := hstep
      obtain ⟨turns, hlength, hgiven, houtcome, hlog⟩ := ih t (step c key s g).generator
      refine ⟨turn :: turns, congrArg (· + 1) hlength, ?_, ?_, ?_⟩
      · rintro turn' (_ | ⟨_, hmem⟩)
        · exact ⟨rfl, rfl⟩
        · exact hgiven turn' hmem
      · rw [outcomeOf_cons_of_ok hturn, houtcome]
      · rw [logOf_cons_of_ok hturn, hlog]
        rfl

/-- Every step of a sequence starts in a reachable state. -/
theorem attempts_reachable {bound : Nat} {cs : List Config} (h : Reachable bound cs s)
    (turns : List Turn) : ∀ a ∈ attempts turns s, ∃ cs', Reachable bound cs' a.1 := by
  induction turns generalizing cs s with
  | nil => nofun
  | cons turn turns ih =>
    cases hstep : (turn.step s).outcome with
    | error f =>
      rw [attempts_cons_of_error hstep]
      rintro a (_ | ⟨_, ⟨⟩⟩)
      exact ⟨cs, h⟩
    | ok t =>
      rw [attempts_cons_of_ok hstep]
      rintro a (_ | ⟨_, hmem⟩)
      · exact ⟨cs, h⟩
      · exact ih (.step turn.key turn.generator h hstep) a hmem

end Machine

/-! ### The lines of a step -/

open Numeral in
def waitLine (address : Nat) (register : Nibble) : String :=
  s!"DEBUG {hexPadded 3 address}: waiting for a key for V{hex register.toNat}"

open Numeral in
def keyLine (key : Key) (register : Nibble) : String :=
  s!"DEBUG key {hex key.val} pressed, stored in V{hex register.toNat}"

/-- What a step that starts in a state is to log: the instruction, if the opcode has a text, followed
by the beginning of a wait if it is `Fx0A`, or the end of a wait. -/
def State.told (s : State) (key : Option Key) : List String :=
  match s.mode, key with
  | .running, _ =>
    match s.currentOpcode with
    | .error _ => []
    | .ok w =>
      match disassemble w with
      | .error _ => []
      | .ok text =>
        s!"TRACE {Numeral.hexPadded 3 s.pc}: {Numeral.hexPadded 4 w.toNat}  {text}" ::
          if w &&& 0xF0FF = 0xF00A then [waitLine s.pc (w.extractLsb' 8 4)] else []
  | .waiting _, none => []
  | .waiting r, some k => [keyLine k r]

theorem State.told_of_disassemble {s : State} (key : Option Key) {w : Opcode} {text : String}
    (hmode : s.mode = .running) (hw : s.currentOpcode = .ok w) (htext : disassemble w = .ok text) :
    s.told key =
      s!"TRACE {Numeral.hexPadded 3 s.pc}: {Numeral.hexPadded 4 w.toNat}  {text}" ::
        if w &&& 0xF0FF = 0xF00A then [waitLine s.pc (w.extractLsb' 8 4)] else [] := by
  unfold told
  simp only [hmode, hw, htext]

namespace LogEntry

theorem line_executing {a : Nat} {d : Decoded} {text : String}
    (htext : disassemble d.opcode = .ok text) (hd : decode d.opcode = .ok d) :
    line (.executing a d) =
      s!"TRACE {Numeral.hexPadded 3 a}: {Numeral.hexPadded 4 d.opcode.toNat}  {text}" := by
  obtain ⟨_, hd', rfl⟩ := disassembleIn_eq_ok_iff.mp htext
  cases hd.symm.trans hd'
  simp [line, message, disassemblyRow, level, Level.name, String.append_assoc, toString]

theorem line_waiting (a : Nat) (r : Nibble) : line (.waiting a r) = waitLine a r := by
  simp [line, message, waitLine, level, Level.name, String.append_assoc, toString]

theorem line_keyStored (k : Key) (r : Nibble) : line (.keyStored k r) = keyLine k r := by
  have hspaced : "DEBUG key " = "DEBUG " ++ "key " := rfl
  rw [line, message, keyLine, hspaced]
  simp only [String.append_assoc]
  rfl

end LogEntry

theorem logLines_trace (log : List LogEntry) :
    logLines (some .trace) log = log.map LogEntry.line := by
  rw [logLines, List.filter_eq_self.mpr]
  rintro (_ | _ | _ | _) _ <;> rfl

theorem Decoded.op_eq_ldKey_iff {w : Opcode} {d : Decoded} (hd : decode w = .ok d) :
    d.op = .ldKey ↔ w &&& 0xF0FF = 0xF00A := by
  have haccepts : Op.ldKey.encoding.accepts w = true ↔ w &&& 0xF0FF = 0xF00A := by
    simp [Encoding.accepts, Op.encoding]
  rw [← haccepts]
  constructor
  · intro hop
    rw [← hop]
    exact decode_accepts hd
  · intro hkey
    exact Op.eq_of_accepts (by decide) hkey (decode_accepts hd)

namespace Machine

variable {c : Config} {g : Generator} {s : State}

theorem log_step_waiting_none {r : Nibble} (hmode : s.mode = .waiting r) :
    (step c none s g).log = [] := by
  cases s
  cases hmode
  rfl

theorem log_step_waiting_some {r : Nibble} {k : Key} (hmode : s.mode = .waiting r) :
    (step c (some k) s g).log = [.keyStored k r] := by
  cases s
  cases hmode
  rfl

/-- The lines of a step, told from the state it starts in. -/
theorem logLines_step (turn : Turn) (s : State) :
    logLines (some .trace) (turn.step s).log = s.told turn.key := by
  rw [logLines_trace, Turn.step]
  rcases s.running_or_waiting with hmode | ⟨r, hmode⟩
  · cases hfetch : s.fetch with
    | error f =>
      rw [log_step_fetch_error _ _ _ hmode hfetch]
      rcases State.fetch_eq_error_iff.mp hfetch with ⟨e, hopcode, _⟩ | ⟨w, e, hopcode, hdecode, _⟩
      · simp only [State.told, hmode, hopcode, List.map_nil]
      · have htext : disassemble w = .error e := disassembleIn_eq_error_iff.mpr hdecode
        simp only [State.told, hmode, hopcode, htext, List.map_nil]
    | ok d =>
      have hd := State.executing?_eq_some_iff.mpr ⟨hmode, hfetch⟩
      obtain ⟨w, hopcode, hdecode⟩ := State.exists_decode_of_executing hd
      have htext : disassemble w = .ok (d.text .hex) := disassembleIn_eq_ok_iff.mpr ⟨d, hdecode, rfl⟩
      obtain rfl := decode_opcode hdecode
      have hx : d.op = .ldKey → d.operands.x = d.opcode.extractLsb' 8 4 := by
        intro hop
        rw [decode_operands hdecode, hop]
        rfl
      rw [log_step_executing _ _ _ hd, State.told_of_disassemble _ hmode hopcode htext, List.map_cons,
        LogEntry.line_executing htext hdecode]
      simp only [← Decoded.op_eq_ldKey_iff hdecode]
      split
      · rename_i hop
        rw [hx hop]
        simp only [List.map_cons, List.map_nil, LogEntry.line_waiting]
      · rfl
  · cases hkey : turn.key with
    | none =>
      rw [log_step_waiting_none hmode]
      simp only [State.told, hmode, List.map_nil]
    | some k =>
      rw [log_step_waiting_some hmode]
      simp only [State.told, hmode, List.map_cons, List.map_nil, LogEntry.line_keyStored]

theorem logLines_logOf (turns : List Turn) (s : State) :
    logLines (some .trace) (logOf turns s) =
      (attempts turns s).flatMap fun (start, turn) => start.told turn.key := by
  rw [logLines_trace, logOf, List.map_flatMap]
  congr 1
  funext ⟨start, turn⟩
  rw [← logLines_trace]
  exact logLines_step turn start

end Machine

/-! ### Waits in the log -/

/-- The lines that are marked with the level of waits and keys. -/
def debugLines (lines : List String) : List String :=
  lines.filter fun line => "DEBUG ".toList.isPrefixOf line.toList

def debugEntries (log : List LogEntry) : List LogEntry := log.filter fun e => e.level = .debug

theorem debugLines_eq (log : List LogEntry) :
    debugLines (logLines (some .trace) log) = (debugEntries log).map LogEntry.line := by
  rw [logLines_trace, debugLines, List.filter_map, debugEntries]
  congr 1
  apply List.filter_congr
  intro e _
  have hline : e.line.toList = e.level.name.toList ++ ' ' :: e.message.toList := by
    simp [LogEntry.line, String.toList_append, toString]
  rw [Function.comp_apply, hline]
  cases e.level <;> simp [Level.name, List.isPrefixOf]

/-- What is reported on the way from one mode to another: the wait that begins, then the key that ends
it, for the same register. -/
inductive Waits : Mode → List LogEntry → Mode → Prop
  | rest (m : Mode) : Waits m [] m
  | begins {log : List LogEntry} {m : Mode} (a : Nat) (r : Nibble) (h : Waits (.waiting r) log m) :
      Waits .running (.waiting a r :: log) m
  | ends {log : List LogEntry} {m : Mode} (k : Key) (r : Nibble) (h : Waits .running log m) :
      Waits (.waiting r) (.keyStored k r :: log) m

/-- The entries of waits that have ended, followed by that of a wait that goes on. -/
def entriesOfWaits (ended : List (Nat × Nibble × Key)) (current : Option (Nat × Nibble)) :
    List LogEntry :=
  ended.flatMap (fun (a, r, k) => [.waiting a r, .keyStored k r]) ++
    current.toList.map fun (a, r) => .waiting a r

/-- The mode of a machine with a wait that goes on, or none. -/
def modeOf : Option (Nat × Nibble) → Mode
  | none => .running
  | some (_, r) => .waiting r

namespace Waits

variable {log log' : List LogEntry} {m m' m'' : Mode}

theorem append (h : Waits m log m') (h' : Waits m' log' m'') : Waits m (log ++ log') m'' := by
  induction h with
  | rest m => exact h'
  | begins a r _ ih => exact .begins a r (ih h')
  | ends k r _ ih => exact .ends k r (ih h')

/-- A running machine reports waits from their beginnings. To a waiting one the entry that begins its
wait has to be added. -/
theorem exists_waits (h : Waits m log m') :
    match m with
    | .running => ∃ ended current, log = entriesOfWaits ended current ∧ m' = modeOf current
    | .waiting r => ∀ a, ∃ ended current,
        .waiting a r :: log = entriesOfWaits ended current ∧ m' = modeOf current := by
  induction h with
  | rest m =>
    cases m with
    | running => exact ⟨[], none, rfl, rfl⟩
    | waiting r => exact fun a => ⟨[], some (a, r), rfl, rfl⟩
  | begins a r _ ih => exact ih a
  | ends k r _ ih =>
    obtain ⟨ended, current, rfl, hmode⟩ := ih
    exact fun a => ⟨(a, r, k) :: ended, current, rfl, hmode⟩

end Waits

namespace Machine

/-- A step reports what becomes of its mode; if it fails, this is the mode it would have ended in. -/
theorem step_waits (turn : Turn) (s : State) :
    ∃ m, Waits s.mode (debugEntries (turn.step s).log) m ∧
      ∀ t, (turn.step s).outcome = .ok t → t.mode = m := by
  rcases s.running_or_waiting with hmode | ⟨r, hmode⟩
  · rw [hmode]
    cases hfetch : s.fetch with
    | error f =>
      refine ⟨.running, ?_, ?_⟩
      · rw [Turn.step, log_step_fetch_error _ _ _ hmode hfetch]
        exact .rest .running
      · intro t ht
        rw [Turn.step, step_fetch_error hmode hfetch] at ht
        cases ht
    | ok d =>
      have hd := State.executing?_eq_some_iff.mpr ⟨hmode, hfetch⟩
      refine ⟨if d.op = .ldKey then .waiting d.operands.x else .running, ?_,
        fun t ht => step_executing_mode hd ht⟩
      rw [Turn.step, log_step_executing _ _ _ hd]
      split
      · exact .begins _ _ (.rest _)
      · exact .rest .running
  · rw [hmode, Turn.step]
    cases turn.key with
    | none =>
      rw [log_step_waiting_none hmode]
      exact ⟨.waiting r, .rest _, fun t ht => ((step_waiting_route hmode ht).1 rfl).2.1⟩
    | some k =>
      rw [log_step_waiting_some hmode]
      exact ⟨.running, .ends k r (.rest _), fun t ht => ((step_waiting_route hmode ht).2 k rfl).2.1⟩

theorem turns_waits (turns : List Turn) (s : State) :
    ∃ m, Waits s.mode (debugEntries (logOf turns s)) m ∧
      ∀ t, outcomeOf turns s = .ok t → t.mode = m := by
  induction turns generalizing s with
  | nil =>
    refine ⟨s.mode, .rest _, ?_⟩
    rintro _ ⟨⟩
    rfl
  | cons turn turns ih =>
    obtain ⟨m, hwaits, hmode⟩ := step_waits turn s
    cases hstep : (turn.step s).outcome with
    | error f =>
      rw [logOf_cons_of_error hstep, outcomeOf_cons_of_error hstep]
      exact ⟨m, hwaits, nofun⟩
    | ok t =>
      obtain ⟨m', hwaits', hmode'⟩ := ih t
      rw [hmode t hstep] at hwaits'
      rw [logOf_cons_of_ok hstep, outcomeOf_cons_of_ok hstep]
      refine ⟨m', ?_, hmode'⟩
      rw [debugEntries, List.filter_append]
      exact hwaits.append hwaits'

end Machine

/-- Only the line of a key contains a `p`. -/
theorem keyLine_ne_waitLine (k : Key) (r r' : Nibble) (a : Nat) : keyLine k r ≠ waitLine a r' := by
  intro h
  have hp : 'p' ∈ (keyLine k r).toList := by
    simp [keyLine, String.toList_append, toString]
  have hdigit : 'p' ∉ Numeral.hexAlphabet := by decide
  have hnumeral : 'p' ∈ (Numeral.hexPadded 3 a).toList ∨ 'p' ∈ Numeral.hexDigits r'.toNat := by
    rw [h] at hp
    simpa [waitLine, String.toList_append, toString, Numeral.hex] using hp
  rcases hnumeral with hmem | hmem
  · exact hdigit (Numeral.mem_toList_hexPadded hmem)
  · exact hdigit (Numeral.mem_hexDigits hmem)

theorem lines_entriesOfWaits (ended : List (Nat × Nibble × Key)) (current : Option (Nat × Nibble)) :
    (entriesOfWaits ended current).map LogEntry.line =
      ended.flatMap (fun (a, r, k) => [waitLine a r, keyLine k r]) ++
        current.toList.map fun (a, r) => waitLine a r := by
  simp only [entriesOfWaits, List.map_append, List.map_flatMap, List.map_map, List.map_cons,
    List.map_nil, LogEntry.line_waiting, LogEntry.line_keyStored]
  rfl

/-- The last line is that of a wait if there is one that goes on. -/
theorem isWaiting_iff_getLast {ended : List (Nat × Nibble × Key)} {current : Option (Nat × Nibble)}
    {t : State} (hmode : t.mode = modeOf current) :
    t.isWaiting = true ↔ ∃ a r,
      ((entriesOfWaits ended current).map LogEntry.line).getLast? = some (waitLine a r) := by
  rw [lines_entriesOfWaits, State.isWaiting, hmode]
  cases current with
  | some w =>
    obtain ⟨a, r⟩ := w
    simp [modeOf]
  | none =>
    rcases List.eq_nil_or_concat ended with rfl | ⟨before, ⟨a, r, k⟩, rfl⟩
    · simp [modeOf]
    · simp [modeOf, keyLine_ne_waitLine]

/-- The log of a sequence of steps that starts with a running machine, whatever the configurations, the
keys and the generators, has the lines that each of its steps is to log, in order, up to and including a
step that fails. All steps stand on an opcode, at an address of three digits. The waits in the log
are reported one after the other, each by a line when it begins and a line for the same register when it
ends. If no step fails, the machine waits at the end just when the last of these lines begins a wait. -/
theorem Reachable.log_tells_execution {cs : List Config} {s : State}
    (h : Reachable Memory.size cs s) (hmode : s.mode = .running) (turns : List Turn) :
    let starts := Machine.attempts turns s
    let lines := logLines (some .trace) (Machine.logOf turns s)
    lines = starts.flatMap (fun (start, turn) => start.told turn.key) ∧
    (∀ a ∈ starts, (∃ w, a.1.currentOpcode = .ok w) ∧
      (Numeral.hexPadded 3 a.1.pc).toList.length = 3) ∧
    ∃ (ended : List (Nat × Nibble × Key)) (current : Option (Nat × Nibble)),
      debugLines lines =
        ended.flatMap (fun (a, r, k) => [waitLine a r, keyLine k r]) ++
          current.toList.map (fun (a, r) => waitLine a r) ∧
      ∀ t, Machine.outcomeOf turns s = .ok t →
        t.mode = modeOf current ∧
        (t.isWaiting = true ↔ ∃ a r, (debugLines lines).getLast? = some (waitLine a r)) := by
  intro starts lines
  refine ⟨?lines, ?starts, ?waits⟩
  case lines => exact Machine.logLines_logOf turns s
  case starts =>
    intro a ha
    obtain ⟨cs', ha⟩ := Machine.attempts_reachable h turns a ha
    have hpc : a.1.pc < Memory.size := Nat.lt_of_succ_lt ha.sound.pc.2
    exact ⟨State.exists_currentOpcode ha.sound, Numeral.length_toList_hexPadded_address hpc⟩
  case waits =>
    obtain ⟨m, hwaits, hend⟩ := Machine.turns_waits turns s
    rw [hmode] at hwaits
    obtain ⟨ended, current, hlog, rfl⟩ := hwaits.exists_waits
    refine ⟨ended, current, ?_, ?_⟩
    · rw [debugLines_eq, hlog, lines_entriesOfWaits]
    · intro t ht
      have htmode := hend t ht
      rw [debugLines_eq, hlog]
      exact ⟨htmode, isWaiting_iff_getLast htmode⟩

/-- A wait of three steps, and a `RET` that has nowhere to return to. -/
theorem Reachable.log_tells_execution_F50A :
    let idle : Turn := ⟨{}, none, Generator.cycling #[]⟩
    let pressed : Turn := { idle with key := some 7 }
    let turns := [idle, idle, pressed, idle]
    ∃ s, State.loadProgram [0xF5, 0x0A, 0x00, 0xEE] = .ok s ∧ s.mode = .running ∧
      Machine.outcomeOf turns s = .error (.execution .stackUnderflow) ∧
      logLines (some .trace) (Machine.logOf turns s) =
        ["TRACE 200: F50A  LD V5, K", "DEBUG 200: waiting for a key for V5",
          "DEBUG key 7 pressed, stored in V5", "TRACE 202: 00EE  RET"] ∧
      ∃ t, Machine.outcomeOf [idle, idle] s = .ok t ∧ t.isWaiting = true ∧ ∃ a r,
        (debugLines (logLines (some .trace) (Machine.logOf [idle, idle] s))).getLast? =
          some (waitLine a r) := by
  intro idle pressed turns
  let program : List Byte := [0xF5, 0x0A, 0x00, 0xEE]
  let s : State := { State.initial with memory := Memory.initial.store programStart program }
  let waiting (phase : Nat) : State := { s with mode := .waiting 5, phase := phase }
  let t : State :=
    { s with registers := Registers.zero.set 5 7, pc := 0x202, key := some 7, phase := 3 }
  have hload : State.loadProgram program = .ok s :=
    State.load_eq_ok_iff.mpr ⟨by decide, by decide, by decide, rfl⟩
  have hawait : s.executing? = some ⟨0xF50A, .ldKey, { x := 5 }⟩ :=
    State.executing?_of_stored program 0 0xF50A rfl (by decide) rfl rfl (by decide) (by decide) rfl
  have hreturn : t.executing? = some ⟨0x00EE, .ret, {}⟩ :=
    State.executing?_of_stored program 2 0x00EE rfl (by decide) rfl rfl (by decide) (by decide) rfl
  have hbegins : (idle.step s).outcome = .ok (waiting 1) := by
    rw [Turn.step, Machine.step_executing hawait]
    rfl
  have hidles : (idle.step (waiting 1)).outcome = .ok (waiting 2) := by
    rw [Turn.step, Machine.step_waiting_none rfl]
    rfl
  have hends : (pressed.step (waiting 2)).outcome = .ok t := by
    rw [Turn.step, Machine.step_waiting_some 7 rfl]
    rfl
  have hfails : (idle.step t).outcome = .error (.execution .stackUnderflow) := by
    rw [Turn.step, Machine.step_executing hreturn]
    rfl
  have hreachable := reachable_of_loadProgram hload
  obtain ⟨hlines, _⟩ := hreachable.log_tells_execution rfl turns
  obtain ⟨_, _, ended, current, _, hwaiting⟩ := hreachable.log_tells_execution rfl [idle, idle]
  have htwo : Machine.outcomeOf [idle, idle] s = .ok (waiting 2) := by
    rw [Machine.outcomeOf_cons_of_ok hbegins, Machine.outcomeOf_cons_of_ok hidles]
    rfl
  refine ⟨s, hload, rfl, ?_, ?_, waiting 2, htwo, rfl, (hwaiting _ htwo).2.mp rfl⟩
  · rw [Machine.outcomeOf_cons_of_ok hbegins, Machine.outcomeOf_cons_of_ok hidles,
      Machine.outcomeOf_cons_of_ok hends, Machine.outcomeOf_cons_of_error hfails]
  · rw [hlines, Machine.attempts_cons_of_ok hbegins, Machine.attempts_cons_of_ok hidles,
      Machine.attempts_cons_of_ok hends, Machine.attempts_cons_of_error hfails]
    have hawaits : s.currentOpcode = .ok 0xF50A := State.currentOpcode_of_executing hawait
    have hreturns : t.currentOpcode = .ok 0x00EE := State.currentOpcode_of_executing hreturn
    have hawaitsText : disassemble 0xF50A = .ok "LD V5, K" := rfl
    have hreturnsText : disassemble 0x00EE = .ok "RET" := rfl
    have hpc : s.pc = 0x200 := rfl
    have hpc' : t.pc = 0x202 := rfl
    simp only [List.flatMap_cons, List.flatMap_nil]
    rw [State.told_of_disassemble idle.key rfl hawaits hawaitsText,
      State.told_of_disassemble idle.key rfl hreturns hreturnsText, hpc, hpc']
    rfl

end Chip8
