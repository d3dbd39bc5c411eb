import Chip8.Host.Status
import Chip8.Listing
import Chip8.Proofs.Faults

/-!
# Listings and runs

A listing cuts a program image into words in the same way in which the machine reads them out of its
memory. So each of its rows says beforehand what a machine that comes to the address of the row logs,
and what the status panel shows there.
-/

namespace Chip8

/-! ### The lines of a listing -/

/-- Three digits are enough for an address in memory. -/
theorem Numeral.length_toList_hexPadded_address {a : Nat} (ha : a < Memory.size) :
    (hexPadded 3 a).toList.length = 3 := by
  have htwelve : (BitVec.ofNat 12 a).toNat = a := by
    rw [BitVec.toNat_ofNat]
    exact Nat.mod_eq_of_lt ha
  rw [← htwelve]
  exact length_toList_hexPadded_toNat 3 (by decide) _

/-- The line that lists an opcode. -/
def Line.ofOpcode (address : Nat) (w : Opcode) : Line := ⟨address, w, disassemble w⟩

/-- Line `k` shows word `k` of the image, as long as both of its bytes are part of the image and of
the memory. -/
theorem listing_getElem?_eq_some_iff {bytes : List Byte} {base k : Nat} {l : Line} :
    (listing bytes base)[k]? = some l ↔
      ∃ hk : 2 * k + 1 < bytes.length, base + 2 * k + 1 < Memory.size ∧
        l = .ofOpcode (base + 2 * k) (.ofBytes bytes[2 * k] bytes[2 * k + 1]) := by
  induction bytes, base using listing.induct generalizing k with
  | case1 high low rest base hroom ih =>
    rw [listing, if_pos hroom]
    cases k with
    | zero =>
      constructor
      · rintro ⟨⟩
        exact ⟨by simp, hroom, rfl⟩
      · rintro ⟨_, _, rfl⟩
        rfl
    | succ k =>
      have haddress : base + 2 * (k + 1) = base + 2 + 2 * k := by omega
      have hlength : (high :: low :: rest).length = rest.length + 2 := rfl
      rw [List.getElem?_cons_succ, ih, haddress]
      constructor
      · rintro ⟨hk, hfit, rfl⟩
        exact ⟨by omega, hfit, rfl⟩
      · rintro ⟨hk, hfit, rfl⟩
        exact ⟨by omega, hfit, rfl⟩
  | case2 high low rest base hpast =>
    rw [listing, if_neg hpast]
    simp only [List.getElem?_nil, reduceCtorEq, false_iff]
    rintro ⟨_, hfit, _⟩
    omega
  | case3 bytes base hshort =>
    rw [listing]
    · simp only [List.getElem?_nil, reduceCtorEq, false_iff]
      rintro ⟨hk, _, _⟩
      match bytes, hk with
      | high :: low :: rest, _ => exact hshort high low rest rfl
    · exact hshort

/-- A listing ends with the last whole word of the image that fits into memory. -/
theorem length_listing (bytes : List Byte) (base : Nat) :
    (listing bytes base).length = min (bytes.length / 2) ((Memory.size - base) / 2) := by
  have hline (k : Nat) : k < (listing bytes base).length ↔
      2 * k + 1 < bytes.length ∧ base + 2 * k + 1 < Memory.size := by
    constructor
    · intro hk
      obtain ⟨himage, hfit, _⟩ := listing_getElem?_eq_some_iff.mp (List.getElem?_eq_getElem hk)
      exact ⟨himage, hfit⟩
    · rintro ⟨himage, hfit⟩
      have hk := listing_getElem?_eq_some_iff.mpr ⟨himage, hfit, rfl⟩
      exact (List.getElem?_eq_some_iff.mp hk).1
  have hlast := hline ((listing bytes base).length - 1)
  have hend := hline (listing bytes base).length
  omega

/-- Every word of an image that can be loaded is listed. -/
theorem length_listing_of_load {program : List Byte} {base : Nat} {s : State}
    (h : State.load program base = .ok s) :
    (listing program base).length = program.length / 2 := by
  obtain ⟨_, _, hfit, _⟩ := State.load_eq_ok_iff.mp h
  rw [length_listing]
  omega

/-- A line of an image that is loaded has the opcode that the machine finds at its address. -/
theorem opcodeAt_of_mem_listing {program : List Byte} {base : Nat} {s : State} {l : Line}
    (h : State.load program base = .ok s) (hl : l ∈ listing program base) :
    l.address + 1 < Memory.size ∧ s.opcodeAt l.address = .ok l.opcode ∧
      l.text = disassemble l.opcode := by
  obtain ⟨k, hk⟩ := List.mem_iff_getElem?.mp hl
  obtain ⟨himage, hfit, rfl⟩ := listing_getElem?_eq_some_iff.mp hk
  exact ⟨hfit, State.opcodeAt_load h himage, rfl⟩

/-! ### What a machine shows of an opcode -/

/-- The messages of a log at the finest level. -/
def traceMessages (log : List LogEntry) : List String :=
  (log.filter fun e => e.level = .trace).map LogEntry.message

/-- A running machine shows the opcode it stands on, with its text or with the reason why it has
none. -/
theorem Status.instruction_of_running {s : State} {w : Opcode} {text : String}
    (hmode : s.mode = .running) (hw : s.currentOpcode = .ok w)
    (htext : disassemble w = .ok text ∨ ∃ e, disassemble w = .error e ∧ e.message = text) :
    instruction s = s!" {Numeral.hexPadded 4 w.toNat}  {text}" := by
  have hsaid : opcodeText w = text := by
    rw [opcodeText]
    rcases htext with h | ⟨e, h, rfl⟩ <;> rw [h]
  have hwaiting : s.isWaiting = false := by
    rw [State.isWaiting, hmode]
  rw [instruction_eq hw, hsaid, hwaiting]
  simp only [note, Bool.false_eq_true, if_false, String.append_empty, String.append_assoc]
  rfl

namespace Machine

variable (c : Config) (key : Option Key) (g : Generator) {s : State}

/-- `LD Vx, K` cannot fail, and no other instruction begins a wait. -/
theorem waitEntries_execute {d : Decoded} (hmode : s.mode = .running) (a : Nat) :
    waitEntries a (d.execute c g s) = if d.op = .ldKey then [.waiting a d.operands.x] else [] := by
  cases hresult : d.execute c g s with
  | error f =>
    have hop : d.op ≠ .ldKey := by
      intro hop
      rw [Decoded.execute, hop] at hresult
      cases hresult
    rw [if_neg hop]
    rfl
  | ok u =>
    obtain ⟨v, route, hexec, rfl⟩ := Decoded.execute_eq_ok hresult
    rw [waitEntries, (Op.exec_frame hexec).mode, hmode, Op.exec_flow hexec, Op.modeAfter_flow]
    by_cases hop : d.op = .ldKey
    · rw [if_pos hop, if_pos hop]
    · rw [if_neg hop, if_neg hop]

theorem log_step_executing {d : Decoded} (hd : s.executing? = some d) :
    (step c key s g).log =
      .executing s.pc d :: if d.op = .ldKey then [.waiting s.pc d.operands.x] else [] := by
  obtain ⟨hmode, hfetch⟩ := State.executing?_eq_some_iff.mp hd
  have hfetch' : State.fetch { s with key := key } = .ok d := hfetch
  have hmode' : State.mode { s with key := key } = .running := hmode
  rw [step_running hmode, execute, hfetch', ← waitEntries_execute c g hmode']

/-- An instruction is traced before it is carried out, so also when it fails. -/
theorem traceMessages_step {d : Decoded} (hd : s.executing? = some d) :
    traceMessages (step c key s g).log = [disassemblyRow s.pc d.opcode (d.text .hex)] := by
  rw [log_step_executing c key g hd]
  split <;> rfl

theorem log_step_fetch_error {f : Fault} (hmode : s.mode = .running) (hfetch : s.fetch = .error f) :
    (step c key s g).log = [] := by
  have hfetch' : State.fetch { s with key := key } = .error f := hfetch
  rw [step_running hmode, execute, hfetch']

/-- A machine that comes to an opcode traces its text, if it has one, and shows it before. -/
theorem step_disassemble {w : Opcode} {text : String} (hmode : s.mode = .running)
    (hw : s.currentOpcode = .ok w) (htext : disassemble w = .ok text) :
    traceMessages (step c key s g).log = [disassemblyRow s.pc w text] ∧
      Status.instruction s = s!" {Numeral.hexPadded 4 w.toNat}  {text}" := by
  obtain ⟨d, hd, rfl⟩ := disassembleIn_eq_ok_iff.mp htext
  refine ⟨?_, Status.instruction_of_running hmode hw (.inl htext)⟩
  rw [traceMessages_step c key g (State.executing?_of_opcodeAt hmode hw hd), decode_opcode hd]

/-- Of an opcode that names no instruction nothing is traced, and the step fails with its error. -/
theorem step_disassemble_error {w : Opcode} {e : DecodeError} (hmode : s.mode = .running)
    (hw : s.currentOpcode = .ok w) (htext : disassemble w = .error e) :
    (step c key s g).outcome = .error (.decode e) ∧ traceMessages (step c key s g).log = [] ∧
      Status.instruction s =
        s!" {Numeral.hexPadded 4 w.toNat}  unknown opcode {Numeral.hexPadded 4 w.toNat}" := by
  have hdecode : decode w = .error e := disassembleIn_eq_error_iff.mp htext
  have hfetch : s.fetch = .error (.decode e) :=
    State.fetch_eq_error_iff.mpr (.inr ⟨w, e, hw, hdecode, rfl⟩)
  refine ⟨step_fetch_error hmode hfetch, ?_, ?_⟩
  · rw [log_step_fetch_error c key g hmode hfetch]
    rfl
  · obtain ⟨rfl, _⟩ := decode_eq_error_iff.mp hdecode
    have hspaced : "  unknown opcode " = "  " ++ "unknown opcode " := rfl
    rw [Status.instruction_of_running hmode hw (.inr ⟨_, htext, rfl⟩), hspaced, DecodeError.message]
    simp only [String.append_assoc]
    rfl

end Machine

/-! ### Agreement -/

theorem Line.render_of_ok {l : Line} {text : String} (h : l.text = .ok text) :
    l.render = disassemblyRow l.address l.opcode text := by
  rw [render, h]

/-- Every word of a program that can be loaded is listed, with the address and the opcode that it has
in memory. Whatever a running machine did before it came to the address of a line, as long as the two
bytes there are still those of the program, it traces the row of the listing and shows the opcode and
the text, if there is one; otherwise the step fails with the error of the line, nothing is traced and
the panel names the opcode. -/
theorem listing_agrees {program : List Byte} {base : Nat} {s₀ : State}
    (hload : State.load program base = .ok s₀) :
    (listing program base).length = program.length / 2 ∧
      ∀ l ∈ listing program base,
        s₀.opcodeAt l.address = .ok l.opcode ∧
        ∀ (c : Config) (key : Option Key) (s : State) (g : Generator),
          s.mode = .running → s.pc = l.address →
          s.memory.byte s.pc = s₀.memory.byte s.pc →
          s.memory.byte (s.pc + 1) = s₀.memory.byte (s.pc + 1) →
            let aaa := Numeral.hexPadded 3 l.address
            let oooo := Numeral.hexPadded 4 l.opcode.toNat
            aaa.toList.length = 3 ∧ oooo.toList.length = 4 ∧
              (∀ text, l.text = .ok text →
                traceMessages (Machine.step c key s g).log = [s!"{aaa}: {oooo}  {text}"] ∧
                l.render = s!"{aaa}: {oooo}  {text}" ∧
                (Status.lines s)[2]? = some s!" {oooo}  {text}") ∧
              ∀ e, l.text = .error e →
                (Machine.step c key s g).outcome = .error (.decode e) ∧
                traceMessages (Machine.step c key s g).log = [] ∧
                (Status.lines s)[2]? = some s!" {oooo}  unknown opcode {oooo}" := by
  refine ⟨length_listing_of_load hload, ?_⟩
  intro l hl
  obtain ⟨hfit, hopcode, htext⟩ := opcodeAt_of_mem_listing hload hl
  refine ⟨hopcode, ?_⟩
  intro c key s g hmode hpc hhigh hlow aaa oooo
  have hw : s.currentOpcode = .ok l.opcode := by
    rw [State.currentOpcode, State.opcodeAt, Memory.word_congr hhigh hlow, hpc]
    exact hopcode
  have haddress := Numeral.length_toList_hexPadded_address (Nat.lt_of_succ_lt hfit)
  refine ⟨haddress, Numeral.length_toList_hexPadded_toNat 4 (by decide) l.opcode, ?_, ?_⟩
  · intro text hok
    obtain ⟨htrace, hstatus⟩ :=
      Machine.step_disassemble c key g hmode hw (htext.symm.trans hok)
    rw [hpc] at htrace
    exact ⟨htrace, Line.render_of_ok hok, congrArg some hstatus⟩
  · intro e herror
    obtain ⟨hfault, htrace, hstatus⟩ :=
      Machine.step_disassemble_error c key g hmode hw (htext.symm.trans herror)
    exact ⟨hfault, htrace, congrArg some hstatus⟩

/-- An instruction, a word of data that the machine runs into, and an odd byte. -/
theorem listing_agrees_LD_data :
    ∃ s t, State.load [0x6A, 0x05, 0xFF, 0xFF, 0x00] 0x300 = .ok s ∧
      (listing [0x6A, 0x05, 0xFF, 0xFF, 0x00] 0x300).length = 2 ∧
      traceMessages (Machine.step {} none s (Generator.cycling #[])).log =
        ["300: 6A05  LD VA, 5"] ∧
      (Machine.step {} none s (Generator.cycling #[])).outcome = .ok t ∧
      (Status.lines t)[2]? = some " FFFF  unknown opcode FFFF" ∧
      (Machine.step {} none t (Generator.cycling #[])).outcome =
        .error (.decode (.unknownOpcode 0xFFFF)) := by
  let program : List Byte := [0x6A, 0x05, 0xFF, 0xFF, 0x00]
  let s : State :=
    { State.initial with memory := Memory.initial.store 0x300 program, pc := 0x300 }
  let t : State := { s with registers := Registers.zero.set 0xA 5, pc := 0x302, phase := 1 }
  have hload : State.load program 0x300 = .ok s :=
    State.load_eq_ok_iff.mpr ⟨by decide, by decide, by decide, rfl⟩
  obtain ⟨hlength, hlines⟩ := listing_agrees hload
  have hfirst : Line.ofOpcode 0x300 0x6A05 ∈ listing program 0x300 := List.mem_cons_self
  have hsecond : Line.ofOpcode 0x302 0xFFFF ∈ listing program 0x300 :=
    List.mem_cons_of_mem _ List.mem_cons_self
  obtain ⟨_, hfirst⟩ := hlines _ hfirst
  obtain ⟨_, hsecond⟩ := hlines _ hsecond
  obtain ⟨_, _, htext, _⟩ := hfirst {} none s (Generator.cycling #[]) rfl rfl rfl rfl
  obtain ⟨_, _, _, hdata⟩ := hsecond {} none t (Generator.cycling #[]) rfl rfl rfl rfl
  obtain ⟨htrace, _, _⟩ := htext "LD VA, 5" rfl
  obtain ⟨hfault, _, hstatus⟩ := hdata (.unknownOpcode 0xFFFF) rfl
  have hstep : (Machine.step {} none s (Generator.cycling #[])).outcome = .ok t := by
    have hexecuting : s.executing? = some ⟨0x6A05, .ldByte, { x := 0xA, kk := 0x05 }⟩ :=
      State.executing?_of_stored program 0 0x6A05 rfl (by decide) rfl rfl (by decide) (by decide) rfl
    rw [Machine.step_executing hexecuting]
    rfl
  exact ⟨s, t, hload, hlength.trans (by decide), htrace, hstep, hstatus, hfault⟩

end Chip8
