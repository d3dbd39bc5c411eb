import Chip8.Proofs.Reachable

/-!
# Faults

When a step fails and what it reports. An instruction first makes its own checks (`Op.Refuses`); one
that passes them needs a place to go on from (`Op.Strands`). In a sound state nothing else goes wrong.
-/

namespace Chip8

namespace Memory

theorem read_eq_error_iff {m : Memory} {a length : Nat} {f : ExecutionFault} :
    m.read a length = .error f ↔
      size < a + length ∧ f = .memoryOutOfBounds (a + max length 1 - 1) := by
  unfold read
  split
  · rename_i hroom
    simp [Nat.not_lt.mpr hroom]
  · rename_i hroom
    simp [Nat.not_le.mp hroom, eq_comm (a := f)]

theorem write_eq_error_iff {m : Memory} {a : Nat} {bytes : List Byte} {f : ExecutionFault} :
    m.write a bytes = .error f ↔
      1 ≤ bytes.length ∧
        (a < Font.limit ∧ f = .readOnlyMemory a ∨
          Font.limit ≤ a ∧ size < a + bytes.length ∧
            f = .memoryOutOfBounds (a + bytes.length - 1)) := by
  unfold write
  cases bytes with
  | nil => simp
  | cons b bs =>
    simp only [List.isEmpty_cons, Bool.false_eq_true, ↓reduceIte, List.length_cons,
      Nat.le_add_left, true_and]
    split
    · rename_i hfont
      simp [hfont, Nat.not_le.mpr hfont, eq_comm (a := f)]
    · rename_i hfont
      have hlimit : Font.limit ≤ a := Nat.not_lt.mp hfont
      split
      · rename_i hroom
        simp [hfont, Nat.not_lt.mpr hroom]
      · rename_i hroom
        simp [hfont, hlimit, Nat.not_le.mp hroom, eq_comm (a := f)]

end Memory

theorem Font.glyphAddress?_eq_none_iff {digit : Byte} :
    glyphAddress? digit = none ↔ 16 ≤ digit.toNat := by
  simp [glyphAddress?]

theorem decode_eq_error_iff {w : Opcode} {e : DecodeError} :
    decode w = .error e ↔ e = .unknownOpcode w ∧ ∀ op : Op, op.encoding.accepts w = false := by
  unfold decode Encoding.firstMatch?
  cases hfind : Op.all.find? fun op => op.encoding.accepts w with
  | none =>
    have hnone : ∀ op : Op, op.encoding.accepts w = false := by
      intro op
      simpa using List.find?_eq_none.mp hfind op (Op.mem_all op)
    simp [hnone, eq_comm (a := e)]
  | some op =>
    have haccepts : op.encoding.accepts w = true :=
      List.find?_some (p := fun r => (Op.encoding r).accepts w) hfind
    simp only [reduceCtorEq, false_iff, not_and]
    intro _ hall
    rw [hall op] at haccepts
    cases haccepts

/-- An opcode that a single row of the table accepts. -/
theorem decode_of_accepts {w : Opcode} {op : Op} (h : op.encoding.accepts w = true)
    (honly : ∀ op' : Op, op'.encoding.accepts w = true → op' = op) :
    decode w = .ok ⟨w, op, op.encoding.layout.extract w⟩ := by
  cases hd : decode w with
  | error e =>
    obtain ⟨_, hnone⟩ := decode_eq_error_iff.mp hd
    rw [hnone op] at h
    cases h
  | ok d =>
    obtain rfl := honly d.op (decode_accepts hd)
    rw [← decode_operands hd, ← decode_opcode hd]

namespace Op

/-- How many bytes an instruction reads, from the index register on. -/
def readLength (c : Config) (o : Operands) : Op → Nat
  | drw => o.n.toNat
  | load => c.transferLength o.x
  | _ => 0

/-- How many bytes an instruction writes, from the index register on. -/
def writeLength (c : Config) (o : Operands) : Op → Nat
  | ldDigits => 3
  | store => c.transferLength o.x
  | _ => 0

/-- The address that a jump or a call names. -/
def jumpTarget? (o : Operands) (s : State) : Op → Option Nat
  | jp | call => some o.nnn.toNat
  | jpV0 => some ((s.registers.get 0).toNat + o.nnn.toNat)
  | _ => none

/-- The checks that instructions make of their own, each with its report. -/
inductive Refuses (c : Config) (o : Operands) (s : State) : Op → ExecutionFault → Prop
  | emptyStack (h : s.stack = []) : Refuses c o s ret .stackUnderflow
  | fullStack (h : c.stackDepth ≤ s.stack.length) :
      Refuses c o s call (.stackOverflow c.stackDepth)
  | noGlyph (h : 16 ≤ (s.registers.get o.x).toNat) :
      Refuses c o s ldGlyph (.registerOutOfBounds (s.registers.get o.x))
  | readPastEnd {op : Op} (hlen : 1 ≤ op.readLength c o)
      (h : Memory.size < s.index + op.readLength c o) :
      Refuses c o s op (.memoryOutOfBounds (s.index + op.readLength c o - 1))
  | writeFont {op : Op} (hlen : 1 ≤ op.writeLength c o) (h : s.index < Font.limit) :
      Refuses c o s op (.readOnlyMemory s.index)
  | writePastEnd {op : Op} (hlen : 1 ≤ op.writeLength c o) (hfont : Font.limit ≤ s.index)
      (h : Memory.size < s.index + op.writeLength c o) :
      Refuses c o s op (.memoryOutOfBounds (s.index + op.writeLength c o - 1))

/-- How an instruction that could be carried out finds no place to go on from. -/
inductive Strands (o : Operands) (s : State) : Op → ExecutionFault → Prop
  | returnPastEnd (h : s.stack.head? = some 0xFFE) : Strands o s ret (.memoryOutOfBounds 0x1000)
  | jumpPastEnd {op : Op} {target : Nat} (htarget : op.jumpTarget? o s = some target)
      (h : Memory.size ≤ target + 1) : Strands o s op (.memoryOutOfBounds target)
  | jumpOdd {op : Op} {target : Nat} (htarget : op.jumpTarget? o s = some target)
      (hroom : target + 1 < Memory.size) (h : target % 2 = 1) :
      Strands o s op (.misalignedJump target)
  | skipPastEnd {op : Op} (hskip : op.skips o s = true) (h : Memory.size ≤ s.pc + 4) :
      Strands o s op (.memoryOutOfBounds (s.pc + 4))
  | nextPastEnd {op : Op} (hnext : op.flow o s = .next) (h : s.pc = 0xFFE) :
      Strands o s op (.memoryOutOfBounds 0x1000)

/-- What an instruction reports when it fails. Its own checks come first: a place to go on from is
only looked for when none of them refuses. -/
def Fails (c : Config) (o : Operands) (s : State) (op : Op) (f : ExecutionFault) : Prop :=
  op.Refuses c o s f ∨ (∀ e, ¬ op.Refuses c o s e) ∧ op.Strands o s f

variable {c : Config} {o : Operands} {g : Generator} {s : State} {op : Op} {f : ExecutionFault}

theorem length_transferred :
    (s.registers.toList.take (c.transferLength o.x)).length = c.transferLength o.x := by
  rw [List.length_take, Registers.length_toList]
  exact Nat.min_eq_left (c.transferLength_le o.x)

/-- A read from an index inside memory fails only if it asks for bytes past the end. -/
private theorem refuses_of_read (hindex : s.index < Memory.size)
    (h : s.memory.read s.index (op.readLength c o) = .error f) : op.Refuses c o s f := by
  obtain ⟨hpast, rfl⟩ := Memory.read_eq_error_iff.mp h
  have hlen : 1 ≤ op.readLength c o := by omega
  rw [Nat.max_eq_left hlen]
  exact .readPastEnd hlen hpast

private theorem refuses_of_write {bytes : List Byte} (hlength : bytes.length = op.writeLength c o)
    (h : s.memory.write s.index bytes = .error f) : op.Refuses c o s f := by
  rw [Memory.write_eq_error_iff, hlength] at h
  obtain ⟨hlen, ⟨hfont, rfl⟩ | ⟨hfont, hpast, rfl⟩⟩ := h
  · exact .writeFont hlen hfont
  · exact .writePastEnd hlen hfont hpast

private theorem refuses_of_exec (hindex : s.index < Memory.size)
    (h : op.exec c o g s = .error f) : op.Refuses c o s f := by
  cases op
  case ret =>
    simp only [exec] at h
    split at h
    · rename_i hstack
      cases h
      exact .emptyStack hstack
    · cases h
  case call =>
    simp only [exec] at h
    split at h
    · rename_i hdepth
      cases h
      exact .fullStack hdepth
    · cases h
  case ldGlyph =>
    simp only [exec] at h
    split at h
    · rename_i hglyph
      cases h
      exact .noGlyph (Font.glyphAddress?_eq_none_iff.mp hglyph)
    · cases h
  case drw | load =>
    simp only [exec] at h
    split at h
    · rename_i hread
      cases h
      exact refuses_of_read hindex hread
    · cases h
  case ldDigits =>
    simp only [exec] at h
    split at h
    · rename_i hwrite
      cases h
      exact refuses_of_write rfl hwrite
    · cases h
  case store =>
    simp only [exec] at h
    split at h
    · rename_i hwrite
      cases h
      exact refuses_of_write length_transferred hwrite
    · cases h
  all_goals
    simp only [exec] at h
    cases h

private theorem exec_of_read (h : s.memory.read s.index (op.readLength c o) = .error f)
    (hlen : 1 ≤ op.readLength c o) : op.exec c o g s = .error f := by
  cases op
  case drw | load =>
    simp only [readLength] at h
    simp only [exec, h]
  all_goals exact absurd hlen (Nat.not_succ_le_zero 0)

private theorem exec_of_write (hlen : 1 ≤ op.writeLength c o)
    (h : ∀ bytes : List Byte, bytes.length = op.writeLength c o →
      s.memory.write s.index bytes = .error f) : op.exec c o g s = .error f := by
  cases op
  case ldDigits => simp only [exec, h (decimalDigits _) rfl]
  case store => simp only [exec, h _ length_transferred]
  all_goals exact absurd hlen (Nat.not_succ_le_zero 0)

private theorem exec_of_refuses (h : op.Refuses c o s f) : op.exec c o g s = .error f := by
  cases h with
  | emptyStack h => simp only [exec, h]
  | fullStack h => simp only [exec, h, ↓reduceIte]
  | noGlyph h => simp only [exec, exec.vx, Font.glyphAddress?_eq_none_iff.mpr h]
  | readPastEnd hlen h =>
    refine exec_of_read (Memory.read_eq_error_iff.mpr ⟨h, ?_⟩) hlen
    rw [Nat.max_eq_left hlen]
  | writeFont hlen h =>
    refine exec_of_write hlen fun bytes hlength => ?_
    rw [Memory.write_eq_error_iff, hlength]
    exact ⟨hlen, .inl ⟨h, rfl⟩⟩
  | writePastEnd hlen hfont h =>
    refine exec_of_write hlen fun bytes hlength => ?_
    rw [Memory.write_eq_error_iff, hlength]
    exact ⟨hlen, .inr ⟨hfont, h, rfl⟩⟩

theorem exec_eq_error_iff (hindex : s.index < Memory.size) :
    op.exec c o g s = .error f ↔ op.Refuses c o s f :=
  ⟨refuses_of_exec hindex, exec_of_refuses⟩

/-! ### Going on -/

theorem flow_of_jumpTarget {target : Nat} (h : op.jumpTarget? o s = some target) :
    op.flow o s = .jump target := by
  cases op
  case jp | call | jpV0 =>
    cases h
    rfl
  all_goals cases h

theorem flow_of_skips (h : op.skips o s = true) : op.flow o s = .jump (s.pc + 4) := by
  cases op
  case seByte | sneByte | seReg | sneReg | skp | sknp => simp only [flow, Flow.skipIf, h, ↓reduceIte]
  all_goals cases h

theorem flow_cases (o : Operands) (s : State) (op : Op) :
    op = .ret ∨ (∃ target, op.jumpTarget? o s = some target) ∨ op.skips o s = true ∨
      op.flow o s = .next ∨ op.flow o s = .await o.x := by
  by_cases hskip : op.skips o s = true
  · exact .inr (.inr (.inl hskip))
  · cases op
    case ret => exact .inl rfl
    case jp | call | jpV0 => exact .inr (.inl ⟨_, rfl⟩)
    case ldKey => exact .inr (.inr (.inr (.inr rfl)))
    all_goals
      refine .inr (.inr (.inr (.inl ?_)))
      simp only [flow, Flow.skipIf, hskip, Bool.false_eq_true, ↓reduceIte]

private theorem strands_of_follow (hs : s.Sound) (hpass : ∀ e, ¬ op.Refuses c o s e)
    (h : s.follow (op.flow o s) = .error f) : op.Strands o s f := by
  rcases flow_cases o s op with rfl | ⟨target, htarget⟩ | hskip | hnext | hawait
  · cases hsites : s.stack with
    | nil => exact absurd (.emptyStack hsites) (hpass _)
    | cons site rest =>
      have hsite : CodeAddress site := hs.stack site (by simp [hsites])
      have heven : (site + 2) % 2 = 0 := by rw [Nat.add_mod_right, hsite.1]
      simp only [flow, hsites, List.headD_cons, State.follow] at h
      obtain ⟨hpast, rfl⟩ := (State.jumpTo_eq_error_iff_of_even heven).mp h
      obtain rfl := hsite.eq_last hpast
      exact .returnPastEnd (by rw [hsites, List.head?_cons])
  · rw [flow_of_jumpTarget htarget, State.follow, State.jumpTo_eq_error_iff] at h
    rcases h with ⟨hpast, rfl⟩ | ⟨hlt, hodd, rfl⟩
    · exact .jumpPastEnd htarget hpast
    · exact .jumpOdd htarget hlt hodd
  · have heven : (s.pc + 4) % 2 = 0 := by rw [Nat.add_mod, hs.pc.1]
    rw [flow_of_skips hskip, State.follow, State.jumpTo_eq_error_iff_of_even heven] at h
    obtain ⟨hpast, rfl⟩ := h
    -- Memory has an even size, so an even target past the last opcode is past the last byte.
    simp only [Memory.size] at hpast
    exact .skipPastEnd hskip (by simp only [Memory.size]; omega)
  · rw [hnext, State.follow, State.advance_eq_error_iff] at h
    obtain ⟨hpast, rfl⟩ := h
    have hlast := hs.pc.eq_last hpast
    rw [hlast]
    exact .nextPastEnd hnext hlast
  · rw [hawait] at h
    cases h

private theorem follow_of_strands (h : op.Strands o s f) : s.follow (op.flow o s) = .error f := by
  cases h with
  | returnPastEnd h =>
    have hhead : s.stack.headD 0 = 0xFFE := by rw [List.headD_eq_head?_getD, h, Option.getD_some]
    rw [flow, hhead]
    rfl
  | jumpPastEnd htarget h =>
    rw [flow_of_jumpTarget htarget]
    exact State.jumpTo_eq_error_iff.mpr (.inl ⟨h, rfl⟩)
  | jumpOdd htarget hroom h =>
    rw [flow_of_jumpTarget htarget]
    exact State.jumpTo_eq_error_iff.mpr (.inr ⟨hroom, h, rfl⟩)
  | skipPastEnd hskip h =>
    rw [flow_of_skips hskip]
    exact State.jumpTo_eq_error_iff.mpr (.inl ⟨Nat.le_succ_of_le h, rfl⟩)
  | nextPastEnd hnext h =>
    rw [hnext]
    refine State.advance_eq_error_iff.mpr ⟨?_, by rw [h]⟩
    rw [h]
    decide

end Op

/-- Whether going on fails, and how, is decided by where the program counter stands and is to go. -/
theorem State.follow_eq_error_of_pc {s u : State} {route : Flow} {f : ExecutionFault} (h : u.pc = s.pc) :
    u.follow route = .error f ↔ s.follow route = .error f := by
  cases route with
  | next => simp only [follow, advance_eq_error_iff, h]
  | jump target => simp only [follow, jumpTo_eq_error_iff]
  | await r => simp only [follow, reduceCtorEq]

theorem State.Sound.withKey {s : State} (hs : s.Sound) {key : Option Key} :
    State.Sound { s with key := key } :=
  { hs with }

theorem Decoded.execute_eq_error_iff {d : Decoded} {c : Config} {g : Generator} {s : State}
    {f : ExecutionFault} (hs : s.Sound) :
    d.execute c g s = .error f ↔ d.op.Fails c d.operands s f := by
  unfold Decoded.execute Op.Fails
  cases hexec : d.op.exec c d.operands g s with
  | error e =>
    simp only [← Op.exec_eq_error_iff (g := g) hs.index, hexec]
    simp
  | ok result =>
    obtain ⟨u, route⟩ := result
    have hpass : ∀ e, ¬ d.op.Refuses c d.operands s e := by
      intro e hrefuses
      rw [(Op.exec_eq_error_iff hs.index).mpr hrefuses] at hexec
      cases hexec
    have hpc := (Op.exec_frame hexec).pc
    rw [Op.exec_flow hexec]
    simp only [hpass, not_false_eq_true, implies_true, true_and, false_or]
    rw [State.follow_eq_error_of_pc hpc]
    exact ⟨Op.strands_of_follow hs hpass, Op.follow_of_strands⟩

namespace Machine

/-- What the next step reports if it fails. A waiting machine fails only on a key that ends the wait
at the last opcode of memory. -/
inductive Faults (c : Config) (key : Option Key) (s : State) : Fault → Prop
  | receive {r : Nibble} {k : Key} (hmode : s.mode = .waiting r) (hkey : key = some k)
      (h : s.pc = 0xFFE) : Faults c key s (.execution (.memoryOutOfBounds 0x1000))
  | decode {w : Opcode} (hmode : s.mode = .running) (hw : s.currentOpcode = .ok w)
      (h : ∀ op : Op, op.encoding.accepts w = false) :
      Faults c key s (.decode (.unknownOpcode w))
  | execute {w : Opcode} {d : Decoded} {f : ExecutionFault} (hmode : s.mode = .running)
      (hw : s.currentOpcode = .ok w) (hd : decode w = .ok d)
      (h : d.op.Fails c d.operands { s with key := key } f) : Faults c key s (.execution f)

variable {c : Config} {key : Option Key} {g : Generator} {s : State} {f : Fault}

theorem receive_eq_error_iff {r : Nibble} {k : Key} {e : ExecutionFault} (hpc : CodeAddress s.pc) :
    receive s r k = .error e ↔ s.pc = 0xFFE ∧ e = .memoryOutOfBounds 0x1000 := by
  unfold receive
  rw [State.advance_eq_error_iff]
  constructor
  · rintro ⟨hpast, rfl⟩
    have hlast := hpc.eq_last hpast
    exact ⟨hlast, by rw [State.setRegister, hlast]⟩
  · rintro ⟨hlast, rfl⟩
    rw [State.setRegister, hlast]
    exact ⟨by decide, rfl⟩

private theorem faults_of_step (hs : s.Sound) (h : (step c key s g).outcome = .error f) :
    Faults c key s f := by
  rcases s.running_or_waiting with hmode | ⟨r, hmode⟩
  · obtain ⟨w, hw⟩ := State.exists_currentOpcode hs
    cases hd : Chip8.decode w with
    | error e =>
      have hfetch : s.fetch = .error (.decode e) :=
        State.fetch_eq_error_iff.mpr (.inr ⟨w, e, hw, hd, rfl⟩)
      rw [step_fetch_error hmode hfetch] at h
      cases h
      obtain ⟨rfl, hnone⟩ := decode_eq_error_iff.mp hd
      exact .decode hmode hw hnone
    | ok d =>
      rw [step_executing (State.executing?_of_opcodeAt hmode hw hd), finish_eq_error_iff] at h
      obtain ⟨e, he, rfl⟩ := h
      exact .execute hmode hw hd ((Decoded.execute_eq_error_iff hs.withKey).mp he)
  · cases key with
    | none =>
      rw [step_waiting_none hmode] at h
      cases h
    | some k =>
      rw [step_waiting_some k hmode, finish_eq_error_iff] at h
      obtain ⟨e, he, rfl⟩ := h
      obtain ⟨hlast, rfl⟩ := (receive_eq_error_iff hs.withKey.pc).mp he
      exact .receive hmode rfl hlast

private theorem step_of_faults (hs : s.Sound) (h : Faults c key s f) :
    (step c key s g).outcome = .error f := by
  cases h with
  | receive hmode hkey hlast =>
    subst hkey
    rw [step_waiting_some _ hmode, finish_eq_error_iff]
    exact ⟨_, (receive_eq_error_iff hs.withKey.pc).mpr ⟨hlast, rfl⟩, rfl⟩
  | @decode w hmode hw hnone =>
    have hd : Chip8.decode w = .error (.unknownOpcode w) := decode_eq_error_iff.mpr ⟨rfl, hnone⟩
    exact step_fetch_error hmode (State.fetch_eq_error_iff.mpr (.inr ⟨w, _, hw, hd, rfl⟩))
  | execute hmode hw hd hfails =>
    rw [step_executing (State.executing?_of_opcodeAt hmode hw hd), finish_eq_error_iff]
    exact ⟨_, (Decoded.execute_eq_error_iff hs.withKey).mpr hfails, rfl⟩

theorem step_eq_error_iff (hs : s.Sound) :
    (step c key s g).outcome = .error f ↔ Faults c key s f :=
  ⟨faults_of_step hs, step_of_faults hs⟩

end Machine

/-- A step from a reachable state fails in exactly the ways that `Machine.Faults` lists, each with
the report given there. -/
theorem Reachable.step_fails_iff {cs : List Config} {s : State} (h : Reachable Memory.size cs s)
    (c : Config) (key : Option Key) (g : Generator) (f : Fault) :
    (Machine.step c key s g).outcome = .error f ↔ Machine.Faults c key s f :=
  Machine.step_eq_error_iff h.sound

/-- A call to the last byte of memory: a full stack is reported before the target is looked at. -/
theorem Reachable.step_fails_call :
    ∃ s, State.loadProgram [0x2F, 0xFF] = .ok s ∧ Reachable Memory.size [] s ∧
      (Machine.step { stackDepth := 0 } none s (Generator.cycling #[])).outcome =
        .error (.execution (.stackOverflow 0)) ∧
      (Machine.step { stackDepth := 1 } none s (Generator.cycling #[])).outcome =
        .error (.execution (.memoryOutOfBounds 0xFFF)) := by
  let loaded : State :=
    { State.initial with memory := Memory.initial.store programStart [0x2F, 0xFF] }
  let d : Decoded := ⟨0x2FFF, .call, { nnn := 0xFFF }⟩
  have hload : State.loadProgram [0x2F, 0xFF] = .ok loaded :=
    State.load_eq_ok_iff.mpr ⟨by decide, by decide, by decide, rfl⟩
  have hreachable : Reachable Memory.size [] loaded := reachable_of_loadProgram hload
  have hw : loaded.currentOpcode = .ok 0x2FFF := by
    have hopcode := State.opcodeAt_load hload (i := 0) (by decide)
    exact hopcode
  have hd : decode 0x2FFF = .ok d := rfl
  have hpass : ∀ e, ¬ Op.Refuses { stackDepth := 1 } d.operands loaded .call e := by
    intro e he
    cases he with
    | fullStack h => exact absurd h (by decide)
    | readPastEnd h => exact absurd h (by decide)
    | writeFont h => exact absurd h (by decide)
    | writePastEnd h => exact absurd h (by decide)
  refine ⟨loaded, hload, hreachable, ?_, ?_⟩
  · exact (step_fails_iff hreachable _ _ _ _).mpr
      (.execute rfl hw hd (.inl (.fullStack (by decide))))
  · exact (step_fails_iff hreachable _ _ _ _).mpr
      (.execute rfl hw hd (.inr ⟨hpass, .jumpPastEnd rfl (by decide)⟩))

end Chip8
