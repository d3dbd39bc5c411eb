import Chip8.Proofs.Listings
import Chip8.Proofs.Unambiguity

/-!
# The status panel

The first two lines of the panel are rows of one table: the headings, and under each of them its
value. No value is wider than its place in the table as long as the addresses take three digits, as
they do in every reachable state, so every value starts in the column where its heading starts and can
be read off again. The third line has the opcode in a column of its own.
-/

namespace Chip8

/-! ### Columns -/

/-- The characters of `text` fill the columns of `line` from `column` on. -/
def StandsAt (text line : String) (column : Nat) : Prop :=
  text.toList <+: line.toList.drop column

instance (text line : String) (column : Nat) : Decidable (StandsAt text line column) :=
  inferInstanceAs (Decidable (_ <+: _))

namespace StandsAt

variable {text text' line : String} {column : Nat}

theorem lt_length (h : StandsAt text line column) (htext : text ≠ "") : column < line.length := by
  by_contra hpast
  rw [← String.length_toList, Nat.not_lt] at hpast
  rw [StandsAt, List.drop_eq_nil_of_le hpast, List.prefix_nil] at h
  exact htext (String.toList_eq_nil_iff.mp h)

theorem start (text rest : String) : StandsAt text (text ++ rest) 0 := by
  rw [StandsAt, List.drop_zero, String.toList_append]
  exact List.prefix_append _ _

/-- What is written before a line moves its columns. -/
theorem after (h : StandsAt text line column) (before : String) :
    StandsAt text (before ++ line) (before.length + column) := by
  rw [StandsAt, String.toList_append, ← String.length_toList, List.drop_length_add_append]
  exact h

/-- Only one text of a given length stands in a column. -/
theorem eq_of_length (h : StandsAt text line column) (h' : StandsAt text' line column)
    (hlength : text.length = text'.length) : text = text' := by
  rw [← String.length_toList, ← String.length_toList] at hlength
  have hshorter := List.prefix_of_prefix_length_le h h' hlength.le
  exact String.toList_inj.mp (hshorter.eq_of_length hlength)

end StandsAt

namespace Status

/-! ### The table -/

/-- What the panel has a heading for. -/
inductive Field where
  | register (r : Nibble)
  | pc | index | delay | sound
  deriving DecidableEq, Repr

namespace Field

/-- From left to right. -/
def all : List Field :=
  (List.finRange 16).map (fun i => register (.ofFin i)) ++ [pc, index, delay, sound]

def heading : Field → String
  | register r => "V" ++ Numeral.hex r.toNat
  | pc => "PC"
  | index => "I"
  | delay => "DT"
  | sound => "ST"

/-- The blanks in front of a field. -/
def gap : Field → String
  | pc | index | delay => "  "
  | register _ | sound => " "

def width : Field → Nat
  | pc | index => 3
  | register _ | delay | sound => 2

/-- The column of its first character. -/
def column : Field → Nat
  | register r => 3 * r.toNat + 1
  | pc => 50
  | index => 55
  | delay => 60
  | sound => 63

def value (s : State) : Field → Nat
  | register r => (s.registers.get r).toNat
  | pc => s.pc
  | index => s.index
  | delay => s.delay.toNat
  | sound => s.sound.toNat

/-- The value as the panel writes it. -/
def text (s : State) (f : Field) : String := Numeral.hexPadded f.width (f.value s)

def span (f : Field) : Nat := f.gap.length + f.width

/-- Where `f` starts in a table of the given fields. -/
def start (f : Field) : List Field → Nat
  | [] => 0
  | g :: gs => if g = f then g.gap.length else g.span + start f gs

theorem mem_all (f : Field) : f ∈ all := by
  cases f with
  | register r => exact List.mem_append_left _ (List.mem_map.mpr ⟨r.toFin, List.mem_finRange _, rfl⟩)
  | pc | index | delay | sound => decide

/-- The columns add up. -/
theorem start_all (f : Field) : f.start all = f.column := by
  have hall : ∀ g ∈ all, g.start all = g.column := by decide
  exact hall f f.mem_all

end Field

/-- A line of the table, with a text for each of its fields. -/
def row (cell : Field → String) (fs : List Field) : String :=
  String.join (fs.map fun f => f.gap ++ cell f)

section Row

variable {cell : Field → String} (hcell : ∀ f, (cell f).length = f.width)

theorem row_cons (cell : Field → String) (f : Field) (fs : List Field) :
    row cell (f :: fs) = (f.gap ++ cell f) ++ row cell fs :=
  String.join_cons

include hcell

theorem length_row (fs : List Field) : (row cell fs).length = (fs.map Field.span).sum := by
  induction fs with
  | nil => rfl
  | cons f fs ih =>
    rw [row_cons, String.length_append, String.length_append, hcell, ih]
    rfl

/-- Texts that fill their fields leave those after them in their columns. -/
theorem standsAt_row {f : Field} {fs : List Field} (hf : f ∈ fs) :
    StandsAt (cell f) (row cell fs) (f.start fs) := by
  induction fs with
  | nil => cases hf
  | cons g gs ih =>
    rw [row_cons, Field.start]
    split
    · rename_i hfirst
      rw [hfirst, String.append_assoc]
      exact (StandsAt.start _ _).after f.gap
    · rename_i hother
      have hlater : f ∈ gs := List.mem_of_ne_of_mem (Ne.symm hother) hf
      have hspan : (g.gap ++ cell g).length = g.span := by
        rw [String.length_append, hcell]
        rfl
      rw [← hspan]
      exact (ih hlater).after _

end Row

theorem values_eq (s : State) : values s = row (Field.text s) Field.all := by
  have hregisters : s.registers.toList =
      (List.finRange 16).map fun i => s.registers.get (.ofFin i) := by
    apply List.ext_getElem
    · rw [Registers.length_toList, List.length_map, List.length_finRange]
    · intro i hi hi'
      simp [Registers.toList, Registers.get]
  rw [values, row, Field.all, List.map_append, String.join_append, hregisters]
  simp only [List.map_map, List.map_cons, List.map_nil, String.join_cons, String.join_nil,
    String.append_assoc, String.append_empty]
  rfl

/-! ### Headings and values -/

/-- A heading occurs in the first line nowhere but in its column. -/
theorem standsAt_heading_iff (f : Field) (k : Nat) :
    StandsAt f.heading header k ↔ k = f.column := by
  have hnonempty : ∀ g ∈ Field.all, g.heading ≠ "" := by decide
  have hcolumns : ∀ g ∈ Field.all, g.column < header.length ∧
      ∀ k < header.length, StandsAt g.heading header k ↔ k = g.column := by
    decide +kernel
  obtain ⟨hcolumn, hwithin⟩ := hcolumns f f.mem_all
  constructor
  · intro h
    exact (hwithin k (h.lt_length (hnonempty f f.mem_all))).mp h
  · rintro rfl
    exact (hwithin f.column hcolumn).mpr rfl

variable {s t : State} {w : Opcode}

/-- Bytes fill two columns and addresses in memory three. -/
theorem length_text (hs : s.Sound) (f : Field) : (f.text s).length = f.width := by
  rw [Field.text, ← String.length_toList]
  cases f with
  | pc => exact Numeral.length_toList_hexPadded_address (Nat.lt_of_succ_lt hs.pc.2)
  | index => exact Numeral.length_toList_hexPadded_address hs.index
  | register r => exact Numeral.length_toList_hexPadded_toNat 2 (by decide) _
  | delay => exact Numeral.length_toList_hexPadded_toNat 2 (by decide) _
  | sound => exact Numeral.length_toList_hexPadded_toNat 2 (by decide) _

theorem length_values (hs : s.Sound) : (values s).length = 65 := by
  rw [values_eq, length_row (length_text hs)]
  rfl

theorem standsAt_text (hs : s.Sound) (f : Field) : StandsAt (f.text s) (values s) f.column := by
  rw [values_eq, ← Field.start_all]
  exact standsAt_row (length_text hs) f.mem_all

/-- What stands in the columns of a field is read off again. -/
theorem value_eq_of_values (hs : s.Sound) (ht : t.Sound) (h : values s = values t) (f : Field) :
    f.value s = f.value t := by
  have htext := standsAt_text hs f
  rw [h] at htext
  have hlength := (length_text hs f).trans (length_text ht f).symm
  exact Numeral.hexPadded_injective (htext.eq_of_length (standsAt_text ht f) hlength)

/-! ### The instruction -/

theorem note_injective : ∀ b b', note b = note b' → b = b' := by
  decide

theorem standsAt_opcode (hw : s.currentOpcode = .ok w) :
    StandsAt (Numeral.hexPadded 4 w.toNat) (instruction s) 1 := by
  rw [instruction_eq hw]
  exact (StandsAt.start _ _).after " "

/-- The third line tells the opcode, and with it all that stands before the note. -/
theorem eq_of_instruction {w' : Opcode} (hw : s.currentOpcode = .ok w)
    (hw' : t.currentOpcode = .ok w') (h : instruction s = instruction t) :
    w = w' ∧ s.isWaiting = t.isWaiting := by
  have hlength (v : Opcode) : (Numeral.hexPadded 4 v.toNat).length = 4 := by
    rw [← String.length_toList]
    exact Numeral.length_toList_hexPadded_toNat 4 (by decide) v
  have hopcode := standsAt_opcode hw
  rw [h] at hopcode
  have hdigits := hopcode.eq_of_length (standsAt_opcode hw') ((hlength w).trans (hlength w').symm)
  obtain rfl : w = w' := BitVec.eq_of_toNat_eq (Numeral.hexPadded_injective hdigits)
  rw [instruction_eq hw, instruction_eq hw'] at h
  simp only [String.append_right_inj] at h
  exact ⟨rfl, note_injective _ _ h⟩

/-! ### No fault on the panel -/

/-- The message of a fault has one of these letters, and the third line has neither. -/
def IsFaultLetter (c : Char) : Prop := c = 's' ∨ c = 'h'

theorem mem_toList_append {c : Char} {words rest : String} (h : c ∈ words.toList) :
    c ∈ (words ++ rest).toList := by
  rw [String.toList_append]
  exact List.mem_append_left _ h

theorem exists_faultLetter (f : ExecutionFault) : ∃ c, IsFaultLetter c ∧ c ∈ f.message.toList := by
  cases f with
  | stackUnderflow => exact ⟨'s', .inl rfl, by decide⟩
  | stackOverflow depth => exact ⟨'s', .inl rfl, mem_toList_append (by decide)⟩
  | memoryOutOfBounds a => exact ⟨'s', .inl rfl, mem_toList_append (by decide)⟩
  | misalignedJump a => exact ⟨'s', .inl rfl, mem_toList_append (by decide)⟩
  | registerOutOfBounds i => exact ⟨'s', .inl rfl, mem_toList_append (mem_toList_append (by decide))⟩
  | readOnlyMemory a => exact ⟨'h', .inr rfl, mem_toList_append (by decide)⟩

section

variable {c : Char} (hc : IsFaultLetter c)

include hc

theorem notMem_hexAlphabet : c ∉ Numeral.hexAlphabet := by
  rcases hc with rfl | rfl <;> decide

theorem notMem_hexPadded (width n : Nat) : c ∉ (Numeral.hexPadded width n).toList := by
  intro hmem
  exact notMem_hexAlphabet hc (Numeral.mem_toList_hexPadded hmem)

/-- Operands are hexadecimal digits, so the letter would have to come from the mnemonic. -/
theorem notMem_text (d : Decoded) : c ∉ (d.text .hex).toList := by
  have hmnemonics : ∀ op ∈ Op.all,
      's' ∉ op.encoding.mnemonic.toList ∧ 'h' ∉ op.encoding.mnemonic.toList := by
    decide
  obtain ⟨hs, hh⟩ := hmnemonics d.op d.op.mem_all
  have hmnemonic : c ∉ d.op.encoding.mnemonic.toList := by
    rcases hc with rfl | rfl
    · exact hs
    · exact hh
  intro hmem
  have hsign : c ∈ Template.signs (d.text .hex).toList :=
    List.mem_filter.mpr ⟨hmem, by simpa using notMem_hexAlphabet hc⟩
  rw [Decoded.text_eq, Template.signs_written] at hsign
  exact hmnemonic (Op.mem_mnemonic_of_mem_signs hsign)

theorem notMem_message (e : DecodeError) : c ∉ e.message.toList := by
  obtain ⟨w⟩ := e
  have hwords : c ∉ "unknown opcode ".toList := by
    rcases hc with rfl | rfl <;> decide
  rw [DecodeError.message, String.toList_append, List.mem_append, not_or]
  exact ⟨hwords, notMem_hexPadded hc 4 w.toNat⟩

theorem notMem_opcodeText (w : Opcode) : c ∉ (opcodeText w).toList := by
  rw [opcodeText]
  split
  · rename_i text htext
    obtain ⟨d, _, rfl⟩ := disassembleIn_eq_ok_iff.mp htext
    exact notMem_text hc d
  · exact notMem_message hc _

theorem notMem_instruction (hw : s.currentOpcode = .ok w) : c ∉ (instruction s).toList := by
  have hblanks : c ∉ " ".toList ∧ c ∉ "  ".toList := by
    rcases hc with rfl | rfl <;> decide
  have hnote : c ∉ (note s.isWaiting).toList := by
    cases s.isWaiting <;> rcases hc with rfl | rfl <;> decide
  rw [instruction_eq hw]
  simp only [String.toList_append, List.mem_append, not_or]
  exact ⟨hblanks.1, notMem_hexPadded hc 4 w.toNat, ⟨hblanks.2, notMem_opcodeText hc w⟩, hnote⟩

end

/-- A line that tells an opcode shows no fault. -/
theorem not_message_infix (hw : s.currentOpcode = .ok w) (f : ExecutionFault) :
    ¬ f.message.toList <:+: (instruction s).toList := by
  intro hshown
  obtain ⟨c, hc, hmem⟩ := exists_faultLetter f
  exact notMem_instruction hc hw (hshown.subset hmem)

end Status

/-! ### The panel -/

namespace Reachable

open Status

variable {cs : List Config} {s : State}

/-- In every reachable state the first two lines of the panel are 65 characters long. Each value
starts in the column where its heading starts, with as many digits as there is room for, and the
third line tells the opcode and never a fault. The panel is faithful: two reachable states have the
same panel if and only if they have the same registers, program counter, index register, timers and
opcode, and both wait for a key or neither does. -/
theorem panel_aligned_and_faithful (h : Reachable Memory.size cs s) :
    (∃ first second third w, Status.lines s = [first, second, third] ∧
      first.length = 65 ∧ second.length = 65 ∧
      (∀ f : Field, (∀ k, StandsAt f.heading first k ↔ k = f.column) ∧
        StandsAt (f.text s) second f.column ∧ (f.text s).length = f.width) ∧
      (∀ r, (Field.register r).heading.length = 2) ∧
      s.currentOpcode = .ok w ∧ StandsAt (Numeral.hexPadded 4 w.toNat) third 1 ∧
      ∀ f : ExecutionFault, ¬ f.message.toList <:+: third.toList) ∧
    ∀ cs' t, Reachable Memory.size cs' t →
      (Status.lines s = Status.lines t ↔
        s.registers = t.registers ∧ s.pc = t.pc ∧ s.index = t.index ∧ s.delay = t.delay ∧
          s.sound = t.sound ∧ s.currentOpcode = t.currentOpcode ∧ s.isWaiting = t.isWaiting) := by
  have hs := h.sound
  obtain ⟨w, hw⟩ := State.exists_currentOpcode hs
  constructor
  case left =>
    refine ⟨header, values s, instruction s, w, rfl, by decide, length_values hs, ?_, ?_, hw,
      standsAt_opcode hw, not_message_infix hw⟩
    · intro f
      exact ⟨standsAt_heading_iff f, standsAt_text hs f, length_text hs f⟩
    · rintro ⟨i⟩
      revert i
      decide
  case right =>
    intro cs' t h'
    have ht := h'.sound
    constructor
    · intro hlines
      obtain ⟨w', hw'⟩ := State.exists_currentOpcode ht
      simp only [Status.lines, List.cons.injEq, and_true, true_and] at hlines
      obtain ⟨hvalues, hinstruction⟩ := hlines
      have hvalue := value_eq_of_values hs ht hvalues
      obtain ⟨rfl, hwaiting⟩ := eq_of_instruction hw hw' hinstruction
      have hregisters : s.registers = t.registers :=
        Registers.ext_get fun r => BitVec.eq_of_toNat_eq (hvalue (.register r))
      exact ⟨hregisters, hvalue .pc, hvalue .index, BitVec.eq_of_toNat_eq (hvalue .delay),
        BitVec.eq_of_toNat_eq (hvalue .sound), hw.trans hw'.symm, hwaiting⟩
    · rintro ⟨hregisters, hpc, hindex, hdelay, hsound, hopcode, hwaiting⟩
      exact lines_congr hregisters hpc hindex hdelay hsound hopcode hwaiting

/-- A machine that waits at the end of memory, and the same one a step later. -/
theorem panel_aligned_and_faithful_waiting :
    ∃ s t, Reachable Memory.size [{}, {}] s ∧ Reachable Memory.size [{}, {}, {}] t ∧ s ≠ t ∧
      (Status.lines s)[1]? =
        some " 00 00 00 00 00 00 00 00 00 00 00 00 00 00 00 00  FFE  FFF  00 00" ∧
      (Status.lines s)[2]? = some " F50A  LD V5, K  (waiting for key)" ∧
      Status.lines s = Status.lines t ∧
      (∃ second, (Status.lines s)[1]? = some second ∧ second.length = 65 ∧
        StandsAt "FFE" second 50 ∧ StandsAt "FFF" second 55) ∧
      s.currentOpcode = t.currentOpcode ∧ s.isWaiting = t.isWaiting := by
  let program : List Byte := [0xAF, 0xFF, 0xF5, 0x0A]
  let loaded : State :=
    { State.initial with memory := Memory.initial.store 0xFFC program, pc := 0xFFC }
  let indexed : State := { loaded with index := 0xFFF, pc := 0xFFE, phase := 1 }
  let waiting (n : Nat) : State := { indexed with mode := .waiting 5, phase := n }
  have hload : Reachable Memory.size [] loaded :=
    .load (by decide) (State.load_eq_ok_iff.mpr ⟨by decide, by decide, by decide, rfl⟩)
  have hindex : loaded.executing? = some ⟨0xAFFF, .ldI, { nnn := 0xFFF }⟩ :=
    State.executing?_of_stored program 0 0xAFFF rfl (by decide) rfl rfl (by decide) (by decide) rfl
  have hkey : indexed.executing? = some ⟨0xF50A, .ldKey, { x := 5 }⟩ :=
    State.executing?_of_stored program 2 0xF50A rfl (by decide) rfl rfl (by decide) (by decide) rfl
  have hs : Reachable Memory.size [{}, {}] (waiting 2) :=
    (hload.executing hindex {} rfl).executing hkey {} rfl
  have ht : Reachable Memory.size [{}, {}, {}] (waiting 3) := by
    refine .step none (Generator.cycling #[]) hs ?_
    rw [Machine.step_waiting_none rfl]
    rfl
  have hopcode : indexed.currentOpcode = .ok 0xF50A := State.currentOpcode_of_executing hkey
  have hw : (waiting 2).currentOpcode = .ok 0xF50A := hopcode
  have hinstruction : instruction (waiting 2) = " F50A  LD V5, K  (waiting for key)" := by
    rw [instruction_eq hw]
    rfl
  have hchanged : waiting 2 ≠ waiting 3 := fun h => absurd (congrArg State.phase h) (by decide)
  have hsame : Status.lines (waiting 2) = Status.lines (waiting 3) :=
    lines_congr rfl rfl rfl rfl rfl rfl rfl
  have hvalues : values (waiting 2) =
      " 00 00 00 00 00 00 00 00 00 00 00 00 00 00 00 00  FFE  FFF  00 00" := by
    have hshown (s : State) (hregisters : s.registers = .zero) (hpc : s.pc = 0xFFE)
        (hindex : s.index = 0xFFF) (hdelay : s.delay = 0) (hsound : s.sound = 0) : values s =
          " 00 00 00 00 00 00 00 00 00 00 00 00 00 00 00 00  FFE  FFF  00 00" := by
      rw [values, hregisters, hpc, hindex, hdelay, hsound]
      rfl
    exact hshown _ rfl rfl rfl rfl rfl
  obtain ⟨⟨_, second, _, _, hlines, _, hlength, hfields, _⟩, hfaithful⟩ :=
    panel_aligned_and_faithful hs
  have hsecond : (Status.lines (waiting 2))[1]? = some second := congrArg (·[1]?) hlines
  have hpc : StandsAt (Numeral.hexPadded 3 0xFFE) second 50 := (hfields .pc).2.1
  have hindex : StandsAt (Numeral.hexPadded 3 0xFFF) second 55 := (hfields .index).2.1
  obtain ⟨_, _, _, _, _, hopcode, hwaiting⟩ := (hfaithful _ _ ht).mp hsame
  exact ⟨waiting 2, waiting 3, hs, ht, hchanged, congrArg some hvalues, congrArg some hinstruction,
    hsame, ⟨second, hsecond, hlength, hpc, hindex⟩, hopcode, hwaiting⟩

/-- A program loaded past the end of memory would make the second line too long. -/
example : (State.load [] Memory.size).map (fun s => (values s).length) = .ok 66 := by
  rfl

end Reachable

end Chip8
