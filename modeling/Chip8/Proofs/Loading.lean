import Chip8.Proofs.Step

/-!
# Loading

What a load accepts and the state it makes. A program that is loaded leaves the machine in front of
a whole opcode, with one exception: the empty program may be put just past the end of memory.
-/

namespace Chip8

/-- Where an opcode may lie: at an even address, with both of its bytes in memory. -/
def CodeAddress (a : Nat) : Prop := a % 2 = 0 ∧ a + 1 < Memory.size

/-- The opcode after the one at `a`, if it is still in memory. -/
theorem CodeAddress.next {a : Nat} (ha : CodeAddress a) (hroom : a + 3 < Memory.size) :
    CodeAddress (a + 2) := by
  obtain ⟨heven, _⟩ := ha
  exact ⟨by omega, hroom⟩

theorem CodeAddress.eq_last {a : Nat} (ha : CodeAddress a) (hpast : Memory.size ≤ a + 3) :
    a = 0xFFE := by
  obtain ⟨heven, hroom⟩ := ha
  simp only [Memory.size] at hroom hpast
  omega

theorem CodeAddress.room {a : Nat} (ha : CodeAddress a) (hne : a ≠ 0xFFE) : a + 3 < Memory.size :=
  Nat.not_le.mp fun hpast => hne (ha.eq_last hpast)

namespace Memory

theorem exists_word_iff {m : Memory} {a : Nat} : (∃ w, m.word a = .ok w) ↔ a + 1 < size := by
  unfold word
  split
  · rename_i hroom
    simp only [Except.ok.injEq, exists_eq', true_iff]
    omega
  · rename_i hroom
    simp only [reduceCtorEq, exists_const, false_iff]
    omega

/-- A word of a stored image is read back wherever both of its bytes lie in memory. -/
theorem word_store {m : Memory} {a i : Nat} {bytes : List Byte} (hi : i + 1 < bytes.length)
    (ha : a + i + 1 < size) :
    (m.store a bytes).word (a + i) = .ok (Opcode.ofBytes bytes[i] bytes[i + 1]) := by
  have hroom : a + i + 2 ≤ size := by omega
  rw [word, if_pos hroom, byte_store_add m bytes (by omega) (by omega), Nat.add_assoc a i 1,
    byte_store_add m bytes hi (by omega)]

end Memory

namespace State

variable {program : List Byte} {base : Nat} {s : State}

theorem load_eq_ok_iff :
    load program base = .ok s ↔
      programStart ≤ base ∧ base % 2 = 0 ∧ program.length + base ≤ Memory.size ∧
        s = { initial with memory := Memory.initial.store base program, pc := base } := by
  unfold load
  split
  · rename_i hreserved
    simp [Nat.not_le.mpr hreserved]
  · rename_i hstart
    have hle : programStart ≤ base := Nat.not_lt.mp hstart
    split
    · rename_i hodd
      simp [hodd]
    · rename_i heven
      have hzero : base % 2 = 0 := by omega
      split
      · rename_i hover
        simp [Nat.not_le.mpr hover]
      · rename_i hfit
        simp [hle, hzero, Nat.not_lt.mp hfit, eq_comm (a := s)]

theorem opcodeAt_load (h : load program base = .ok s) {i : Nat} (hi : i + 1 < program.length) :
    s.opcodeAt (base + i) = .ok (Opcode.ofBytes program[i] program[i + 1]) := by
  obtain ⟨_, _, hfit, rfl⟩ := load_eq_ok_iff.mp h
  exact Memory.word_store hi (by omega)

/-- As long as an image lies in memory, the machine executes the word of it that it stands on. -/
theorem executing?_of_stored {m : Memory} (bytes : List Byte) (i : Nat) (w : Opcode) {d : Decoded}
    (hmemory : s.memory = m.store base bytes) (hfit : base + bytes.length ≤ Memory.size)
    (hmode : s.mode = .running) (hpc : s.pc = base + i) (hi : i + 1 < bytes.length)
    (hw : Opcode.ofBytes bytes[i] bytes[i + 1] = w) (hd : decode w = .ok d) :
    s.executing? = some d := by
  have hword : s.opcodeAt s.pc = .ok w := by
    rw [opcodeAt, hmemory, hpc, ← hw]
    exact Memory.word_store hi (by omega)
  exact executing?_of_opcodeAt hmode hword hd

theorem codeAddress_of_load (h : load program base = .ok s)
    (hne : ¬ (program = [] ∧ base = Memory.size)) : CodeAddress base := by
  obtain ⟨_, heven, hfit, _⟩ := load_eq_ok_iff.mp h
  have hbase : base ≠ Memory.size := by
    intro hb
    have hlen : program.length = 0 := by omega
    exact hne ⟨List.length_eq_zero_iff.mp hlen, hb⟩
  simp only [CodeAddress, Memory.size] at *
  omega

/-- A load leaves the machine in front of an opcode, and is refused where none fits, unless it puts
the empty program just past the end of memory. -/
theorem load_addressable_iff (program : List Byte) (base : Nat) :
    ((∀ s, load program base = .ok s → CodeAddress s.pc ∧ ∃ w, s.currentOpcode = .ok w) ∧
      (Memory.size ≤ base + 1 → ∃ e, load program base = .error e)) ↔
      ¬ (program = [] ∧ base = Memory.size) := by
  constructor
  · rintro ⟨hload, _⟩ ⟨rfl, rfl⟩
    obtain ⟨⟨_, hroom⟩, _⟩ :=
      hload _ (load_eq_ok_iff.mpr ⟨by decide, by decide, by decide, rfl⟩)
    exact absurd hroom (by decide)
  · intro hne
    refine ⟨?_, ?_⟩
    · intro s hs
      have hcode := codeAddress_of_load hs hne
      obtain ⟨_, _, _, rfl⟩ := load_eq_ok_iff.mp hs
      exact ⟨hcode, Memory.exists_word_iff.mpr hcode.2⟩
    · intro hpast
      cases hl : load program base with
      | error e => exact ⟨e, rfl⟩
      | ok s =>
        have hcode := codeAddress_of_load hl hne
        exact absurd hcode.2 (by omega)

/-- The empty program is accepted just past the end of memory, where there is no opcode. -/
theorem load_nil_at_size :
    ∃ s, load [] Memory.size = .ok s ∧ s.pc = Memory.size ∧ ¬ CodeAddress s.pc ∧
      s.currentOpcode = .error (.memoryOutOfBounds Memory.size) := by
  refine ⟨_, load_eq_ok_iff.mpr ⟨by decide, by decide, by decide, rfl⟩, rfl, ?_, rfl⟩
  rintro ⟨_, hroom⟩
  exact absurd hroom (by decide)

end State

end Chip8
