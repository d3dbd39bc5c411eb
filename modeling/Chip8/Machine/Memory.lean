import Chip8.Fault
import Chip8.Font

/-!
# Memory

4096 bytes, of which the lowest hold the font. `byte` is the view that everything else is stated
by: reads past the end see zero, while `read` and `write` refuse them.
-/

namespace Chip8

structure Memory where
  cells : Vector Byte 4096
  deriving DecidableEq, Repr

namespace Memory

def size : Nat := 4096

def zero : Memory := ⟨Vector.replicate 4096 0⟩

def byte (m : Memory) (a : Nat) : Byte := m.cells.getD a 0

/-- An address past the end is ignored. -/
def set (m : Memory) (a : Nat) (b : Byte) : Memory := ⟨m.cells.setIfInBounds a b⟩

/-- Puts `bytes` at consecutive addresses from `a` on. -/
def store (m : Memory) (a : Nat) : List Byte → Memory
  | [] => m
  | b :: bs => (m.set a b).store (a + 1) bs

/-- The `length` bytes from `a` on. -/
def slice (m : Memory) (a length : Nat) : List Byte :=
  (List.range' a length).map m.byte

/-- The opcode whose two bytes lie at `a`. -/
def word (m : Memory) (a : Nat) : Except ExecutionFault Opcode :=
  if a + 2 ≤ size then .ok (Opcode.ofBytes (m.byte a) (m.byte (a + 1)))
  else .error (.memoryOutOfBounds a)

/-- The fault names the last byte asked for. -/
def read (m : Memory) (a length : Nat) : Except ExecutionFault (List Byte) :=
  if a + length ≤ size then .ok (m.slice a length)
  else .error (.memoryOutOfBounds (a + max length 1 - 1))

/-- Writing nothing succeeds anywhere; otherwise the font is protected before the end is looked at. -/
def write (m : Memory) (a : Nat) (bytes : List Byte) : Except ExecutionFault Memory :=
  if bytes.isEmpty then .ok m
  else if a < Font.limit then .error (.readOnlyMemory a)
  else if a + bytes.length ≤ size then .ok (m.store a bytes)
  else .error (.memoryOutOfBounds (a + bytes.length - 1))

/-- Memory of a machine that was just switched on. -/
def initial : Memory := zero.store Font.base Font.glyphs

@[ext] theorem ext_byte {m m' : Memory} (h : ∀ a, a < size → m.byte a = m'.byte a) : m = m' := by
  obtain ⟨cells⟩ := m
  obtain ⟨cells'⟩ := m'
  congr 1
  apply Vector.ext
  intro i hi
  have hb := h i hi
  simpa [byte, Vector.getD, hi] using hb

theorem byte_set (m : Memory) (a i : Nat) (b : Byte) :
    (m.set a b).byte i = if i = a ∧ a < size then b else m.byte i := by
  by_cases hi : i < 4096
  · by_cases ha : a = i
    · subst ha
      simp [byte, set, Vector.getD, size, hi]
    · simp [byte, set, Vector.getD, hi, ha, Ne.symm ha]
  · have : ¬ (i = a ∧ a < size) := by
      rintro ⟨rfl, h⟩
      exact hi h
    simp [byte, set, Vector.getD, hi, this]

theorem byte_store_of_lt (m : Memory) {a i : Nat} (bs : List Byte) (h : i < a) :
    (m.store a bs).byte i = m.byte i := by
  induction bs generalizing m a with
  | nil => rfl
  | cons b bs ih =>
    rw [store, ih _ (by omega), byte_set, if_neg (by omega)]

theorem byte_store_of_ge (m : Memory) {a i : Nat} (bs : List Byte) (h : a + bs.length ≤ i) :
    (m.store a bs).byte i = m.byte i := by
  induction bs generalizing m a with
  | nil => rfl
  | cons b bs ih =>
    simp only [List.length_cons] at h
    rw [store, ih _ (by omega), byte_set, if_neg (by omega)]

theorem byte_store_add (m : Memory) {a i : Nat} (bs : List Byte) (h : i < bs.length)
    (ha : a + i < size) : (m.store a bs).byte (a + i) = bs[i] := by
  induction bs generalizing m a i with
  | nil => simp at h
  | cons b bs ih =>
    cases i with
    | zero =>
      rw [store, byte_store_of_lt _ _ (by omega), byte_set, if_pos ⟨by omega, by omega⟩]
      rfl
    | succ i =>
      have hi : i < bs.length := by simpa using h
      rw [store, show a + (i + 1) = a + 1 + i by omega, ih _ hi (by omega)]
      rfl

theorem word_congr {m m' : Memory} {a : Nat} (hhigh : m'.byte a = m.byte a)
    (hlow : m'.byte (a + 1) = m.byte (a + 1)) : m'.word a = m.word a := by
  rw [word, word, hhigh, hlow]

theorem length_slice (m : Memory) (a length : Nat) : (m.slice a length).length = length := by
  simp [slice]

theorem getElem_slice (m : Memory) (a length i : Nat) (h : i < (m.slice a length).length) :
    (m.slice a length)[i] = m.byte (a + i) := by
  simp [slice]

end Memory

end Chip8
