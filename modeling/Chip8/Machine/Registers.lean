import Chip8.Word

/-!
# Registers

Sixteen bytes, V0 to VF. Arithmetic and drawing report through VF, the flag.
-/

namespace Chip8

structure Registers where
  values : Vector Byte 16
  deriving DecidableEq, Repr

namespace Registers

def count : Nat := 16

def flagRegister : Nibble := 0xF

def zero : Registers := ⟨Vector.replicate 16 0⟩

def get (v : Registers) (r : Nibble) : Byte := v.values[r.toNat]

def set (v : Registers) (r : Nibble) (b : Byte) : Registers := ⟨v.values.set r.toNat b⟩

def setFlag (v : Registers) (flag : Bool) : Registers := v.set flagRegister (if flag then 1 else 0)

def toList (v : Registers) : List Byte := v.values.toList

/-- V0, V1 and so on take the bytes of a list in turn, the registers after them keep theirs. -/
def fill (v : Registers) (bytes : List Byte) : Registers :=
  ⟨Vector.ofFn fun i => bytes[i.val]?.getD v.values[i]⟩

@[ext] theorem ext_get {v v' : Registers} (h : ∀ r, v.get r = v'.get r) : v = v' := by
  obtain ⟨values⟩ := v
  obtain ⟨values'⟩ := v'
  congr 1
  apply Vector.ext
  intro i hi
  have hr := h (BitVec.ofNat 4 i)
  simpa [get, Nat.mod_eq_of_lt hi] using hr

theorem get_set (v : Registers) (r r' : Nibble) (b : Byte) :
    (v.set r b).get r' = if r' = r then b else v.get r' := by
  by_cases h : r' = r
  · subst h
    simp [get, set]
  · have hn : r.toNat ≠ r'.toNat := fun he => h (BitVec.eq_of_toNat_eq he.symm)
    simp [get, set, h, hn]

theorem get_setFlag (v : Registers) (flag : Bool) (r : Nibble) :
    (v.setFlag flag).get r = if r = flagRegister then (if flag then 1 else 0) else v.get r :=
  get_set v flagRegister r _

theorem flag_eq_one_iff (v : Registers) (flag : Bool) :
    (v.setFlag flag).get flagRegister = 1 ↔ flag = true := by
  rw [get_setFlag, if_pos rfl]
  cases flag <;> decide

theorem flag_eq_zero_iff (v : Registers) (flag : Bool) :
    (v.setFlag flag).get flagRegister = 0 ↔ ¬ flag = true := by
  rw [get_setFlag, if_pos rfl]
  cases flag <;> decide

theorem get_fill (v : Registers) (bytes : List Byte) (r : Nibble) :
    (v.fill bytes).get r = bytes[r.toNat]?.getD (v.get r) := by
  simp [get, fill]

theorem length_toList (v : Registers) : v.toList.length = 16 := by
  simp [toList]

theorem getElem?_toList (v : Registers) (r : Nibble) : v.toList[r.toNat]? = some (v.get r) := by
  simp [toList, get]

end Registers

end Chip8
