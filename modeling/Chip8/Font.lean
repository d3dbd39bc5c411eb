import Chip8.Word

/-!
# Font

Sixteen glyphs of five rows, one for each hexadecimal digit, lie in the lowest memory. Programs can
read them but never write over them.
-/

namespace Chip8.Font

def base : Nat := 0x000

def glyphSize : Nat := 5

def glyphs : List Byte :=
  [0xF0, 0x90, 0x90, 0x90, 0xF0, -- 0
   0x20, 0x60, 0x20, 0x20, 0x70, -- 1
   0xF0, 0x10, 0xF0, 0x80, 0xF0, -- 2
   0xF0, 0x10, 0xF0, 0x10, 0xF0, -- 3
   0x90, 0x90, 0xF0, 0x10, 0x10, -- 4
   0xF0, 0x80, 0xF0, 0x10, 0xF0, -- 5
   0xF0, 0x80, 0xF0, 0x90, 0xF0, -- 6
   0xF0, 0x10, 0x20, 0x40, 0x40, -- 7
   0xF0, 0x90, 0xF0, 0x90, 0xF0, -- 8
   0xF0, 0x90, 0xF0, 0x10, 0xF0, -- 9
   0xF0, 0x90, 0xF0, 0x90, 0x90, -- A
   0xE0, 0x90, 0xE0, 0x90, 0xE0, -- B
   0xF0, 0x80, 0x80, 0x80, 0xF0, -- C
   0xE0, 0x90, 0x90, 0x90, 0xE0, -- D
   0xF0, 0x80, 0xF0, 0x80, 0xF0, -- E
   0xF0, 0x80, 0xF0, 0x80, 0x80] -- F

/-- The first address that programs may write to. -/
def limit : Nat := base + glyphs.length

/-- Only the sixteen digits have a glyph. -/
def glyphAddress? (digit : Byte) : Option Nat :=
  if digit.toNat < 16 then some (base + digit.toNat * glyphSize) else none

theorem limit_eq : limit = 0x50 := rfl

theorem glyphAddress?_lt {digit : Byte} {a : Nat} (h : glyphAddress? digit = some a) :
    a + glyphSize ≤ limit := by
  simp only [glyphAddress?, Option.ite_none_right_eq_some] at h
  obtain ⟨hd, ha⟩ := h
  cases ha
  simp only [base, glyphSize, limit_eq]
  omega

end Chip8.Font
