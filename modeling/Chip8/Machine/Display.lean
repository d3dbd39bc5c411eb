import Chip8.Word

/-!
# Display

A picture of 64 by 32 pixels that wraps around at its edges. Each row is one word whose most
significant bit is the leftmost pixel, so that drawing a row of a sprite is an exclusive or.
-/

namespace Chip8

abbrev Row := BitVec 64

structure Display where
  rows : Vector Row 32
  deriving DecidableEq, Repr

namespace Display

def width : Nat := 64

def height : Nat := 32

def blank : Display := ⟨Vector.replicate 32 0⟩

def row (d : Display) (y : Nat) : Row := d.rows[y % 32]

/-- Any coordinates address a pixel. -/
def pixel (d : Display) (x y : Nat) : Bool := (d.row y).getMsbD (x % 64)

/-- A row from left to right. -/
def pixels (d : Display) (y : Nat) : List Bool := (List.range width).map fun x => d.pixel x y

def litCount (d : Display) : Nat := ((List.range height).flatMap d.pixels).count true

/-- Eight sprite bits whose leftmost lies in column `x`. -/
def spriteRow (x : Nat) (bits : Byte) : Row := (bits ++ 0#56).rotateRight x

def xorRow (d : Display) (y : Nat) (mask : Row) : Display :=
  ⟨d.rows.set (y % 32) (d.row y ^^^ mask)⟩

/-- Draws the remaining rows of a sprite from row `y` on; `hit` says whether an earlier one turned a
lit pixel off. -/
def drawFrom (d : Display) (x : Nat) (hit : Bool) : Nat → List Byte → Display × Bool
  | _, [] => (d, hit)
  | y, bits :: rest =>
    let mask := spriteRow x bits
    (d.xorRow y mask).drawFrom x (hit || d.row y &&& mask != 0) (y + 1) rest

/-- Inverts the pixels that the sprite covers, one byte to a row, and says whether a lit pixel was
turned off. -/
def draw (d : Display) (x y : Byte) (sprite : List Byte) : Display × Bool :=
  d.drawFrom x.toNat false y.toNat sprite

@[ext] theorem ext_pixel {d d' : Display}
    (h : ∀ x y, x < width → y < height → d.pixel x y = d'.pixel x y) : d = d' := by
  obtain ⟨rows⟩ := d
  obtain ⟨rows'⟩ := d'
  congr 1
  apply Vector.ext
  intro y hy
  apply BitVec.eq_of_getMsbD_eq
  intro x hx
  have hp := h x y hx hy
  simpa [pixel, row, Nat.mod_eq_of_lt hx, Nat.mod_eq_of_lt hy] using hp

theorem row_xorRow (d : Display) (y y' : Nat) (mask : Row) :
    (d.xorRow y mask).row y' = if y' % 32 = y % 32 then d.row y' ^^^ mask else d.row y' := by
  by_cases h : y' % 32 = y % 32
  · simp [xorRow, row, h]
  · have h' : ¬ y % 32 = y' % 32 := fun he => h he.symm
    simp [xorRow, row, h, h']

/-- The bit `j` of a rotated row lies `n` columns to the right of where it was, counted around the edge. -/
theorem getMsbD_rotateRight_add (v : Row) (n : Nat) {j : Nat} (hj : j < 64) :
    (v.rotateRight n).getMsbD ((n + j) % 64) = v.getMsbD j := by
  have hmod : (n + j) % 64 < 64 := Nat.mod_lt _ (by decide)
  simp only [BitVec.getMsbD_rotateRight, hmod, decide_true, Bool.true_and]
  split
  · rename_i hlt
    have hidx : (64 + (n + j) % 64 - n % 64) % 64 = j := by omega
    rw [hidx]
  · rename_i hge
    have hidx : (n + j) % 64 - n % 64 = j := by omega
    rw [hidx]

/-- The sprite bit `j` lies in column `x + j`, counted around the edge; a sprite has no bits there from
the ninth on. -/
theorem getMsbD_spriteRow (x j : Nat) (bits : Byte) (hj : j < 64) :
    (spriteRow x bits).getMsbD ((x + j) % 64) = bits.getMsbD j := by
  have hbit : (bits ++ 0#56).getMsbD j = bits.getMsbD j := by
    rw [BitVec.getMsbD_append]
    split
    · rename_i hpast
      rw [BitVec.getMsbD_zero, BitVec.getMsbD_of_ge bits j hpast]
    · rfl
  rw [spriteRow, getMsbD_rotateRight_add _ x hj, hbit]

end Display

end Chip8
