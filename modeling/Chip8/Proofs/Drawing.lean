import Chip8.Machine.Display

/-!
# Drawing

Drawing adds a sprite to the picture by exclusive or, row by row. What a row receives depends only on
the sprite and its place (`Display.cover`), so drawing again takes it away.
-/

namespace Chip8.Display

theorem ext_row {d d' : Display} (h : ∀ r, d.row r = d'.row r) : d = d' := by
  ext c r _ _
  rw [pixel, pixel, h r]

/-! ### What a sprite covers -/

/-- Every column is one of the 64 that follow a given one around the edge. -/
theorem exists_column (x : Nat) {c : Nat} (hc : c < 64) : ∃ j < 64, c = (x + j) % 64 :=
  ⟨(c + 64 - x % 64) % 64, by omega, by omega⟩

/-- What a sprite at column `x`, from row `y` on, adds to row `r`. A tall sprite comes round to a row
again. -/
def cover (x : Nat) : Nat → List Byte → Nat → Row
  | _, [], _ => 0#64
  | y, bits :: rest, r =>
    (if r % 32 = y % 32 then spriteRow x bits else 0#64) ^^^ cover x (y + 1) rest r

/-! ### The picture -/

variable {x y : Nat}

theorem row_drawFrom (d : Display) (hit : Bool) (sprite : List Byte) (r : Nat) :
    (d.drawFrom x hit y sprite).1.row r = d.row r ^^^ cover x y sprite r := by
  induction sprite generalizing d hit y with
  | nil => exact BitVec.xor_zero.symm
  | cons bits rest ih =>
    rw [drawFrom, ih, row_xorRow, cover]
    split
    · rw [BitVec.xor_assoc]
    · rw [BitVec.zero_xor]

/-- Drawing a sprite again restores the picture, however tall the sprite is. -/
theorem draw_draw (d : Display) (x y : Byte) (sprite : List Byte) :
    ((d.draw x y sprite).1.draw x y sprite).1 = d := by
  apply ext_row
  intro r
  rw [draw, draw, row_drawFrom, row_drawFrom, BitVec.xor_assoc, BitVec.xor_self, BitVec.xor_zero]

/-! ### Sprites and lit pixels -/

/-- Some set bit of the sprite lies on a pixel that is lit, or, for `false`, on one that is not. -/
def Meets (d : Display) (x y : Byte) (sprite : List Byte) (lit : Bool) : Prop :=
  ∃ i < sprite.length, ∃ j < 8,
    (sprite.getD i 0#8).getMsbD j = true ∧ d.pixel (x.toNat + j) (y.toNat + i) = lit

variable {sprite : List Byte}

theorem exists_getMsbD_of_ne_zero {n : Nat} {w : BitVec n} (h : w ≠ 0#n) :
    ∃ i < n, w.getMsbD i = true := by
  refine Classical.byContradiction fun hnone => h ?_
  apply BitVec.eq_of_getMsbD_eq
  intro i hi
  rw [BitVec.getMsbD_zero]
  exact Bool.eq_false_iff.mpr fun hbit => hnone ⟨i, hi, hbit⟩

/-- A set bit of a sprite lies on some pixel, lit or not. -/
theorem meets_of_mem {bits : Byte} (hmem : bits ∈ sprite) (hbits : bits ≠ 0#8) (d : Display)
    (x y : Byte) : d.Meets x y sprite true ∨ d.Meets x y sprite false := by
  obtain ⟨i, hi, rfl⟩ := List.mem_iff_getElem.mp hmem
  obtain ⟨j, hj, hbit⟩ := exists_getMsbD_of_ne_zero hbits
  have hrow : sprite.getD i 0#8 = sprite[i] := by
    rw [List.getD_eq_getElem?_getD, List.getElem?_eq_getElem hi, Option.getD_some]
  rw [← hrow] at hbit
  cases hlit : d.pixel (x.toNat + j) (y.toNat + i) with
  | true => exact .inl ⟨i, hi, j, hj, hbit, hlit⟩
  | false => exact .inr ⟨i, hi, j, hj, hbit, hlit⟩

/-- There is nothing to be met on an empty picture. -/
theorem not_meets_blank (x y : Byte) (sprite : List Byte) :
    ¬ blank.Meets x y sprite true := by
  rintro ⟨i, _, j, _, _, hlit⟩
  simp [pixel, row, blank] at hlit

end Chip8.Display
