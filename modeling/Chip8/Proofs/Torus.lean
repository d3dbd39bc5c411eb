import Chip8.Proofs.Hits

/-!
# The picture as a torus

A picture has no edges: turned around in both directions it is drawn on as before, at places turned
along with it. And a sprite is drawn row by row, so that its parts may be drawn one after the other.
-/

namespace Chip8.Display

/-- The picture moved `dx` columns to the right and `dy` rows down, around the edges. -/
def turn (d : Display) (dx dy : Nat) : Display :=
  ⟨Vector.ofFn fun r => (d.row (r + (32 - dy % 32))).rotateRight dx⟩

variable {x y x' y' dx dy : Nat} {sprite : List Byte}

theorem row_congr (d : Display) (h : y % 32 = y' % 32) : d.row y = d.row y' := by
  simp only [row, h]

theorem row_turn (d : Display) (dx dy r : Nat) :
    (d.turn dx dy).row (dy + r) = (d.row r).rotateRight dx := by
  have hrow : d.row ((dy + r) % 32 + (32 - dy % 32)) = d.row r := row_congr d (by omega)
  rw [← hrow]
  simp only [row, turn, Vector.getElem_ofFn]

theorem pixel_turn (d : Display) (dx dy c r : Nat) :
    (d.turn dx dy).pixel (dx + c) (dy + r) = d.pixel c r := by
  have hcolumn : (dx + c) % 64 = (dx + c % 64) % 64 := (Nat.add_mod_mod dx c 64).symm
  rw [pixel, pixel, row_turn, hcolumn, getMsbD_rotateRight_add _ dx (Nat.mod_lt c (by decide))]

/-! ### Turning a drawing -/

/-- Every row is one of the 32 that follow a given one around the edge. -/
theorem exists_row (y : Nat) {r : Nat} (hr : r < 32) : ∃ i < 32, r = (y + i) % 32 :=
  ⟨(r + 32 - y % 32) % 32, by omega, by omega⟩

/-- Going through the pixels may begin anywhere. -/
theorem exists_pixel_turn {P : Nat → Nat → Prop} (dx dy : Nat) :
    (∃ c r, c < 64 ∧ r < 32 ∧ P c r) ↔
      ∃ c r, c < 64 ∧ r < 32 ∧ P ((dx + c) % 64) ((dy + r) % 32) := by
  constructor
  · rintro ⟨c, r, hc, hr, h⟩
    obtain ⟨j, hj, rfl⟩ := exists_column dx hc
    obtain ⟨i, hi, rfl⟩ := exists_row dy hr
    exact ⟨j, i, hj, hi, h⟩
  · rintro ⟨c, r, _, _, h⟩
    exact ⟨_, _, Nat.mod_lt _ (by decide), Nat.mod_lt _ (by decide), h⟩

/-- A sprite that is moved hits the pixels that are moved along. -/
theorem hits_turn (hx : x' % 64 = (dx + x) % 64) (hy : y' % 32 = (dy + y) % 32) {c r : Nat}
    (hc : c < 64) (hr : r < 32) :
    hits x' y' sprite ((dx + c) % 64) ((dy + r) % 32) = hits x y sprite c r := by
  have hcolumn (j : Nat) : (x' + j) % 64 = (dx + c) % 64 ↔ (x + j) % 64 = c := by omega
  have hrow (i : Nat) : (y' + i) % 32 = (dy + r) % 32 ↔ (y + i) % 32 = r := by omega
  simp only [hits, hcolumn, hrow]

theorem draw_turn_pixel (d : Display) (x y x' y' : Byte) (sprite : List Byte)
    (hx : x'.toNat % 64 = (dx + x.toNat) % 64) (hy : y'.toNat % 32 = (dy + y.toNat) % 32) :
    ((d.turn dx dy).draw x' y' sprite).1 = (d.draw x y sprite).1.turn dx dy := by
  ext c r hc hr
  obtain ⟨c, hc', rfl⟩ := exists_column dx hc
  obtain ⟨r, hr', rfl⟩ := exists_row dy hr
  rw [pixel_draw_eq _ x' y' sprite hc hr, hits_turn hx hy hc' hr', pixel_mod, pixel_turn, pixel_mod,
    pixel_turn, pixel_draw_eq d x y sprite hc' hr']

theorem draw_turn_hit (d : Display) (x y x' y' : Byte) (sprite : List Byte)
    (hx : x'.toNat % 64 = (dx + x.toNat) % 64) (hy : y'.toNat % 32 = (dy + y.toNat) % 32) :
    ((d.turn dx dy).draw x' y' sprite).2 = (d.draw x y sprite).2 := by
  rw [Bool.eq_iff_iff, draw, draw, drawFrom_turnsOff_iff, drawFrom_turnsOff_iff,
    exists_pixel_turn dx dy]
  refine or_congr_right (exists_congr fun c => exists_congr fun r => ?_)
  refine and_congr_right fun hc => and_congr_right fun hr => ?_
  rw [hits_turn hx hy hc hr, pixel_mod, pixel_turn]

/-! ### Drawing in parts -/

/-- An earlier hit is reported in any case, and changes nothing in the picture. -/
theorem drawFrom_hit (d : Display) (x : Nat) (hit : Bool) (y : Nat) (sprite : List Byte) :
    d.drawFrom x hit y sprite =
      ((d.drawFrom x false y sprite).1, hit || (d.drawFrom x false y sprite).2) := by
  induction sprite generalizing d hit y with
  | nil => simp [drawFrom]
  | cons bits rest ih =>
    rw [drawFrom, drawFrom, ih, ih _ (false || _), Bool.false_or, Bool.or_assoc]

theorem drawFrom_append (d : Display) (x : Nat) (hit : Bool) (y : Nat) (upper lower : List Byte) :
    d.drawFrom x hit y (upper ++ lower) =
      (d.drawFrom x hit y upper).1.drawFrom x (d.drawFrom x hit y upper).2 (y + upper.length)
        lower := by
  induction upper generalizing d hit y with
  | nil => rfl
  | cons bits rest ih =>
    have hrows : y + (rest.length + 1) = y + 1 + rest.length := by omega
    rw [List.cons_append, drawFrom, ih, drawFrom, List.length_cons, hrows]

/-- Rows are counted around the edge. -/
theorem drawFrom_congr (d : Display) (x : Nat) (hit : Bool) (sprite : List Byte)
    (h : y % 32 = y' % 32) : d.drawFrom x hit y sprite = d.drawFrom x hit y' sprite := by
  induction sprite generalizing d hit y y' with
  | nil => rfl
  | cons bits rest ih =>
    have hnext : (y + 1) % 32 = (y' + 1) % 32 := by omega
    have hrow := row_congr d h
    have hxor : d.xorRow y (spriteRow x bits) = d.xorRow y' (spriteRow x bits) := by
      simp only [xorRow, hrow, h]
    rw [drawFrom, drawFrom, hxor, hrow, ih _ _ hnext]

theorem draw_append (d : Display) (x y : Byte) (upper lower : List Byte) :
    let first := d.draw x y upper
    let second := first.1.draw x (y + BitVec.ofNat 8 upper.length) lower
    d.draw x y (upper ++ lower) = (second.1, first.2 || second.2) := by
  intro first second
  have hrow : (y.toNat + upper.length) % 32 = (y + BitVec.ofNat 8 upper.length).toNat % 32 := by
    rw [BitVec.toNat_add, BitVec.toNat_ofNat]
    omega
  rw [draw, drawFrom_append, drawFrom_congr _ _ _ _ hrow, drawFrom_hit]
  rfl

/-- The picture is a torus. Turning it and moving a sprite by as much turns the drawing and reports the
same, and a sprite in two parts is drawn part by part, the lower one as many rows further down as the
upper one has, with a hit reported if either part reports one. -/
theorem draws_on_torus (d : Display) (x y dx dy : Byte) (sprite : List Byte) :
    let turned (e : Display) := e.turn (dx.toNat % 64) (dy.toNat % 32)
    (∀ c r, (turned d).pixel (c + dx.toNat) (r + dy.toNat) = d.pixel c r) ∧
    (turned d).draw (x + dx) (y + dy) sprite =
      (turned (d.draw x y sprite).1, (d.draw x y sprite).2) ∧
    ∀ upper lower,
      let first := d.draw x y upper
      let second := first.1.draw x (y + BitVec.ofNat 8 upper.length) lower
      d.draw x y (upper ++ lower) = (second.1, first.2 || second.2) := by
  intro turned
  have hx : (x + dx).toNat % 64 = (dx.toNat % 64 + x.toNat) % 64 := by
    rw [BitVec.toNat_add]
    omega
  have hy : (y + dy).toNat % 32 = (dy.toNat % 32 + y.toNat) % 32 := by
    rw [BitVec.toNat_add]
    omega
  refine ⟨?_, ?_, fun upper lower => draw_append d x y upper lower⟩
  · intro c r
    have hcolumn : (c + dx.toNat) % 64 = (dx.toNat % 64 + c) % 64 := by omega
    have hrow : (r + dy.toNat) % 32 = (dy.toNat % 32 + r) % 32 := by omega
    rw [← pixel_mod, hcolumn, hrow, pixel_mod, pixel_turn]
  · exact Prod.ext (draw_turn_pixel d x y _ _ sprite hx hy) (draw_turn_hit d x y _ _ sprite hx hy)

end Chip8.Display
