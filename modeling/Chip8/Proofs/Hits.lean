import Chip8.Proofs.Drawing
import Mathlib.Algebra.BigOperators.Intervals
import Mathlib.Algebra.Ring.Parity

/-!
# Hits

A tall sprite comes round to pixels that it has hit already. What drawing does to a pixel depends on
how often the pixel is hit: every hit turns it over, and a hit turns it off if it was lit, or was lit
by an earlier hit. A sprite of at most 32 rows hits each pixel at most once, so its flag says whether a
bit of it lies on a pixel that was lit before.
-/

namespace Chip8.Display

/-- How many set bits of a sprite at column `x` and row `y` come to the pixel in column `c` and row
`r`. -/
def hits (x y : Nat) (sprite : List Byte) (c r : Nat) : Nat :=
  ((Finset.range sprite.length ×ˢ Finset.range 8).filter fun p =>
    (sprite.getD p.1 0#8).getMsbD p.2 = true ∧ (x + p.2) % 64 = c ∧ (y + p.1) % 32 = r).card

/-- Whether one row of a sprite comes to a pixel. -/
def rowHits (x y : Nat) (bits : Byte) (c r : Nat) : Bool :=
  decide (r = y % 32) && (spriteRow x bits).getMsbD c

/-- Some one of so many hits finds the pixel lit. -/
def TurnsOff (lit : Bool) (n : Nat) : Prop := lit = true ∧ 1 ≤ n ∨ lit = false ∧ 2 ≤ n

variable {x y c r : Nat} {bits : Byte} {sprite rest : List Byte} {d : Display}

/-! ### Counting hits -/

theorem hits_nil (x y c r : Nat) : hits x y [] c r = 0 := rfl

/-- A row of a sprite has only one bit for each column. -/
theorem sum_rowHits (hc : c < 64) :
    (∑ j ∈ Finset.range 8,
      if bits.getMsbD j = true ∧ (x + j) % 64 = c ∧ y % 32 = r then 1 else 0) =
      (rowHits x y bits c r).toNat := by
  obtain ⟨k, hk, rfl⟩ := exists_column x hc
  have hothers : ∀ j ∈ Finset.range 8, j ≠ k →
      (if bits.getMsbD j = true ∧ (x + j) % 64 = (x + k) % 64 ∧ y % 32 = r then 1 else 0) = 0 := by
    intro j hj hne
    rw [Finset.mem_range] at hj
    rw [if_neg]
    rintro ⟨_, hcolumn, _⟩
    omega
  have houtside : k ∉ Finset.range 8 →
      (if bits.getMsbD k = true ∧ (x + k) % 64 = (x + k) % 64 ∧ y % 32 = r then 1 else 0) = 0 := by
    intro hpast
    rw [Finset.mem_range, Nat.not_lt] at hpast
    rw [BitVec.getMsbD_of_ge bits k hpast]
    rfl
  rw [Finset.sum_eq_single k hothers houtside, rowHits, getMsbD_spriteRow x k bits hk]
  by_cases hrow : r = y % 32 <;> cases bits.getMsbD k <;> simp [hrow, eq_comm]

/-- The rows of a sprite come to a pixel one by one. -/
theorem hits_eq_sum (hc : c < 64) :
    hits x y sprite c r =
      ∑ i ∈ Finset.range sprite.length, (rowHits x (y + i) (sprite.getD i 0#8) c r).toNat := by
  simp only [hits, Finset.card_filter, Finset.sum_product, sum_rowHits hc]

theorem hits_cons (hc : c < 64) :
    hits x y (bits :: rest) c r = hits x (y + 1) rest c r + (rowHits x y bits c r).toNat := by
  rw [hits_eq_sum hc, hits_eq_sum hc, List.length_cons, Finset.sum_range_succ']
  simp only [List.getD_cons_succ, List.getD_cons_zero, Nat.add_zero, Nat.add_assoc, Nat.add_comm 1]

/-! ### The picture -/

theorem odd_add_toNat (n : Nat) (hit : Bool) :
    decide (Odd (n + hit.toNat)) = (hit ^^ decide (Odd n)) := by
  cases hit
  · simp
  · rw [Bool.toNat_true, Bool.true_xor, ← decide_not, decide_eq_decide, Nat.odd_add_one]

theorem getMsbD_cover (hc : c < 64) (hr : r < 32) :
    (cover x y sprite r).getMsbD c = decide (Odd (hits x y sprite c r)) := by
  induction sprite generalizing y with
  | nil => simp [cover, hits_nil]
  | cons bits rest ih =>
    have hrow : (if r % 32 = y % 32 then spriteRow x bits else 0#64).getMsbD c =
        rowHits x y bits c r := by
      rw [rowHits, Nat.mod_eq_of_lt hr]
      by_cases hrow : r = y % 32 <;> simp [hrow]
    rw [cover, BitVec.getMsbD_xor, ih, hits_cons hc, hrow, odd_add_toNat]

theorem pixel_of_lt (d : Display) (hc : c < 64) (r : Nat) : d.pixel c r = (d.row r).getMsbD c := by
  rw [pixel, Nat.mod_eq_of_lt hc]

theorem pixel_draw_eq (d : Display) (x y : Byte) (sprite : List Byte) (hc : c < 64) (hr : r < 32) :
    (d.draw x y sprite).1.pixel c r =
      (d.pixel c r ^^ decide (Odd (hits x.toNat y.toNat sprite c r))) := by
  rw [draw, pixel_of_lt _ hc, row_drawFrom, BitVec.getMsbD_xor, getMsbD_cover hc hr,
    pixel_of_lt d hc]

theorem pixel_xorRow (d : Display) (x y : Nat) (bits : Byte) (hc : c < 64) (hr : r < 32) :
    (d.xorRow y (spriteRow x bits)).pixel c r = (d.pixel c r ^^ rowHits x y bits c r) := by
  rw [pixel_of_lt _ hc, pixel_of_lt _ hc, row_xorRow, rowHits, Nat.mod_eq_of_lt hr]
  by_cases hrow : r = y % 32 <;> simp [hrow]

/-! ### The flag -/

theorem not_turnsOff_zero (lit : Bool) : ¬ TurnsOff lit 0 := by
  simp [TurnsOff]

/-- The first row of a sprite turns the pixel off, or one of the others does. -/
theorem turnsOff_add (lit hit : Bool) (n : Nat) :
    TurnsOff lit (n + hit.toNat) ↔ (lit = true ∧ hit = true) ∨ TurnsOff (lit ^^ hit) n := by
  cases lit <;> cases hit <;> simp [TurnsOff]

theorem row_and_ne_zero_iff {v w : Row} :
    v &&& w ≠ 0#64 ↔ ∃ c < 64, v.getMsbD c = true ∧ w.getMsbD c = true := by
  constructor
  · intro hne
    obtain ⟨c, hc, hbit⟩ := exists_getMsbD_of_ne_zero hne
    rw [BitVec.getMsbD_and, Bool.and_eq_true] at hbit
    exact ⟨c, hc, hbit⟩
  · rintro ⟨c, _, hv, hw⟩ hzero
    have hbit : (v &&& w).getMsbD c = true := by rw [BitVec.getMsbD_and, hv, hw]; rfl
    rw [hzero, BitVec.getMsbD_zero] at hbit
    cases hbit

theorem row_and_spriteRow_ne_zero_iff_rowHits :
    d.row y &&& spriteRow x bits ≠ 0#64 ↔
      ∃ c r, c < 64 ∧ r < 32 ∧ d.pixel c r = true ∧ rowHits x y bits c r = true := by
  have hrow : d.row (y % 32) = d.row y := by simp only [row, Nat.mod_mod]
  rw [row_and_ne_zero_iff]
  constructor
  · rintro ⟨c, hc, hlit, hbit⟩
    refine ⟨c, y % 32, hc, Nat.mod_lt _ (by decide), ?_, ?_⟩
    · rw [pixel_of_lt d hc, hrow, hlit]
    · rw [rowHits, hbit, decide_eq_true rfl, Bool.and_self]
  · rintro ⟨c, r, hc, _, hlit, hhit⟩
    rw [rowHits, Bool.and_eq_true, decide_eq_true_iff] at hhit
    obtain ⟨rfl, hbit⟩ := hhit
    rw [pixel_of_lt d hc, hrow] at hlit
    exact ⟨c, hc, hlit, hbit⟩

theorem drawFrom_turnsOff_iff (d : Display) (hit : Bool) :
    (d.drawFrom x hit y sprite).2 = true ↔
      hit = true ∨
        ∃ c r, c < 64 ∧ r < 32 ∧ TurnsOff (d.pixel c r) (hits x y sprite c r) := by
  induction sprite generalizing d hit y with
  | nil => simp [drawFrom, hits_nil, not_turnsOff_zero]
  | cons bits rest ih =>
    have hpixel : (∃ c r, c < 64 ∧ r < 32 ∧ TurnsOff (d.pixel c r) (hits x y (bits :: rest) c r)) ↔
        ∃ c r, (c < 64 ∧ r < 32 ∧ d.pixel c r = true ∧ rowHits x y bits c r = true) ∨
          (c < 64 ∧ r < 32 ∧ TurnsOff ((d.xorRow y (spriteRow x bits)).pixel c r)
            (hits x (y + 1) rest c r)) := by
      refine exists_congr fun c => exists_congr fun r => ?_
      rw [← and_or_left, ← and_or_left]
      refine and_congr_right fun hc => and_congr_right fun hr => ?_
      rw [hits_cons hc, turnsOff_add, pixel_xorRow d x y bits hc hr]
    rw [drawFrom, ih, hpixel]
    simp only [exists_or]
    rw [← row_and_spriteRow_ne_zero_iff_rowHits, Bool.or_eq_true, bne_iff_ne, or_assoc]
    rfl

/-! ### Sprites that do not come round -/

theorem pixel_mod (d : Display) (x y : Nat) : d.pixel (x % 64) (y % 32) = d.pixel x y := by
  simp only [pixel, row, Nat.mod_mod]

theorem hits_pos_iff :
    0 < hits x y sprite c r ↔
      ∃ i < sprite.length, ∃ j < 8, (sprite.getD i 0#8).getMsbD j = true ∧ (x + j) % 64 = c ∧
        (y + i) % 32 = r := by
  simp only [hits, Finset.card_pos, Finset.Nonempty, Finset.mem_filter, Finset.mem_product,
    Finset.mem_range, Prod.exists, and_assoc, exists_and_left]

theorem meets_iff (d : Display) (x y : Byte) (sprite : List Byte) (lit : Bool) :
    d.Meets x y sprite lit ↔
      ∃ c r, c < 64 ∧ r < 32 ∧ d.pixel c r = lit ∧ 0 < hits x.toNat y.toNat sprite c r := by
  constructor
  · rintro ⟨i, hi, j, hj, hbit, hlit⟩
    refine ⟨(x.toNat + j) % 64, (y.toNat + i) % 32, Nat.mod_lt _ (by decide),
      Nat.mod_lt _ (by decide), ?_, ?_⟩
    · rw [pixel_mod, hlit]
    · exact hits_pos_iff.mpr ⟨i, hi, j, hj, hbit, rfl, rfl⟩
  · rintro ⟨c, r, _, _, hlit, hhit⟩
    obtain ⟨i, hi, j, hj, hbit, rfl, rfl⟩ := hits_pos_iff.mp hhit
    rw [pixel_mod] at hlit
    exact ⟨i, hi, j, hj, hbit, hlit⟩

/-- Different bits of a sprite of at most 32 rows lie on different pixels. -/
theorem hits_le_one (hlength : sprite.length ≤ 32) : hits x y sprite c r ≤ 1 := by
  rw [hits, Finset.card_le_one]
  rintro ⟨i, j⟩ hp ⟨i', j'⟩ hp'
  simp only [Finset.mem_filter, Finset.mem_product, Finset.mem_range] at hp hp'
  obtain ⟨⟨hi, hj⟩, _, hcolumn, hrow⟩ := hp
  obtain ⟨⟨hi', hj'⟩, _, hcolumn', hrow'⟩ := hp'
  have hsame : i = i' ∧ j = j' := by omega
  rw [hsame.1, hsame.2]

theorem draw_hit_iff (hlength : sprite.length ≤ 32) (d : Display) (x y : Byte) :
    (d.draw x y sprite).2 = true ↔ d.Meets x y sprite true := by
  have honce (lit : Bool) {n : Nat} (hn : n ≤ 1) : TurnsOff lit n ↔ lit = true ∧ 0 < n := by
    cases lit with
    | true => simp [TurnsOff, Nat.one_le_iff_ne_zero, Nat.pos_iff_ne_zero]
    | false =>
      simp only [TurnsOff, Bool.false_eq_true, false_and, false_or, true_and, iff_false]
      omega
  simp only [draw, drawFrom_turnsOff_iff, Bool.false_eq_true, false_or, meets_iff,
    honce _ (hits_le_one hlength)]

/-- The bits that lie on lit pixels before are those that lie on unlit ones afterwards. -/
theorem meets_draw (hlength : sprite.length ≤ 32) (d : Display) (x y : Byte) (lit : Bool) :
    (d.draw x y sprite).1.Meets x y sprite lit ↔ d.Meets x y sprite (!lit) := by
  rw [meets_iff, meets_iff]
  refine exists_congr fun c => exists_congr fun r => and_congr_right fun hc => ?_
  refine and_congr_right fun hr => and_congr_left fun hhit => ?_
  have hone : hits x.toNat y.toNat sprite c r = 1 := Nat.le_antisymm (hits_le_one hlength) hhit
  rw [pixel_draw_eq d x y sprite hc hr, hone, decide_eq_true odd_one, Bool.xor_true,
    Bool.not_eq_eq_eq_not]

/-- The second of two drawings finds lit what the first one found unlit. -/
theorem draw_draw_hit_iff (hlength : sprite.length ≤ 32) (d : Display) (x y : Byte) :
    ((d.draw x y sprite).1.draw x y sprite).2 = true ↔ d.Meets x y sprite false := by
  rw [draw_hit_iff hlength, meets_draw hlength]
  rfl

/-- Drawing turns a pixel over if it is hit an odd number of times. It reports a pixel that was turned
off, which was lit and is hit, or was not lit and is hit twice; for a sprite that does not come round,
some set bit of it lay on a pixel that was lit. -/
theorem draw_by_hits (d : Display) (x y : Byte) (sprite : List Byte) :
    (∀ c r, c < 64 → r < 32 →
      (d.draw x y sprite).1.pixel c r =
        (d.pixel c r ^^ decide (Odd (hits x.toNat y.toNat sprite c r)))) ∧
    ((d.draw x y sprite).2 = true ↔
      ∃ c r, c < 64 ∧ r < 32 ∧
        (d.pixel c r = true ∧ 1 ≤ hits x.toNat y.toNat sprite c r ∨
          d.pixel c r = false ∧ 2 ≤ hits x.toNat y.toNat sprite c r)) ∧
    (sprite.length ≤ 32 → ((d.draw x y sprite).2 = true ↔ d.Meets x y sprite true)) := by
  refine ⟨fun c r hc hr => pixel_draw_eq d x y sprite hc hr, ?_,
    fun hlength => draw_hit_iff hlength d x y⟩
  rw [draw, drawFrom_turnsOff_iff]
  simp only [Bool.false_eq_true, false_or]
  rfl

/-- A sprite of 33 rows comes back to the pixel that it begins with. A short one around both edges of
an empty picture turns nothing off. -/
theorem draw_by_hits_tall :
    let tall := List.replicate 33 0x80#8
    let short := [0xF0#8, 0x80#8]
    hits 0 0 tall 0 0 = 2 ∧ (blank.draw 0 0 tall).1.pixel 0 0 = false ∧
      (blank.draw 0 0 tall).2 = true ∧ short.length ≤ 32 ∧ (blank.draw 62 31 short).2 = false := by
  intro tall short
  have htwice : hits 0 0 tall 0 0 = 2 := by decide +kernel
  have hunlit : blank.pixel 0 0 = false := by decide
  have hshort : short.length ≤ 32 := by decide
  obtain ⟨hpixel, hflag, _⟩ := draw_by_hits blank 0 0 tall
  refine ⟨htwice, ?_, ?_, hshort, ?_⟩
  · have heven : ¬ Odd (hits 0 0 tall 0 0) := by
      rw [htwice]
      decide
    rw [hpixel 0 0 (by decide) (by decide), hunlit, Bool.false_xor]
    exact decide_eq_false heven
  · exact hflag.mpr ⟨0, 0, by decide, by decide, .inr ⟨hunlit, htwice.ge⟩⟩
  · rw [Bool.eq_false_iff]
    exact mt ((draw_by_hits blank 62 31 short).2.2 hshort).mp (not_meets_blank _ _ _)

end Chip8.Display
