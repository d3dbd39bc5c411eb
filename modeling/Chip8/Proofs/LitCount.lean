import Chip8.Proofs.Hits
import Mathlib.Algebra.BigOperators.Fin
import Mathlib.Algebra.BigOperators.Ring.Finset
import Mathlib.Algebra.Order.BigOperators.Group.Finset

/-!
# Counting lit pixels

Drawing turns a pixel on for every set bit of the sprite, and off again for every set bit that finds
it lit. What this does to the number of lit pixels is said for one pixel first, by how often the pixel
is hit, and then summed over the picture.
-/

namespace Chip8.Display

/-- The set bits of a sprite, by their row and column. -/
def setBits (sprite : List Byte) : Finset (Nat × Nat) :=
  (Finset.range sprite.length ×ˢ Finset.range 8).filter fun p =>
    (sprite.getD p.1 0#8).getMsbD p.2 = true

/-- The set bits of a sprite that lie on lit pixels. -/
def setBitsOnLit (d : Display) (x y : Byte) (sprite : List Byte) : Finset (Nat × Nat) :=
  (setBits sprite).filter fun p => d.pixel (x.toNat + p.2) (y.toNat + p.1) = true

/-- The column and the row of a pixel. -/
abbrev Place := Fin 64 × Fin 32

/-- Where a bit of a sprite at column `x` and row `y` comes to. -/
def placeOf (x y : Nat) (p : Nat × Nat) : Place := (Fin.ofNat 64 (x + p.2), Fin.ofNat 32 (y + p.1))

variable {x y : Nat} {sprite : List Byte}

/-! ### One pixel -/

section Pixel

variable (lit : Bool) {n : Nat}

theorem toNat_turned_le : (lit ^^ decide (Odd n)).toNat ≤ lit.toNat + n := by
  by_cases hodd : Odd n
  · have hone := Nat.odd_iff.mp hodd
    cases lit <;> simp [hodd]
    omega
  · simp [hodd]

theorem toNat_turned_mod_two : (lit ^^ decide (Odd n)).toNat % 2 = (lit.toNat + n) % 2 := by
  by_cases hodd : Odd n
  · have hone := Nat.odd_iff.mp hodd
    cases lit <;> simp [hodd] <;> omega
  · have hzero := Nat.even_iff.mp (Nat.not_odd_iff_even.mp hodd)
    simp only [hodd, decide_false, Bool.xor_false]
    omega

/-- Every hit adds a lit pixel unless one of them turns the pixel off. -/
theorem toNat_turned_eq_iff :
    (lit ^^ decide (Odd n)).toNat = lit.toNat + n ↔ ¬ TurnsOff lit n := by
  unfold TurnsOff
  by_cases hodd : Odd n
  · have hone := Nat.odd_iff.mp hodd
    cases lit <;> simp [hodd] <;> omega
  · have hzero := Nat.even_iff.mp (Nat.not_odd_iff_even.mp hodd)
    cases lit <;> simp [hodd]
    omega

theorem toNat_turned_of_le_one (hn : n ≤ 1) :
    (lit ^^ decide (Odd n)).toNat + 2 * (if lit = true then n else 0) = lit.toNat + n := by
  obtain rfl | rfl := Nat.le_one_iff_eq_zero_or_eq_one.mp hn <;> cases lit <;> simp

end Pixel

/-! ### The picture -/

theorem count_map_range (f : Nat → Bool) (n : Nat) :
    ((List.range n).map f).count true = ∑ i ∈ Finset.range n, (f i).toNat := by
  induction n with
  | zero => rfl
  | succ n ih =>
    rw [List.range_succ, List.map_append, List.count_append, ih, Finset.sum_range_succ]
    cases hf : f n <;> simp [hf]

theorem litCount_eq_sum (d : Display) : d.litCount = ∑ q : Place, (d.pixel q.1 q.2).toNat := by
  have hrow : ∀ y, (d.pixels y).count true = ∑ x ∈ Finset.range 64, (d.pixel x y).toNat :=
    fun y => count_map_range (fun x => d.pixel x y) 64
  calc d.litCount
    _ = ((List.range 32).map fun y => (d.pixels y).count true).sum := List.count_flatMap
    _ = ∑ y ∈ Finset.range 32, (d.pixels y).count true := rfl
    _ = ∑ y ∈ Finset.range 32, ∑ x ∈ Finset.range 64, (d.pixel x y).toNat := by simp only [hrow]
    _ = ∑ q : Place, (d.pixel q.1 q.2).toNat := by
      simp only [Finset.sum_range, Fintype.sum_prod_type_right]

theorem placeOf_eq_iff {p : Nat × Nat} {q : Place} :
    placeOf x y p = q ↔ (x + p.2) % 64 = q.1 ∧ (y + p.1) % 32 = q.2 := by
  simp only [placeOf, Prod.ext_iff, Fin.ext_iff, Fin.val_ofNat]

theorem hits_eq_card (x y : Nat) (sprite : List Byte) (q : Place) :
    hits x y sprite q.1 q.2 = ((setBits sprite).filter fun p => placeOf x y p = q).card := by
  simp only [hits, setBits, placeOf_eq_iff, Finset.filter_filter]

theorem mapsTo_placeOf (x y : Nat) (bits : Finset (Nat × Nat)) :
    Set.MapsTo (placeOf x y) bits (Finset.univ : Finset Place) := by
  rw [Finset.coe_univ]
  exact Set.mapsTo_univ _ _

/-- Every set bit comes to one pixel. -/
theorem card_setBits (x y : Nat) (sprite : List Byte) :
    (setBits sprite).card = ∑ q : Place, hits x y sprite q.1 q.2 := by
  simp only [hits_eq_card]
  exact Finset.card_eq_sum_card_fiberwise (mapsTo_placeOf x y _)

theorem card_setBitsOnLit (d : Display) (x y : Byte) (sprite : List Byte) :
    (d.setBitsOnLit x y sprite).card =
      ∑ q : Place, if d.pixel q.1 q.2 = true then hits x.toNat y.toNat sprite q.1 q.2 else 0 := by
  rw [Finset.card_eq_sum_card_fiberwise (mapsTo_placeOf x.toNat y.toNat _)]
  apply Finset.sum_congr rfl
  intro q _
  have hpixel (p : Nat × Nat) (hp : placeOf x.toNat y.toNat p = q) :
      d.pixel (x.toNat + p.2) (y.toNat + p.1) = d.pixel q.1 q.2 := by
    rw [placeOf_eq_iff] at hp
    rw [← hp.1, ← hp.2, pixel_mod]
  rw [setBitsOnLit, Finset.filter_filter]
  split
  · rename_i hlit
    rw [hits_eq_card]
    apply congrArg Finset.card
    apply Finset.filter_congr
    intro p _
    exact ⟨fun h => h.2, fun hp => ⟨(hpixel p hp).trans hlit, hp⟩⟩
  · rename_i hunlit
    rw [Finset.card_eq_zero, Finset.filter_eq_empty_iff]
    intro p _ h
    exact hunlit ((hpixel p h.2).symm.trans h.1)

theorem litCount_draw (d : Display) (x y : Byte) (sprite : List Byte) :
    (d.draw x y sprite).1.litCount =
      ∑ q : Place,
        (d.pixel q.1 q.2 ^^ decide (Odd (hits x.toNat y.toNat sprite q.1 q.2))).toNat := by
  rw [litCount_eq_sum]
  apply Finset.sum_congr rfl
  intro q _
  rw [pixel_draw_eq d x y sprite q.1.isLt q.2.isLt]

/-- As many pixels as there would be if every set bit turned one on. -/
theorem litCount_add_card (d : Display) (x y : Nat) (sprite : List Byte) :
    d.litCount + (setBits sprite).card =
      ∑ q : Place, ((d.pixel q.1 q.2).toNat + hits x y sprite q.1 q.2) := by
  rw [litCount_eq_sum, card_setBits x y, Finset.sum_add_distrib]

theorem draw_hit_eq_false_iff (d : Display) (x y : Byte) (sprite : List Byte) :
    (d.draw x y sprite).2 = false ↔
      ∀ q : Place, ¬ TurnsOff (d.pixel q.1 q.2) (hits x.toNat y.toNat sprite q.1 q.2) := by
  rw [← Bool.not_eq_true, draw, drawFrom_turnsOff_iff]
  simp [Fin.forall_iff]

/-- Each set bit of a sprite turns a pixel on or off, so drawing adds at most as many lit pixels as the
sprite has set bits, or fewer by an even number; the flag reports that they were fewer. A sprite that
does not come round turns off the pixels that its set bits find lit. -/
theorem lit_pixels_add_up (d : Display) (x y : Byte) (sprite : List Byte) :
    let before := d.litCount
    let after := (d.draw x y sprite).1.litCount
    let bits := (setBits sprite).card
    after ≤ before + bits ∧ after % 2 = (before + bits) % 2 ∧
      ((d.draw x y sprite).2 = true ↔ after < before + bits) ∧
      (sprite.length ≤ 32 → after + 2 * (d.setBitsOnLit x y sprite).card = before + bits) := by
  intro before after bits
  have hafter : after = _ := litCount_draw d x y sprite
  have hfull : before + bits = _ := litCount_add_card d x.toNat y.toNat sprite
  have hpixels : ∀ q ∈ (Finset.univ : Finset Place), _ ≤ _ := fun q _ =>
    toNat_turned_le (d.pixel q.1 q.2) (n := hits x.toNat y.toNat sprite q.1 q.2)
  have hle : after ≤ before + bits := by
    rw [hafter, hfull]
    exact Finset.sum_le_sum hpixels
  refine ⟨hle, ?parity, ?flag, ?short⟩
  case parity =>
    rw [hafter, hfull, Finset.sum_nat_mod, Finset.sum_nat_mod _ _ fun q => _ + _]
    simp only [toNat_turned_mod_two]
  case flag =>
    have hkept : (d.draw x y sprite).2 = false ↔ after = before + bits := by
      rw [draw_hit_eq_false_iff, hafter, hfull, Finset.sum_eq_sum_iff_of_le hpixels]
      simp only [toNat_turned_eq_iff, Finset.mem_univ, forall_const]
    rw [← Bool.not_eq_false, hkept]
    exact (Nat.lt_iff_le_and_ne.trans (and_iff_right hle)).symm
  case short =>
    intro hlength
    rw [hafter, hfull, card_setBitsOnLit, Finset.mul_sum, ← Finset.sum_add_distrib]
    apply Finset.sum_congr rfl
    intro q _
    exact toNat_turned_of_le_one _ (hits_le_one hlength)

/-- A sprite of 33 rows whose last row turns off the pixel that its first row turned on, and a short one
that finds one of two pixels lit. -/
theorem lit_pixels_add_up_tall :
    let tall := List.replicate 33 0x80#8
    let dot := (blank.draw 63 0 [0x80#8]).1
    (setBits tall).card = 33 ∧ (blank.draw 0 0 tall).1.litCount = 31 ∧
      (blank.draw 0 0 tall).2 = true ∧
      [0xC0#8].length ≤ 32 ∧ (dot.draw 62 0 [0xC0#8]).1.litCount = 1 := by
  intro tall dot
  have hbits : (setBits tall).card = 33 := by decide +kernel
  have hlit : (blank.draw 0 0 tall).1.litCount = 31 := by decide +kernel
  have hblank : blank.litCount = 0 := by decide +kernel
  have hdot : dot.litCount = 1 := by decide +kernel
  have htwo : (setBits [0xC0#8]).card = 2 := by decide +kernel
  have hone : (dot.setBitsOnLit 62 0 [0xC0#8]).card = 1 := by decide +kernel
  have hshort : [0xC0#8].length ≤ 32 := by decide
  obtain ⟨_, _, hflag, _⟩ := lit_pixels_add_up blank 0 0 tall
  have hafter := (lit_pixels_add_up dot 62 0 [0xC0#8]).2.2.2 hshort
  rw [hdot, htwo, hone] at hafter
  refine ⟨hbits, hlit, ?_, hshort, by omega⟩
  rw [hflag, hblank, hbits, hlit]
  decide

end Chip8.Display
