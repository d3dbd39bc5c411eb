import Chip8.Proofs.Drawing
import Mathlib.Algebra.Ring.Parity

/-!
# The order of drawings

Every drawing adds to each row of the picture what its sprite covers there, by exclusive or. So the
order of drawings does not matter to the picture, and two of the same undo each other wherever they
stand. Only the flags tell in which order sprites were drawn.
-/

namespace Chip8

/-- A sprite and the place where it is drawn. -/
structure Drawing where
  x : Byte
  y : Byte
  sprite : List Byte
  deriving DecidableEq, Repr

namespace Display

def add (d : Display) (a : Drawing) : Display := (d.draw a.x a.y a.sprite).1

def drawAll (d : Display) (drawings : List Drawing) : Display := drawings.foldl add d

/-- What the drawings report, one after the other. -/
def flags (d : Display) : List Drawing → List Bool
  | [] => []
  | a :: rest => (d.draw a.x a.y a.sprite).2 :: (d.add a).flags rest

variable {drawings drawings' : List Drawing}

theorem row_add (d : Display) (a : Drawing) (r : Nat) :
    (d.add a).row r = d.row r ^^^ cover a.x.toNat a.y.toNat a.sprite r := by
  rw [add, draw, row_drawFrom]

theorem add_right_comm (d : Display) (a b : Drawing) : (d.add a).add b = (d.add b).add a := by
  apply ext_row
  intro r
  rw [row_add, row_add, row_add, row_add, BitVec.xor_assoc, BitVec.xor_assoc]
  congr 1
  exact BitVec.xor_comm _ _

theorem add_add_self (d : Display) (a : Drawing) : (d.add a).add a = d :=
  draw_draw d a.x a.y a.sprite

theorem drawAll_perm (d : Display) (h : drawings.Perm drawings') :
    d.drawAll drawings = d.drawAll drawings' :=
  h.foldl_eq' (fun a _ b _ d => add_right_comm d a b) d

/-- Drawings that come in pairs are undone, in whatever order they stand. -/
theorem drawAll_of_even (d : Display) (heven : ∀ a ∈ drawings, Even (drawings.count a)) :
    d.drawAll drawings = d := by
  induction hlength : drawings.length using Nat.strongRecOn generalizing drawings with
  | ind n ih =>
    cases drawings with
    | nil => rfl
    | cons a rest =>
      -- The first drawing stands among the others once more, and can be moved next to itself.
      have hodd : ¬ Even (rest.count a) := by
        have hfirst := heven a List.mem_cons_self
        rwa [List.count_cons_self, Nat.even_add_one] at hfirst
      have hmem : a ∈ rest := by
        rw [← List.count_pos_iff]
        exact Nat.pos_of_ne_zero fun hzero => hodd (hzero ▸ Even.zero)
      have hperm : (a :: rest).Perm (a :: a :: rest.erase a) :=
        (List.perm_cons_erase hmem).cons a
      have hrest : ∀ b ∈ rest.erase a, Even ((rest.erase a).count b) := by
        intro b hb
        have hall := heven b (List.mem_cons_of_mem a (List.mem_of_mem_erase hb))
        rw [hperm.count_eq, List.count_cons, List.count_cons, Nat.add_assoc, Nat.even_add] at hall
        exact hall.mpr (Even.add_self _)
      have hshorter : (rest.erase a).length < n := by
        rw [← hlength, List.length_erase_of_mem hmem, List.length_cons]
        omega
      calc d.drawAll (a :: rest)
        _ = d.drawAll (a :: a :: rest.erase a) := drawAll_perm d hperm
        _ = ((d.add a).add a).drawAll (rest.erase a) := rfl
        _ = d.drawAll (rest.erase a) := by rw [add_add_self]
        _ = d := ih _ hshorter hrest rfl

/-- Three sprites in one row, of which the second covers the pixels of the other two. -/
private def overlapping : List Drawing := [⟨0, 0, [0x80]⟩, ⟨0, 0, [0xC0]⟩, ⟨0, 0, [0x40]⟩]

/-- The final picture does not depend on the order of drawings, and drawings each of which occurs an
even number of times leave it as it was; drawing anything twice is such a case. The number of
collisions may well depend on the order. -/
theorem drawings_commute_and_cancel (d : Display) :
    (∀ drawings drawings', drawings.Perm drawings' → d.drawAll drawings = d.drawAll drawings') ∧
    (∀ drawings, (∀ a ∈ drawings, Even (drawings.count a)) → d.drawAll drawings = d) ∧
    (∀ a, d.drawAll [a, a] = d) ∧
    ∃ (e : Display) (drawings drawings' : List Drawing), drawings.Perm drawings' ∧
      (e.flags drawings).count true ≠ (e.flags drawings').count true := by
  refine ⟨fun _ _ h => drawAll_perm d h, fun _ h => drawAll_of_even d h, add_add_self d, ?_⟩
  refine ⟨blank, overlapping, [⟨0, 0, [0x80]⟩, ⟨0, 0, [0x40]⟩, ⟨0, 0, [0xC0]⟩], ?_, ?_⟩
  · exact (List.Perm.swap _ _ []).cons _
  · decide +kernel

/-- A sprite around both edges and one taller than the picture, each of them twice. -/
theorem drawings_commute_and_cancel_edges :
    let a : Drawing := ⟨62, 31, [0xF0, 0x80]⟩
    let b : Drawing := ⟨0, 0, List.replicate 40 0xFF⟩
    (∀ c ∈ [a, b, a, b], Even ([a, b, a, b].count c)) ∧ blank.drawAll [a, b, a, b] = blank ∧
      [a, b].Perm [b, a] ∧ blank.drawAll [a, b] = blank.drawAll [b, a] := by
  intro a b
  have heven : ∀ c ∈ [a, b, a, b], Even ([a, b, a, b].count c) := by decide +kernel
  have hperm : [a, b].Perm [b, a] := .swap _ _ _
  obtain ⟨horder, hcancel, _⟩ := drawings_commute_and_cancel blank
  exact ⟨heven, hcancel _ heven, hperm, horder _ _ hperm⟩

end Display

end Chip8
