import Chip8.Disassembly
import Chip8.Proofs.Assembly
import Chip8.Proofs.Substitution
import Mathlib.Data.List.Basic
import Mathlib.Data.List.TakeWhile

/-!
# Disassembly loses nothing

The text of an opcode names its instruction and all of its operands. Characters that are no
hexadecimal digits are the same whatever the operands, and they tell all instructions apart but
`LD F, Vx` and `LD B, Vx`, which begin differently. Within one mnemonic a numeral always ends where
such a character or the text does, so that the operands can be read off again.
-/

namespace Chip8

namespace Template

/-- What is left of a text without its hexadecimal digits. -/
def signs (text : List Char) : List Char := text.filter (· ∉ Numeral.hexAlphabet)

namespace Piece

def isLetter : Piece → Bool
  | letter _ => true
  | slot _ => false

def signs : Piece → List Char
  | letter c => Template.signs [c]
  | slot _ => []

end Piece

/-- The beginning of a template, up to its first operand. -/
def opening (ps : List Piece) : List Piece := ps.takeWhile Piece.isLetter

/-- A numeral ends with the text or before a character that is no digit. -/
def Delimited (ps : List Piece) : Prop :=
  ps.IsChain fun p q => p.isLetter = true ∨ q.signs ≠ []

instance (ps : List Piece) : Decidable (Delimited ps) :=
  inferInstanceAs (Decidable (ps.IsChain _))

variable {radix : Radix} {o o' : Operands} {f : Operand} {ps : List Piece}

theorem signs_operandText (radix : Radix) (o : Operands) (f : Operand) :
    signs (operandText radix o f).toList = [] := by
  rw [signs, List.filter_eq_nil_iff]
  intro c hc
  simp [mem_operandText hc]

/-- The operands leave no trace among the signs. -/
theorem signs_written (radix : Radix) (o : Operands) (ps : List Piece) :
    signs (ps.flatMap (Piece.written radix o)) = ps.flatMap Piece.signs := by
  rw [signs, List.filter_flatMap]
  congr 1
  funext p
  cases p with
  | letter c => rfl
  | slot f => exact signs_operandText radix o f

theorem opening_prefix (radix : Radix) (o : Operands) (ps : List Piece) :
    (opening ps).flatMap Piece.source <+: ps.flatMap (Piece.written radix o) := by
  have hletters : (opening ps).flatMap Piece.source =
      (opening ps).flatMap (Piece.written radix o) := by
    apply List.flatMap_congr
    intro p hp
    cases p with
    | letter c => rfl
    | slot f => cases List.mem_takeWhile_imp hp
  refine ⟨(ps.dropWhile Piece.isLetter).flatMap (Piece.written radix o), ?_⟩
  rw [hletters, ← List.flatMap_append, opening, List.takeWhile_append_dropWhile]

/-! ### Reading operands off -/

/-- Two texts that start with numerals and go on with something else. -/
theorem eq_of_digits_append {a b r s : List Char}
    (ha : ∀ c ∈ a, c ∈ Numeral.hexAlphabet) (hb : ∀ c ∈ b, c ∈ Numeral.hexAlphabet)
    (hr : ∀ c ∈ r.head?, c ∉ Numeral.hexAlphabet) (hs : ∀ c ∈ s.head?, c ∉ Numeral.hexAlphabet)
    (h : a ++ r = b ++ s) : a = b ∧ r = s := by
  have hrun {a r : List Char} (ha : ∀ c ∈ a, c ∈ Numeral.hexAlphabet)
      (hr : ∀ c ∈ r.head?, c ∉ Numeral.hexAlphabet) :
      (a ++ r).takeWhile (· ∈ Numeral.hexAlphabet) = a := by
    rw [List.takeWhile_append_of_pos (by simpa using ha)]
    cases r with
    | nil => simp
    | cons c r => simp [hr c rfl]
  have hab : a = b := by
    rw [← hrun ha hr, h, hrun hb hs]
  subst hab
  exact ⟨rfl, List.append_cancel_left h⟩

theorem head_notMem_of_delimited (o : Operands) (hps : Delimited (.slot f :: ps)) :
    ∀ c ∈ (ps.flatMap (Piece.written radix o)).head?, c ∉ Numeral.hexAlphabet := by
  cases ps with
  | nil => nofun
  | cons q qs =>
    rcases (List.isChain_cons_cons.mp hps).1 with hslot | hsign
    · cases hslot
    · cases q with
      | slot f' => exact absurd rfl hsign
      | letter d =>
        rintro c ⟨⟩
        intro hc
        exact hsign (by simp [Piece.signs, signs, hc])

/-- Operands with the same text agree in every place. -/
theorem operandText_eq (hps : Delimited ps)
    (h : ps.flatMap (Piece.written radix o) = ps.flatMap (Piece.written radix o')) :
    ∀ f, .slot f ∈ ps → operandText radix o f = operandText radix o' f := by
  induction ps with
  | nil => nofun
  | cons p ps ih =>
    have htail : Delimited ps := by
      cases ps with
      | nil => exact .nil
      | cons q qs => exact (List.isChain_cons_cons.mp hps).2
    rw [List.flatMap_cons, List.flatMap_cons] at h
    intro f hf
    cases p with
    | letter c => exact ih htail (List.append_cancel_left h) f (by simpa using hf)
    | slot f' =>
      obtain ⟨hvalue, hrest⟩ := eq_of_digits_append (fun _ => mem_operandText)
        (fun _ => mem_operandText) (head_notMem_of_delimited o hps)
        (head_notMem_of_delimited o' hps) h
      rcases List.mem_cons.mp hf with hsame | hlater
      · cases hsame
        exact String.toList_inj.mp hvalue
      · exact ih htail hrest f hlater

end Template

namespace Op

open Template

def pieces (op : Op) : List Piece := Template.pieces op.encoding.mnemonic

theorem pieces_sound (op : Op) :
    Plain op.pieces ∧ Delimited op.pieces ∧
      ∀ f ∈ op.encoding.layout.operands, .slot f ∈ op.pieces := by
  cases op <;> decide

/-- What the operands leave alone of a text tells the instruction. -/
theorem eq_of_signs_of_opening : ∀ op ∈ all, ∀ op' ∈ all,
    op.pieces.flatMap Piece.signs = op'.pieces.flatMap Piece.signs →
      (opening op.pieces).flatMap Piece.source <+: (opening op'.pieces).flatMap Piece.source ∨
        (opening op'.pieces).flatMap Piece.source <+: (opening op.pieces).flatMap Piece.source →
      op = op' := by
  decide +kernel

/-- What the operands leave alone of a text comes from the mnemonic. -/
theorem mem_mnemonic_of_mem_signs {op : Op} {c : Char} (h : c ∈ op.pieces.flatMap Piece.signs) :
    c ∈ op.encoding.mnemonic.toList := by
  have hsource : op.pieces.flatMap Piece.source = op.encoding.mnemonic.toList :=
    source_readFrom 0 _
  obtain ⟨p, hp, hc⟩ := List.mem_flatMap.mp h
  rw [← hsource, List.mem_flatMap]
  refine ⟨p, hp, ?_⟩
  cases p with
  | letter d =>
    rw [Piece.signs, signs] at hc
    exact List.mem_of_mem_filter hc
  | slot f => cases hc

end Op

theorem Operands.ext_value {o o' : Operands} (h : ∀ f, Operand.value o f = Operand.value o' f) :
    o = o' := by
  obtain ⟨hx, hy, hn, hkk, hnnn⟩ := Operand.forall_iff.mp h
  cases o
  cases o'
  simp only [Operands.mk.injEq, ← BitVec.toNat_inj]
  exact ⟨hx, hy, hn, hkk, hnnn⟩

theorem Operand.value_eq_of_text {radix : Radix} {o o' : Operands} {f : Operand}
    (h : Template.operandText radix o f = Template.operandText radix o' f) :
    Operand.value o f = Operand.value o' f := by
  have hliteral {m n : Nat} (h : Template.literal radix m = Template.literal radix n) : m = n := by
    cases radix with
    | hex => exact Numeral.hex_injective h
    | decimal => exact Numeral.decimal_injective h
  cases f with
  | x | y => exact Numeral.hex_injective h
  | n | kk | nnn => exact hliteral h

theorem Decoded.text_eq (radix : Radix) (d : Decoded) :
    (d.text radix).toList = d.op.pieces.flatMap (Template.Piece.written radix d.operands) := by
  rw [Decoded.text, Template.fill_eq d.op.pieces_sound.1, String.toList_ofList]
  rfl

theorem Decoded.op_eq_of_text {radix : Radix} {d d' : Decoded} (h : d.text radix = d'.text radix) :
    d.op = d'.op := by
  have htext := congrArg String.toList h
  rw [text_eq, text_eq] at htext
  have hsigns := congrArg Template.signs htext
  rw [Template.signs_written, Template.signs_written] at hsigns
  have hopening := Template.opening_prefix radix d.operands d.op.pieces
  rw [htext] at hopening
  exact Op.eq_of_signs_of_opening _ (Op.mem_all _) _ (Op.mem_all _) hsigns
    (List.prefix_or_prefix_of_prefix hopening (Template.opening_prefix _ _ _))

/-- The text of an opcode that can be decoded is the text of no other one. -/
theorem eq_of_text {radix : Radix} {w w' : Opcode} {d d' : Decoded} (hd : decode w = .ok d)
    (hd' : decode w' = .ok d') (h : d.text radix = d'.text radix) : w = w' := by
  have hop := Decoded.op_eq_of_text h
  have htext := congrArg String.toList h
  rw [Decoded.text_eq, Decoded.text_eq, ← hop] at htext
  obtain ⟨_, hdelimited, hslots⟩ := d.op.pieces_sound
  have hholds : d.op.encoding.layout.Holds d.operands := by
    rw [decode_operands hd]
    exact Layout.extract_holds _ _
  have hholds' : d.op.encoding.layout.Holds d'.operands := by
    rw [decode_operands hd', hop]
    exact Layout.extract_holds _ _
  have hoperands : d.operands = d'.operands := by
    apply Operands.ext_value
    intro f
    by_cases hf : f ∈ d.op.encoding.layout.operands
    · exact Operand.value_eq_of_text (Template.operandText_eq hdelimited htext f (hslots f hf))
    · rw [hholds f hf, hholds' f hf]
  rw [← assemble_of_decode hd, ← assemble_of_decode hd', hop, hoperands]

/-- Opcodes that can be decoded are told apart by their texts, in either base, and so are lists of
them by the lists of their texts. -/
theorem disassembly_lossless (radix : Radix) :
    (∀ w w' text, disassembleIn radix w = .ok text → disassembleIn radix w' = .ok text → w = w') ∧
    ∀ ws ws' : List Opcode, (∀ w ∈ ws, ∃ d, decode w = .ok d) → (∀ w ∈ ws', ∃ d, decode w = .ok d) →
      ws.map (disassembleIn radix) = ws'.map (disassembleIn radix) → ws = ws' := by
  have hone {w w' : Opcode} {text : String} (h : disassembleIn radix w = .ok text)
      (h' : disassembleIn radix w' = .ok text) : w = w' := by
    obtain ⟨d, hd, htext⟩ := disassembleIn_eq_ok_iff.mp h
    obtain ⟨d', hd', htext'⟩ := disassembleIn_eq_ok_iff.mp h'
    exact eq_of_text hd hd' (htext.trans htext'.symm)
  refine ⟨fun _ _ _ => hone, ?_⟩
  intro ws
  induction ws with
  | nil =>
    intro ws' _ _ h
    exact (List.map_eq_nil_iff.mp h.symm).symm
  | cons w ws ih =>
    intro ws' hws hws' h
    obtain ⟨w', ws', rfl, hfirst, hrest⟩ := List.map_eq_cons_iff.mp h.symm
    obtain ⟨⟨d, hd⟩, hws⟩ := List.forall_mem_cons.mp hws
    have htext : disassembleIn radix w = .ok (d.text radix) :=
      disassembleIn_eq_ok_iff.mpr ⟨d, hd, rfl⟩
    rw [hone htext (hfirst.trans htext), ih ws' hws (List.forall_mem_cons.mp hws').2 hrest.symm]

/-- Two lines that differ by a single letter, written in two ways. -/
theorem disassembly_lossless_LD :
    [0x6A0D, 0xFA07].map (disassembleIn .hex) = [.ok "LD VA, D", .ok "LD VA, DT"] ∧
    [Op.ldByte.encoding.assemble { x := 0xA, kk := 0xD }, 0xFA07] = [0x6A0D, 0xFA07] := by
  refine ⟨rfl, (disassembly_lossless .hex).2 _ _ ?_ ?_ rfl⟩ <;>
  · rw [List.forall_mem_cons, List.forall_mem_singleton]
    exact ⟨⟨_, rfl⟩, ⟨_, rfl⟩⟩

end Chip8
