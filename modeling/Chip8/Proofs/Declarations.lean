import Chip8.Instruction.Declaration

/-!
# Declarations

Which row of a table a declaration makes. Every row whose bits and mnemonic can pass the check is
made by a declaration, for it can be written down as one: numerals in hexadecimal with the mark `0x`
are read back as the words that they were made of.
-/

namespace Chip8

/-! ### Literals -/

namespace IntegerLiteral

variable {text : String} {w : Opcode} {c : Char} {cs : List Char}

/-- A literal is an opcode if it has no sign and its number fits. -/
theorem opcode_eq_ok_iff : opcode text = .ok w ↔ unsigned? text.toList = some w.toNat := by
  have hfits (n : Nat) : (if n < 0x10000 then Except.ok (BitVec.ofNat 16 n)
      else .error LiteralError.tooLarge) = .ok w ↔ n = w.toNat := by
    split
    · rename_i hlt
      rw [Except.ok.injEq, ← BitVec.toNat_inj, BitVec.toNat_ofNat, Nat.mod_eq_of_lt hlt]
    · rename_i hge
      exact ⟨nofun, fun h => absurd (h ▸ w.isLt) hge⟩
  rw [opcode]
  split
  rename_i minus body hbody
  split at hbody
  · rename_i cs htext
    obtain ⟨rfl, rfl⟩ := Prod.mk.inj hbody
    have hsigned : unsigned? ('-' :: cs) = none := rfl
    rw [htext, hsigned]
    cases unsigned? cs <;> exact ⟨nofun, nofun⟩
  · obtain ⟨rfl, rfl⟩ := Prod.mk.inj hbody
    cases unsigned? text.toList with
    | none => exact ⟨nofun, nofun⟩
    | some n => exact (hfits n).trans Option.some_inj.symm

/-- The digits of numerals have the same values in literals. -/
theorem digit?_of_mem_hexAlphabet (hc : c ∈ Numeral.hexAlphabet) :
    c ≠ '_' ∧ digit? 16 c = some (Numeral.hexAlphabet.idxOf c) ∧
      Numeral.hexAlphabet.idxOf c < 16 := by
  have hdigit : ∀ i : Fin 16, let c := Numeral.hexAlphabet[i]
      c ≠ '_' ∧ digit? 16 c = some (Numeral.hexAlphabet.idxOf c) ∧
        Numeral.hexAlphabet.idxOf c < 16 := by decide
  obtain ⟨i, hi, rfl⟩ := List.mem_iff_getElem.mp hc
  exact hdigit ⟨i, hi⟩

theorem digits?_cons (hc : c ∈ Numeral.hexAlphabet) (value : Option Nat) (cs : List Char) :
    digits? 16 value (c :: cs) =
      digits? 16 (some (16 * value.getD 0 + Numeral.hexAlphabet.idxOf c)) cs := by
  obtain ⟨hline, hdigit, hlt⟩ := digit?_of_mem_hexAlphabet hc
  simp only [digits?, if_neg hline, hdigit, if_pos hlt]

theorem digits?_eq_foldl (hcs : ∀ c ∈ cs, c ∈ Numeral.hexAlphabet) (n : Nat) :
    digits? 16 (some n) cs =
      some (cs.foldl (fun n c => 16 * n + Numeral.hexAlphabet.idxOf c) n) := by
  induction cs generalizing n with
  | nil => rfl
  | cons c cs ih =>
    have hc := hcs c List.mem_cons_self
    rw [digits?_cons hc, List.foldl_cons]
    exact ih (fun d hd => hcs d (List.mem_cons_of_mem c hd)) _

theorem digits?_eq_hexValue (hne : cs ≠ []) (hcs : ∀ c ∈ cs, c ∈ Numeral.hexAlphabet) :
    digits? 16 none cs = some (Numeral.hexValue cs) := by
  cases cs with
  | nil => exact absurd rfl hne
  | cons c cs =>
    rw [digits?_cons (hcs c List.mem_cons_self)]
    exact digits?_eq_foldl (fun d hd => hcs d (List.mem_cons_of_mem c hd)) _

theorem unsigned?_hexMarked (width n : Nat) :
    unsigned? (Numeral.hexMarked width n).toList = some n := by
  have hne : (Numeral.hexPadded width n).toList ≠ [] := by
    apply List.ne_nil_of_length_pos
    rw [Numeral.length_toList_hexPadded]
    exact Nat.lt_of_lt_of_le (Numeral.length_hexDigits_pos n) (Nat.le_max_right _ _)
  have hdigits := digits?_eq_hexValue hne fun _ => Numeral.mem_toList_hexPadded
  rw [Numeral.hexValue_hexPadded] at hdigits
  rw [Numeral.hexMarked, String.toList_append]
  exact hdigits

theorem opcode_hexMarked (width : Nat) (w : Opcode) :
    opcode (Numeral.hexMarked width w.toNat) = .ok w :=
  opcode_eq_ok_iff.mpr (unsigned?_hexMarked width w.toNat)

end IntegerLiteral

/-! ### The bits of a row -/

theorem Opcode.and_not_eq_zero_iff {a b : Opcode} : a &&& ~~~b = 0#16 ↔ a &&& b = a := by
  constructor
  · intro h
    calc a &&& b
        = a &&& b ||| a &&& ~~~b := by rw [h, BitVec.or_zero]
      _ = a &&& (b ||| ~~~b) := BitVec.and_or_distrib_left.symm
      _ = a := by rw [BitVec.or_not_self, BitVec.and_allOnes]
  · intro h
    rw [← h, BitVec.and_assoc, BitVec.and_not_self]
    exact BitVec.and_zero

theorem checkBits_eq_ok_iff {pattern mask : Opcode} {l : Layout} :
    checkBits pattern mask l = .ok () ↔ pattern &&& mask = pattern ∧ mask &&& l.bits = 0#16 := by
  unfold checkBits
  split
  · rename_i hout
    exact ⟨nofun, fun h => absurd (Opcode.and_not_eq_zero_iff.mpr h.1) hout⟩
  · rename_i hin
    have hpattern := Opcode.and_not_eq_zero_iff.mp (Decidable.not_not.mp hin)
    split
    · rename_i hover
      exact ⟨nofun, fun h => absurd h.2 hover⟩
    · rename_i hapart
      exact ⟨fun _ => ⟨hpattern, Decidable.not_not.mp hapart⟩, fun _ => rfl⟩

/-! ### The row of a declaration -/

/-- The row that a declaration stands for: its pattern and mask are the words that the literals
spell, its layout is the one of that name, and its bits and its mnemonic pass their checks. -/
structure Declaration.Makes (d : Declaration) (e : Encoding) : Prop where
  name : e.name = d.name
  pattern : ∃ text, d.pattern = some text ∧ IntegerLiteral.opcode text = .ok e.pattern
  mask : ∃ text, d.mask = some text ∧ IntegerLiteral.opcode text = .ok e.mask
  layout : ∃ text, d.operands = some text ∧ Layout.ofName? text = some e.layout
  mnemonic : d.mnemonic = some e.mnemonic
  bits : checkBits e.pattern e.mask e.layout = .ok ()
  placeholders : checkMnemonic e.layout e.mnemonic = .ok ()

/-- A row written down as a declaration. -/
def Encoding.declaration (e : Encoding) : Declaration where
  name := e.name
  pattern := some (Numeral.hexMarked 4 e.pattern.toNat)
  mask := some (Numeral.hexMarked 4 e.mask.toNat)
  operands := some e.layout.name
  mnemonic := some e.mnemonic

section Checks

variable {ε ε' α β : Type} {x : Except ε α}

theorem bind_eq_ok_iff {f : α → Except ε β} {b : β} :
    x >>= f = .ok b ↔ ∃ a, x = .ok a ∧ f a = .ok b := by
  cases x with
  | error e => exact ⟨nofun, nofun⟩
  | ok a =>
    constructor
    · intro h
      exact ⟨a, rfl, h⟩
    · rintro ⟨_, ⟨⟩, h⟩
      exact h

theorem mapError_eq_ok_iff {f : ε → ε'} {a : α} : x.mapError f = .ok a ↔ x = .ok a := by
  cases x with
  | error e => exact ⟨nofun, nofun⟩
  | ok a' =>
    show Except.ok a' = Except.ok a ↔ Except.ok a' = Except.ok a
    rw [Except.ok.injEq, Except.ok.injEq]

end Checks

namespace Declaration

variable {d : Declaration} {e : Encoding}

theorem require_eq_ok_iff {p : Property} {text : Option String} {t : String} :
    require p text = .ok t ↔ text = some t := by
  cases text <;> simp [require]

/-- A declaration is accepted with the row that it stands for, and with no other. -/
theorem check_eq_ok_iff : d.check = .ok e ↔ d.Makes e := by
  simp only [check, bind_eq_ok_iff, require_eq_ok_iff, mapError_eq_ok_iff]
  constructor
  · intro h
    obtain ⟨_, hpattern, _, hmask, _, hoperands, _, hmnemonic, _, hword, _, hmaskWord, h⟩ := h
    split at h
    · cases h
    · rename_i layout hlayout
      obtain ⟨_, hbits, h⟩ := bind_eq_ok_iff.mp h
      obtain ⟨_, hplaceholders, hrow⟩ := bind_eq_ok_iff.mp h
      cases hrow
      exact
        { name := rfl
          pattern := ⟨_, hpattern, hword⟩
          mask := ⟨_, hmask, hmaskWord⟩
          layout := ⟨_, hoperands, hlayout⟩
          mnemonic := hmnemonic
          bits := hbits
          placeholders := hplaceholders }
  · intro h
    obtain ⟨_, hpattern, hword⟩ := h.pattern
    obtain ⟨_, hmask, hmaskWord⟩ := h.mask
    obtain ⟨_, hoperands, hlayout⟩ := h.layout
    refine ⟨_, hpattern, _, hmask, _, hoperands, _, h.mnemonic, _, hword, _, hmaskWord, ?_⟩
    rw [hlayout]
    refine bind_eq_ok_iff.mpr ⟨(), h.bits, bind_eq_ok_iff.mpr ⟨(), h.placeholders, ?_⟩⟩
    rw [← h.name]

end Declaration

theorem Encoding.check_declaration (e : Encoding) :
    e.declaration.check = .ok e ↔
      checkBits e.pattern e.mask e.layout = .ok () ∧
        checkMnemonic e.layout e.mnemonic = .ok () := by
  rw [Declaration.check_eq_ok_iff]
  constructor
  · intro h
    exact ⟨h.bits, h.placeholders⟩
  · rintro ⟨hbits, hplaceholders⟩
    exact
      { name := rfl
        pattern := ⟨_, rfl, IntegerLiteral.opcode_hexMarked 4 e.pattern⟩
        mask := ⟨_, rfl, IntegerLiteral.opcode_hexMarked 4 e.mask⟩
        layout := ⟨_, rfl, e.layout.ofName?_name⟩
        mnemonic := rfl
        bits := hbits
        placeholders := hplaceholders }

namespace Op

theorem checkBits_encoding (op : Op) :
    checkBits op.encoding.pattern op.encoding.mask op.encoding.layout = .ok () := by
  cases op <;> rfl

theorem checkMnemonic_encoding (op : Op) :
    checkMnemonic op.encoding.layout op.encoding.mnemonic = .ok () := by
  cases op <;> rfl

/-- Every instruction can be declared as its row has it. -/
theorem check_declaration_encoding (op : Op) :
    op.encoding.declaration.check = .ok op.encoding :=
  op.encoding.check_declaration.mpr ⟨op.checkBits_encoding, op.checkMnemonic_encoding⟩

end Op

end Chip8
