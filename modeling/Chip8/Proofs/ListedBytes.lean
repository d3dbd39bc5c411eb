import Chip8.CommandLine.Options
import Chip8.Proofs.Listings

/-!
# Images read back from listings

A row of a listing has its opcode in a column of four digits, whether the opcode names an instruction
or not. Read from top to bottom, the column gives back the image as far as it is listed.
-/

namespace Chip8

/-! ### The opcode column -/

theorem Opcode.toNat_ofBytes (high low : Byte) :
    (ofBytes high low).toNat = 256 * high.toNat + low.toNat := by
  rw [ofBytes, BitVec.toNat_append, ← Nat.shiftLeft_add_eq_or_of_lt low.isLt, Nat.shiftLeft_eq,
    Nat.mul_comm]

/-- The digits of a row between its address and its text. -/
def opcodeColumn (row : String) : List Char := (row.toList.drop 5).take 4

/-- The two bytes that the digits of the column stand for. -/
def opcodeBytes (row : String) : List Byte :=
  let value := Numeral.hexValue (opcodeColumn row)
  [BitVec.ofNat 8 (value / 256), BitVec.ofNat 8 value]

/-- An address in memory takes three digits, which puts the column in its place. -/
theorem opcodeColumn_disassemblyRow {a : Nat} (ha : a < Memory.size) (w : Opcode) (text : String) :
    opcodeColumn (disassemblyRow a w text) = (Numeral.hexPadded 4 w.toNat).toList := by
  have hrow : (disassemblyRow a w text).toList =
      ((Numeral.hexPadded 3 a).toList ++ [':', ' ']) ++
        ((Numeral.hexPadded 4 w.toNat).toList ++ ' ' :: ' ' :: text.toList) := by
    simp [disassemblyRow, String.toList_append, toString]
  have haddress : ((Numeral.hexPadded 3 a).toList ++ [':', ' ']).length = 5 := by
    rw [List.length_append, Numeral.length_toList_hexPadded_address ha]
    rfl
  have hopcode := Numeral.length_toList_hexPadded_toNat 4 (by decide) w
  rw [opcodeColumn, hrow, List.drop_left' haddress, List.take_left' hopcode]

/-- A line has its column, whatever its text. -/
theorem opcodeColumn_render {l : Line} (hl : l.address < Memory.size) :
    opcodeColumn l.render = (Numeral.hexPadded 4 l.opcode.toNat).toList := by
  rw [Line.render]
  cases l.text <;> exact opcodeColumn_disassemblyRow hl _ _

theorem opcodeBytes_render {a : Nat} (ha : a < Memory.size) (high low : Byte) :
    opcodeBytes (Line.ofOpcode a (.ofBytes high low)).render = [high, low] := by
  have hvalue : Numeral.hexValue (opcodeColumn (Line.ofOpcode a (.ofBytes high low)).render) =
      256 * high.toNat + low.toNat := by
    rw [opcodeColumn_render ha, Numeral.hexValue_hexPadded]
    exact Opcode.toNat_ofBytes high low
  have hlt := low.isLt
  have hhigh : BitVec.ofNat 8 ((256 * high.toNat + low.toNat) / 256) = high := by
    apply BitVec.eq_of_toNat_eq
    rw [BitVec.toNat_ofNat]
    omega
  have hlow : BitVec.ofNat 8 (256 * high.toNat + low.toNat) = low := by
    apply BitVec.eq_of_toNat_eq
    rw [BitVec.toNat_ofNat]
    omega
  simp only [opcodeBytes, hvalue, hhigh, hlow]

/-- The column of a listing holds two bytes of the image for each of its rows. -/
theorem flatMap_opcodeBytes_listing (bytes : List Byte) (base : Nat) :
    ((listing bytes base).map Line.render).flatMap opcodeBytes =
      bytes.take (2 * (listing bytes base).length) := by
  induction bytes, base using listing.induct with
  | case1 high low rest base hroom ih =>
    have hrow := opcodeBytes_render (Nat.lt_of_succ_lt hroom) high low
    rw [listing, if_pos hroom, List.map_cons, List.flatMap_cons, ih]
    exact congrArg (· ++ rest.take (2 * (listing rest (base + 2)).length)) hrow
  | case2 high low rest base hpast =>
    rw [listing, if_neg hpast]
    rfl
  | case3 bytes base hshort =>
    rw [listing]
    · rfl
    · exact hshort

/-! ### What is listed -/

/-- How many words fit between a base and the end of memory. -/
theorem room_eq (base : Nat) :
    (if 4095 ≤ base then 0 else (4095 - base + 1) / 2) = (Memory.size - base) / 2 := by
  rw [Memory.size]
  split <;> omega

/-- Asked for a listing, the program prints it and ends well, even if the image cannot be loaded. -/
theorem Options.startFrom_listing {o : Options} (ho : o.listing = true) (program : List Byte)
    (unseeded : Generator) :
    o.startFrom (.ok program) unseeded =
      .finished { code := 0, stdout := (Chip8.listing program programStart).map Line.render } := by
  rw [startFrom, start, if_pos ho]

/-- A listing has a line for each whole word of the image that lies in memory, in order and at the
address it has there; odd bases and images of any length are cut off at the end of memory. The opcode
columns of its rows are the bytes of the image that far. The program lists every image that it can
read. -/
theorem listing_exact (bytes : List Byte) (base : Nat) :
    let room := if 4095 ≤ base then 0 else (4095 - base + 1) / 2
    let m := min (bytes.length / 2) room
    (listing bytes base).length = m ∧
    (∀ k < m, ∃ l high low, (listing bytes base)[k]? = some l ∧
      bytes[2 * k]? = some high ∧ bytes[2 * k + 1]? = some low ∧
      l.address = base + 2 * k ∧ l.address < 4095 ∧
      l.opcode.toNat = 256 * high.toNat + low.toNat ∧ l.text = disassemble l.opcode ∧
      opcodeColumn l.render = (Numeral.hexPadded 4 l.opcode.toNat).toList ∧
      (opcodeColumn l.render).length = 4) ∧
    ((listing bytes base).map Line.render).flatMap opcodeBytes = bytes.take (2 * m) ∧
    ∀ (o : Options) (unseeded : Generator), o.listing = true →
      ∃ rows, o.startFrom (.ok bytes) unseeded = .finished { code := 0, stdout := rows } ∧
        rows.length = min (bytes.length / 2) 1792 ∧
        rows.flatMap opcodeBytes = bytes.take (2 * min (bytes.length / 2) 1792) := by
  intro room m
  have hm : (listing bytes base).length = m := by
    rw [length_listing, ← room_eq]
  refine ⟨hm, ?line, ?column, ?program⟩
  case line =>
    intro k hk
    rw [← hm] at hk
    have hline := List.getElem?_eq_getElem hk
    obtain ⟨hbytes, hroom, hl⟩ := listing_getElem?_eq_some_iff.mp hline
    have haddress : base + 2 * k < Memory.size := Nat.lt_of_succ_lt hroom
    have hcolumn := opcodeColumn_render
      (l := .ofOpcode (base + 2 * k) (.ofBytes bytes[2 * k] bytes[2 * k + 1])) haddress
    refine ⟨_, bytes[2 * k], bytes[2 * k + 1], hline, by simp, by simp, ?_⟩
    rw [hl]
    refine ⟨rfl, Nat.lt_of_succ_lt_succ hroom, Opcode.toNat_ofBytes _ _, rfl, hcolumn, ?_⟩
    rw [hcolumn]
    exact Numeral.length_toList_hexPadded_toNat 4 (by decide) _
  case column => rw [flatMap_opcodeBytes_listing, hm]
  case program =>
    intro o unseeded ho
    refine ⟨_, Options.startFrom_listing ho bytes unseeded, ?_, ?_⟩
    · rw [List.length_map, length_listing]
      rfl
    · rw [flatMap_opcodeBytes_listing, length_listing]
      rfl

/-- An image of more than 64 KiB, which cannot be loaded, listed by the program and at an odd base. -/
theorem listing_exact_overlong :
    let bytes : List Byte := List.replicate 70001 0xFF
    let o : Options := { rom := "", listing := true }
    State.loadProgram bytes = .error (.dataOverflow 70001 programStart) ∧
    (∃ rows, o.startFrom (.ok bytes) (Generator.cycling #[]) = .finished { code := 0, stdout := rows } ∧
      rows.length = 1792 ∧ rows.flatMap opcodeBytes = List.replicate 3584 0xFF) ∧
    (listing bytes 0x201).length = 1791 ∧
    (∃ l, (listing bytes 0x201)[1790]? = some l ∧ l.address = 4093 ∧ l.opcode.toNat = 0xFFFF ∧
      l.text = disassemble l.opcode) ∧
    ((listing bytes 0x201).map Line.render).flatMap opcodeBytes = List.replicate 3582 0xFF ∧
    listing bytes 4095 = [] := by
  intro bytes o
  have hsize : bytes.length = 70001 := List.length_replicate
  have hbyte {i : Nat} {b : Byte} (hb : bytes[i]? = some b) : b = 0xFF := by
    obtain ⟨hi, rfl⟩ := List.getElem?_eq_some_iff.mp hb
    exact List.getElem_replicate hi
  have htake (n : Nat) : bytes.take n = List.replicate (min n 70001) 0xFF := List.take_replicate
  have hload : State.loadProgram bytes = .error (.dataOverflow 70001 programStart) := by
    rw [State.loadProgram, State.load, hsize]
    rfl
  obtain ⟨hlength, hlines, hcolumn, _⟩ := listing_exact bytes 0x201
  obtain ⟨hnone, _⟩ := listing_exact bytes 4095
  obtain ⟨_, _, _, hprogram⟩ := listing_exact bytes programStart
  obtain ⟨rows, hrows, hcount, hread⟩ := hprogram o (Generator.cycling #[]) rfl
  rw [hsize] at hlength hlines hcolumn hnone hcount hread
  rw [htake] at hcolumn hread
  obtain ⟨l, high, low, hl, hhigh, hlow, haddress, _, hopcode, htext, _⟩ :=
    hlines 1790 (by decide)
  rw [hbyte hhigh, hbyte hlow] at hopcode
  exact ⟨hload, ⟨rows, hrows, hcount, hread⟩, hlength, ⟨l, hl, haddress, hopcode, htext⟩, hcolumn,
    List.eq_nil_of_length_eq_zero hnone⟩

end Chip8
