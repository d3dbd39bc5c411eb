/-!
# Numerals

How numbers are written in listings, messages and the status panel, and how decimal ones are read.
Hexadecimal digits are upper case; a padded numeral has at least its width and is never cut.
-/

namespace Chip8.Numeral

def hexDigits (n : Nat) : List Char := (Nat.toDigits 16 n).map Char.toUpper

/-- Without leading zeros, so zero is a single digit. -/
def hex (n : Nat) : String := String.ofList (hexDigits n)

def decimal (n : Nat) : String := String.ofList (Nat.toDigits 10 n)

def hexPadded (width n : Nat) : String := String.ofList ((hexDigits n).leftpad width '0')

/-- The form of a number inside a message: the mark `0x`, then at least `width` digits. -/
def hexMarked (width n : Nat) : String := "0x" ++ hexPadded width n

/-- Messages give addresses three digits, which covers the whole memory. -/
def address (a : Nat) : String := hexMarked 3 a

/-- Decimal digits, with a plus sign in front if one likes. -/
def read? (text : List Char) : Option Nat :=
  let digits := if text.head? = some '+' then text.tail else text
  if digits.isEmpty || !digits.all Char.isDigit then none
  else some (digits.foldl (fun n d => 10 * n + (d.toNat - '0'.toNat)) 0)

/-- A number from `least` to `most`. -/
def readWithin? (least most : Nat) (text : List Char) : Option Nat :=
  (read? text).filter fun n => least ≤ n && n ≤ most

theorem length_hexDigits_pos (n : Nat) : 0 < (hexDigits n).length := by
  simp [hexDigits, Nat.length_toDigits_pos]

theorem length_toList_hexPadded (width n : Nat) :
    (hexPadded width n).toList.length = max width (hexDigits n).length := by
  simp only [hexPadded, String.toList_ofList, List.length_leftpad]

/-- The digits that hexadecimal numerals are made of. -/
def hexAlphabet : List Char :=
  ['0', '1', '2', '3', '4', '5', '6', '7', '8', '9', 'A', 'B', 'C', 'D', 'E', 'F']

theorem exists_digit_of_mem_toDigits {base n : Nat} (hbase : 1 < base) {c : Char}
    (h : c ∈ Nat.toDigits base n) : ∃ d < base, c = Nat.digitChar d := by
  induction n using Nat.strongRecOn with
  | ind n ih =>
    rw [Nat.toDigits_eq_if hbase] at h
    split at h
    · rename_i hlt
      exact ⟨n, hlt, List.mem_singleton.mp h⟩
    · rename_i hge
      rcases List.mem_append.mp h with hhigh | hlow
      · exact ih (n / base) (Nat.div_lt_self (by omega) hbase) hhigh
      · exact ⟨n % base, Nat.mod_lt n (by omega), List.mem_singleton.mp hlow⟩

theorem mem_hexDigits {n : Nat} {c : Char} (h : c ∈ hexDigits n) : c ∈ hexAlphabet := by
  have hdigit : ∀ d : Fin 16, (Nat.digitChar d).toUpper ∈ hexAlphabet := by decide
  obtain ⟨c', hc', rfl⟩ := List.mem_map.mp h
  obtain ⟨d, hd, rfl⟩ := exists_digit_of_mem_toDigits (by decide) hc'
  exact hdigit ⟨d, hd⟩

theorem mem_toList_decimal {n : Nat} {c : Char} (h : c ∈ (decimal n).toList) : c ∈ hexAlphabet := by
  have hdigit : ∀ d : Fin 10, Nat.digitChar d ∈ hexAlphabet := by decide
  rw [decimal, String.toList_ofList] at h
  obtain ⟨d, hd, rfl⟩ := exists_digit_of_mem_toDigits (by decide) h
  exact hdigit ⟨d, hd⟩

/-- The last digit of a numeral stands for the remainder. -/
theorem hexDigits_eq (n : Nat) :
    hexDigits n =
      (if n < 16 then [] else hexDigits (n / 16)) ++ [(Nat.digitChar (n % 16)).toUpper] := by
  rw [hexDigits, Nat.toDigits_eq_if (by decide)]
  split
  · rename_i hlt
    rw [Nat.mod_eq_of_lt hlt]
    rfl
  · rw [List.map_append]
    rfl

/-- The number that hexadecimal digits stand for. -/
def hexValue (digits : List Char) : Nat :=
  digits.foldl (fun n c => 16 * n + hexAlphabet.idxOf c) 0

theorem hexValue_append_singleton (digits : List Char) (c : Char) :
    hexValue (digits ++ [c]) = 16 * hexValue digits + hexAlphabet.idxOf c := by
  rw [hexValue, List.foldl_append]
  rfl

theorem hexValue_hexDigits (n : Nat) : hexValue (hexDigits n) = n := by
  have hdigit : ∀ d : Fin 16, hexAlphabet.idxOf (Nat.digitChar d).toUpper = d := by decide
  induction n using Nat.strongRecOn with
  | ind n ih =>
    have hlast := hdigit ⟨n % 16, Nat.mod_lt n (by decide)⟩
    rw [hexDigits_eq, hexValue_append_singleton, hlast]
    split
    · rename_i hlt
      exact (Nat.zero_add _).trans (Nat.mod_eq_of_lt hlt)
    · rename_i hge
      rw [ih (n / 16) (by omega)]
      exact Nat.div_add_mod n 16

theorem hexDigits_injective {m n : Nat} (h : hexDigits m = hexDigits n) : m = n := by
  rw [← hexValue_hexDigits m, h, hexValue_hexDigits]

theorem hex_injective {m n : Nat} (h : hex m = hex n) : m = n :=
  hexDigits_injective (String.ofList_inj.mp h)

theorem decimal_injective {m n : Nat} (h : decimal m = decimal n) : m = n := by
  have hdigits : Nat.toDigits 10 m = Nat.toDigits 10 n := String.ofList_inj.mp h
  rw [← Nat.ofDigitChars_ten_toDigits (n := m), hdigits, Nat.ofDigitChars_ten_toDigits]

theorem hexValue_replicate_append (k : Nat) (digits : List Char) :
    hexValue (List.replicate k '0' ++ digits) = hexValue digits := by
  induction k with
  | zero => rfl
  | succ k ih => exact ih

theorem hexValue_hexPadded (width n : Nat) : hexValue (hexPadded width n).toList = n := by
  rw [hexPadded, String.toList_ofList, List.leftpad, hexValue_replicate_append, hexValue_hexDigits]

/-- Padding leaves numerals different, to whatever widths they are padded. -/
theorem hexPadded_injective {width width' m n : Nat} (h : hexPadded width m = hexPadded width' n) :
    m = n := by
  rw [← hexValue_hexPadded width m, h, hexValue_hexPadded]

theorem mem_toList_hexPadded {width n : Nat} {c : Char} (h : c ∈ (hexPadded width n).toList) :
    c ∈ hexAlphabet := by
  rw [hexPadded, String.toList_ofList, List.leftpad, List.mem_append] at h
  rcases h with hpad | hdigit
  · rw [List.eq_of_mem_replicate hpad]
    decide
  · exact mem_hexDigits hdigit

/-- A word of four bits for each digit fills the width just so. -/
theorem length_toList_hexPadded_toNat (width : Nat) (hwidth : 0 < width) (w : BitVec (4 * width)) :
    (hexPadded width w.toNat).toList.length = width := by
  have hdigits : (hexDigits w.toNat).length ≤ width := by
    rw [hexDigits, List.length_map, Nat.length_toDigits_le_iff (by decide) hwidth]
    have hlt := w.isLt
    rw [Nat.pow_mul] at hlt
    exact hlt
  rw [length_toList_hexPadded]
  exact Nat.max_eq_left hdigits

end Chip8.Numeral
