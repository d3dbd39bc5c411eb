import Chip8.Instruction.Template

/-!
# Substitution

What the passes of `Template.fill` do together. A template is read as a list of pieces, characters and
places of operands; filling it writes every operand into its places and keeps all other characters.
The passes do not get in each other's way, since the values of operands contain no braces.
-/

namespace Chip8.Template

/-- A part of a template: a character that stands for itself, or the place of an operand. -/
inductive Piece where
  | letter (c : Char)
  | slot (f : Operand)
  deriving DecidableEq, Repr

namespace Piece

/-- How the piece is written in a template. -/
def source : Piece → List Char
  | letter c => [c]
  | slot f => (Mark.of f).toList

/-- What becomes of the piece when the operands have these values. -/
def written (radix : Radix) (o : Operands) : Piece → List Char
  | letter c => [c]
  | slot f => (operandText radix o f).toList

/-- What has become of the piece after the passes for some of the operands. -/
def after (radix : Radix) (o : Operands) (done : List Operand) : Piece → List Char
  | letter c => [c]
  | slot f => if f ∈ done then (operandText radix o f).toList else (Mark.of f).toList

end Piece

/-- The characters of a template, of which the first argument counts those that belong to a place
already read. -/
def readFrom : Nat → List Char → List Piece
  | _, [] => []
  | k + 1, _ :: cs => readFrom k cs
  | 0, c :: cs =>
    match order.find? fun f => (Mark.of f).toList.isPrefixOf (c :: cs) with
    | some f => .slot f :: readFrom ((Mark.of f).toList.length - 1) cs
    | none => .letter c :: readFrom 0 cs

def pieces (template : String) : List Piece := readFrom 0 template.toList

/-- Braces stand only around the places of operands. -/
def Plain (ps : List Piece) : Prop :=
  .letter openBrace ∉ ps ∧ .letter closeBrace ∉ ps

instance (ps : List Piece) : Decidable (Plain ps) := inferInstanceAs (Decidable (_ ∧ _))

/-! ### Reading a template -/

theorem source_readFrom (k : Nat) (cs : List Char) :
    (readFrom k cs).flatMap Piece.source = cs.drop k := by
  induction cs generalizing k with
  | nil => cases k <;> rfl
  | cons c cs ih =>
    cases k with
    | succ k => exact ih k
    | zero =>
      rw [readFrom]
      split
      · rename_i f hfind
        have hprefix : (Mark.of f).toList.isPrefixOf (c :: cs) = true :=
          List.find?_some (p := fun f => (Mark.of f).toList.isPrefixOf (c :: cs)) hfind
        obtain ⟨rest, hrest⟩ := List.isPrefixOf_iff_prefix.mp hprefix
        obtain ⟨d, ds, hmark⟩ : ∃ d ds, (Mark.of f).toList = d :: ds := by
          cases f <;> exact ⟨_, _, rfl⟩
        rw [hmark] at hrest
        obtain ⟨rfl, rfl⟩ := List.cons.inj hrest
        rw [List.flatMap_cons, ih, Piece.source, hmark]
        simp
      · rw [List.flatMap_cons, ih]
        rfl

/-! ### One pass -/

/-- Text without the first character of what is looked for is passed over. -/
theorem replaceFrom_append {first : Char} {old' new text rest : List Char} (h : first ∉ text) :
    replaceFrom (first :: old') new 0 (text ++ rest) =
      text ++ replaceFrom (first :: old') new 0 rest := by
  induction text with
  | nil => rfl
  | cons c cs ih =>
    obtain ⟨hc, hcs⟩ := not_or.mp (mt List.mem_cons.mpr h)
    have hno : (first :: old').isPrefixOf (c :: (cs ++ rest)) = false := by
      simp [List.isPrefixOf, hc]
    rw [List.cons_append, replaceFrom, hno, ih hcs]
    rfl

theorem replaceFrom_skip (old new text rest : List Char) :
    replaceFrom old new text.length (text ++ rest) = replaceFrom old new 0 rest := by
  induction text with
  | nil => rfl
  | cons c cs ih => exact ih

theorem replaceFrom_self {first : Char} {old' new rest : List Char} :
    replaceFrom (first :: old') new 0 ((first :: old') ++ rest) =
      new ++ replaceFrom (first :: old') new 0 rest := by
  have hyes : (first :: old').isPrefixOf (first :: (old' ++ rest)) = true := by
    rw [List.isPrefixOf_iff_prefix, ← List.cons_append]
    exact List.prefix_append _ _
  rw [List.cons_append, replaceFrom, hyes, List.length_cons, Nat.add_sub_cancel, replaceFrom_skip]
  rfl

/-- The characters of a mark after its opening brace. -/
def markTail (f : Operand) : List Char := f.name.toList ++ [closeBrace]

theorem toList_mark (f : Operand) : (Mark.of f).toList = openBrace :: markTail f := by
  cases f <;> decide

theorem openBrace_notMem_markTail (f : Operand) : openBrace ∉ markTail f := by
  cases f <;> decide

/-- No mark begins another one, as each ends with its only closing brace. -/
theorem isPrefixOf_mark {f f' : Operand} (h : f ≠ f') (rest : List Char) :
    (Mark.of f).toList.isPrefixOf ((Mark.of f').toList ++ rest) = false := by
  rw [toList_mark, toList_mark]
  cases f <;> cases f' <;> first | contradiction | rfl

theorem replaceFrom_mark {f f' : Operand} (h : f ≠ f') (new rest : List Char) :
    replaceFrom (Mark.of f).toList new 0 ((Mark.of f').toList ++ rest) =
      (Mark.of f').toList ++ replaceFrom (Mark.of f).toList new 0 rest := by
  have hno := isPrefixOf_mark h rest
  rw [toList_mark f'] at hno ⊢
  rw [List.cons_append] at hno ⊢
  rw [replaceFrom, hno, toList_mark f, replaceFrom_append (openBrace_notMem_markTail f')]
  rfl

theorem mem_operandText {radix : Radix} {o : Operands} {f : Operand} {c : Char}
    (h : c ∈ (operandText radix o f).toList) : c ∈ Numeral.hexAlphabet := by
  have hhex {n : Nat} (hc : c ∈ (Numeral.hex n).toList) : c ∈ Numeral.hexAlphabet :=
    Numeral.mem_hexDigits (String.toList_ofList ▸ hc)
  have hliteral {n : Nat} (hc : c ∈ (literal radix n).toList) : c ∈ Numeral.hexAlphabet := by
    cases radix with
    | hex => exact hhex hc
    | decimal => exact Numeral.mem_toList_decimal hc
  cases f with
  | x | y => exact hhex h
  | n | kk | nnn => exact hliteral h

theorem openBrace_notMem_operandText (radix : Radix) (o : Operands) (f : Operand) :
    openBrace ∉ (operandText radix o f).toList := by
  intro h
  exact absurd (mem_operandText h) (by decide)

/-- One pass fills the places of its operand, whichever passes came before. -/
theorem replaceAll_after {radix : Radix} {o : Operands} {done : List Operand} {f : Operand}
    {ps : List Piece} (hps : Plain ps) (hf : f ∉ done) :
    replaceAll (Mark.of f).toList (operandText radix o f).toList
        (ps.flatMap (Piece.after radix o done)) =
      ps.flatMap (Piece.after radix o (f :: done)) := by
  unfold replaceAll
  induction ps with
  | nil => rfl
  | cons p ps ih =>
    obtain ⟨hopen, hclose⟩ := hps
    obtain ⟨hp, hrest⟩ := not_or.mp (mt List.mem_cons.mpr hopen)
    have htail := ih ⟨hrest, fun h => hclose (List.mem_cons_of_mem p h)⟩
    rw [List.flatMap_cons, List.flatMap_cons, ← htail]
    cases p with
    | letter c =>
      have hc : openBrace ∉ [c] := fun h => hp (congrArg Piece.letter (List.mem_singleton.mp h))
      simp only [Piece.after, toList_mark f]
      exact replaceFrom_append hc
    | slot f' =>
      by_cases hdone : f' ∈ done
      · simp only [Piece.after, hdone, List.mem_cons, or_true, ↓reduceIte, toList_mark f]
        exact replaceFrom_append (openBrace_notMem_operandText radix o f')
      · by_cases hff' : f = f'
        · subst hff'
          simp only [Piece.after, hf, List.mem_cons, true_or, ↓reduceIte, toList_mark f]
          exact replaceFrom_self
        · have hnew : f' ∉ f :: done := by simp [hdone, Ne.symm hff']
          simp only [Piece.after, hdone, hnew, ↓reduceIte]
          exact replaceFrom_mark hff' _ _

/-- The passes together write all operands at once. -/
theorem fill_source (radix : Radix) (o : Operands) {ps : List Piece} (h : Plain ps) :
    fill radix o (String.ofList (ps.flatMap Piece.source)) =
      String.ofList (ps.flatMap (Piece.written radix o)) := by
  have hstart : Piece.after radix o [] = Piece.source := by
    funext p
    cases p <;> rfl
  have hend : Piece.after radix o [.n, .kk, .nnn, .y, .x] = Piece.written radix o := by
    funext p
    cases p with
    | letter c => rfl
    | slot f => cases f <;> rfl
  rw [fill, String.toList_ofList, ← hstart]
  simp only [order, List.foldl_cons, List.foldl_nil]
  rw [replaceAll_after h (by decide), replaceAll_after h (by decide), replaceAll_after h (by decide),
    replaceAll_after h (by decide), replaceAll_after h (by decide), hend]

theorem fill_eq {radix : Radix} {o : Operands} {template : String} (h : Plain (pieces template)) :
    fill radix o template =
      String.ofList ((pieces template).flatMap (Piece.written radix o)) := by
  have hsource : String.ofList ((pieces template).flatMap Piece.source) = template := by
    rw [pieces, source_readFrom, List.drop_zero, String.ofList_toList]
  rw [← fill_source radix o h, hsource]

end Chip8.Template
