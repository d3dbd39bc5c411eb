import Chip8.Instruction.Declaration
import Chip8.Proofs.Substitution
import Mathlib.Data.List.Basic

/-!
# Mnemonics

What the check of a declaration makes sure of: that a mnemonic consists of text and of names of
operands in braces. The passes of a disassembly then write every operand in its place and leave the
rest of the mnemonic alone.
-/

namespace Chip8

def Operand.ofName? (name : String) : Option Operand := Template.order.find? (·.name == name)

theorem Operand.ofName?_name (f : Operand) : ofName? f.name = some f := by
  cases f <;> decide

theorem Layout.allows_iff {l : Layout} {name : String} :
    l.allows name = true ↔ ∃ f ∈ l.operands, f.name = name := by
  simp [allows]

namespace Template

def BraceFree (cs : List Char) : Prop := openBrace ∉ cs ∧ closeBrace ∉ cs

instance (cs : List Char) : Decidable (BraceFree cs) := inferInstanceAs (Decidable (_ ∧ _))

theorem braceFree_flatMap {α : Type} {f : α → List Char} {as : List α}
    (h : ∀ a ∈ as, BraceFree (f a)) : BraceFree (as.flatMap f) := by
  constructor <;> intro hmem <;> obtain ⟨a, ha, hc⟩ := List.mem_flatMap.mp hmem
  · exact (h a ha).1 hc
  · exact (h a ha).2 hc

/-- A part of a template: text, or something between a pair of braces. -/
inductive Part where
  | text (s : String)
  | braced (s : String)
  deriving DecidableEq, Repr

namespace Part

def source : Part → List Char
  | text s => s.toList
  | braced s => openBrace :: s.toList ++ [closeBrace]

def name? : Part → Option String
  | text _ => none
  | braced s => some s

/-- Text is free of braces. What stands in braces ends with the first that closes. -/
def Sound : Part → Prop
  | text s => BraceFree s.toList
  | braced s => closeBrace ∉ s.toList

/-- Only operands of the layout stand in braces. -/
def Allowed (l : Layout) : Part → Prop
  | text s => BraceFree s.toList
  | braced s => ∃ f ∈ l.operands, f.name = s

instance (p : Part) : Decidable p.Sound :=
  match p with
  | text s => inferInstanceAs (Decidable (BraceFree s.toList))
  | braced _ => inferInstanceAs (Decidable (¬ _))

instance (l : Layout) (p : Part) : Decidable (p.Allowed l) :=
  match p with
  | text s => inferInstanceAs (Decidable (BraceFree s.toList))
  | braced s => inferInstanceAs (Decidable (∃ f ∈ l.operands, f.name = s))

/-- The part with the value of its operand, if it names one. -/
def filled (radix : Radix) (o : Operands) : Part → List Char
  | text s => s.toList
  | p@(braced s) =>
    match Operand.ofName? s with
    | some f => (operandText radix o f).toList
    | none => p.source

/-- The part character by character. -/
def pieces : Part → List Piece
  | text s => s.toList.map .letter
  | braced s => (Operand.ofName? s).toList.map .slot

theorem Allowed.sound {l : Layout} {p : Part} (h : p.Allowed l) : p.Sound := by
  cases p with
  | text s => exact h
  | braced s =>
    obtain ⟨f, _, rfl⟩ := h
    cases f <;> decide

theorem allowed_braced_iff {l : Layout} {s : String} :
    (braced s).Allowed l ↔ l.allows s = true :=
  Layout.allows_iff.symm

end Part

variable {parts before later : List Part} {l : Layout} {t : String}

/-! ### Reading names -/

theorem scan_text {s rest : List Char} (h : BraceFree s) :
    scan none (s ++ rest) = scan none rest := by
  induction s with
  | nil => rfl
  | cons c s ih =>
    obtain ⟨hopen, hs⟩ := not_or.mp (mt List.mem_cons.mpr h.1)
    obtain ⟨hclose, hs'⟩ := not_or.mp (mt List.mem_cons.mpr h.2)
    rw [List.cons_append, scan, if_neg (Ne.symm hclose), if_neg (Ne.symm hopen), ih ⟨hs, hs'⟩]

theorem scan_name {name s rest : List Char} (hclose : closeBrace ∉ s) :
    scan (some name) (s ++ closeBrace :: rest) =
      (scan none rest).map (String.ofList (name.reverse ++ s) :: ·) := by
  induction s generalizing name with
  | nil =>
    rw [List.nil_append, scan, if_pos rfl, List.append_nil]
    cases scan none rest <;> rfl
  | cons c s ih =>
    obtain ⟨hc, hs⟩ := not_or.mp (mt List.mem_cons.mpr hclose)
    rw [List.cons_append, scan, if_neg (Ne.symm hc), ih hs, List.reverse_cons, List.append_assoc]
    rfl

theorem scan_name_unclosed {name s : List Char} (hclose : closeBrace ∉ s) :
    scan (some name) s = .error .unclosed := by
  induction s generalizing name with
  | nil => rfl
  | cons c s ih =>
    obtain ⟨hc, hs⟩ := not_or.mp (mt List.mem_cons.mpr hclose)
    rw [scan, if_neg (Ne.symm hc), ih hs]

/-- The names in sound parts are read off, whatever comes after them. -/
theorem scan_source (h : ∀ p ∈ parts, p.Sound) (rest : List Char) :
    scan none (parts.flatMap Part.source ++ rest) =
      (scan none rest).map (parts.filterMap Part.name? ++ ·) := by
  induction parts with
  | nil =>
    rw [List.flatMap_nil, List.nil_append]
    cases scan none rest <;> rfl
  | cons p parts ih =>
    obtain ⟨hp, hparts⟩ := List.forall_mem_cons.mp h
    rw [List.flatMap_cons, List.append_assoc]
    cases p with
    | text s =>
      rw [Part.source, scan_text hp, ih hparts]
      rfl
    | braced s =>
      rw [Part.source, List.cons_append, List.cons_append, List.append_assoc, List.singleton_append,
        scan, if_neg (by decide), if_pos rfl, scan_name hp, ih hparts, List.reverse_nil,
        List.nil_append, String.ofList_toList]
      cases scan none rest <;> rfl

/-- Text goes on soundly up to its end, to a brace that closes nothing, or to one that is never
closed. -/
theorem exists_parts (cs : List Char) :
    ∃ (parts : List Part) (rest : List Char),
      (∀ p ∈ parts, p.Sound) ∧ cs = parts.flatMap Part.source ++ rest ∧
      (rest = [] ∨ (∃ more, rest = closeBrace :: more) ∨
        ∃ s, closeBrace ∉ s ∧ rest = openBrace :: s) := by
  induction hlength : cs.length using Nat.strongRecOn generalizing cs with
  | ind n ih =>
    cases cs with
    | nil => exact ⟨[], [], nofun, rfl, .inl rfl⟩
    | cons c cs =>
      rw [List.length_cons] at hlength
      by_cases hclose : c = closeBrace
      · exact ⟨[], c :: cs, nofun, rfl, .inr (.inl ⟨cs, by rw [hclose]⟩)⟩
      by_cases hopen : c = openBrace
      · by_cases hmem : closeBrace ∈ cs
        · obtain ⟨s, more, rfl, hs⟩ := List.eq_append_cons_of_mem hmem
          rw [List.length_append, List.length_cons] at hlength
          obtain ⟨parts, rest, hparts, rfl, hrest⟩ := ih more.length (by omega) more rfl
          refine ⟨.braced (String.ofList s) :: parts, rest, ?_, ?_, hrest⟩
          · exact List.forall_mem_cons.mpr ⟨by rwa [Part.Sound, String.toList_ofList], hparts⟩
          · simp [Part.source, hopen]
        · exact ⟨[], c :: cs, nofun, rfl, .inr (.inr ⟨cs, hmem, by rw [hopen]⟩)⟩
      · obtain ⟨parts, rest, hparts, rfl, hrest⟩ := ih cs.length (by omega) cs rfl
        refine ⟨.text (String.singleton c) :: parts, rest, ?_, ?_, hrest⟩
        · refine List.forall_mem_cons.mpr ⟨?_, hparts⟩
          simp [Part.Sound, BraceFree, Ne.symm hopen, Ne.symm hclose]
        · simp [Part.source]

theorem placeholders_of_sound (h : ∀ p ∈ parts, p.Sound)
    (ht : t.toList = parts.flatMap Part.source) :
    placeholders t = .ok (parts.filterMap Part.name?) := by
  rw [placeholders, ht, ← List.append_nil (parts.flatMap Part.source), scan_source h]
  exact congrArg Except.ok (List.append_nil _)

/-- Names can be read off exactly if the braces pair up. -/
theorem placeholders_eq_error_iff (t : String) :
    (∃ e, placeholders t = .error e) ↔
      ¬ ∃ parts : List Part, (∀ p ∈ parts, p.Sound) ∧ t.toList = parts.flatMap Part.source := by
  constructor
  · rintro ⟨e, he⟩ ⟨parts, hparts, ht⟩
    rw [placeholders_of_sound hparts ht] at he
    cases he
  · intro hnone
    obtain ⟨parts, rest, hparts, ht, hrest⟩ := exists_parts t.toList
    rw [placeholders, ht, scan_source hparts]
    rcases hrest with rfl | ⟨more, rfl⟩ | ⟨s, hs, rfl⟩
    · exact absurd ⟨parts, hparts, by rw [ht, List.append_nil]⟩ hnone
    · exact ⟨.unmatched, rfl⟩
    · refine ⟨.unclosed, ?_⟩
      rw [scan, if_neg (by decide), if_pos rfl, scan_name_unclosed hs]
      rfl

/-! ### Checking names -/

theorem allows_of_mem_names (h : ∀ p ∈ parts, p.Allowed l) {name : String}
    (hname : name ∈ parts.filterMap Part.name?) : l.allows name = true := by
  obtain ⟨p, hp, hpname⟩ := List.mem_filterMap.mp hname
  cases p with
  | text s => cases hpname
  | braced s =>
    cases hpname
    exact Part.allowed_braced_iff.mp (h _ hp)

theorem checkMnemonic_of_allowed (h : ∀ p ∈ parts, p.Allowed l)
    (ht : t.toList = parts.flatMap Part.source) : checkMnemonic l t = .ok () := by
  have hnone : (parts.filterMap Part.name?).find? (fun name => !l.allows name) = none := by
    rw [List.find?_eq_none]
    intro name hname
    simp [allows_of_mem_names h hname]
  simp only [checkMnemonic, placeholders_of_sound (fun p hp => (h p hp).sound) ht, hnone]

theorem checkMnemonic_of_foreign {s : String} (h : ∀ p ∈ before ++ .braced s :: later, p.Sound)
    (hbefore : ∀ p ∈ before, p.Allowed l) (hs : ¬ (Part.braced s).Allowed l)
    (ht : t.toList = (before ++ .braced s :: later).flatMap Part.source) :
    checkMnemonic l t = .error (.notAnOperand s l) := by
  have hfirst : ((before ++ .braced s :: later).filterMap Part.name?).find?
      (fun name => !l.allows name) = some s := by
    have hname : (Part.braced s).name? = some s := rfl
    rw [List.filterMap_append, List.filterMap_cons_some hname]
    refine List.find?_eq_some_iff_append.mpr ⟨?_, _, _, rfl, ?_⟩
    · simpa [Part.allowed_braced_iff] using hs
    · intro name hname
      simp [allows_of_mem_names hbefore hname]
  simp only [checkMnemonic, placeholders_of_sound h ht, hfirst]

/-- Sound parts are all allowed, or there is a first name among them that is not. -/
theorem exists_first_foreign (l : Layout) (h : ∀ p ∈ parts, p.Sound) :
    (∀ p ∈ parts, p.Allowed l) ∨
      ∃ before s later, parts = before ++ .braced s :: later ∧ (∀ p ∈ before, p.Allowed l) ∧
        ¬ (Part.braced s).Allowed l := by
  induction parts with
  | nil => exact .inl nofun
  | cons p parts ih =>
    obtain ⟨hp, hparts⟩ := List.forall_mem_cons.mp h
    by_cases hallowed : p.Allowed l
    · rcases ih hparts with hall | ⟨before, s, later, rfl, hbefore, hs⟩
      · exact .inl (List.forall_mem_cons.mpr ⟨hallowed, hall⟩)
      · exact .inr ⟨p :: before, s, later, rfl, List.forall_mem_cons.mpr ⟨hallowed, hbefore⟩, hs⟩
    · cases p with
      | text s => exact absurd hp hallowed
      | braced s => exact .inr ⟨[], s, parts, rfl, nofun, hallowed⟩

theorem checkMnemonic_eq_brace_iff (l : Layout) (t : String) :
    (∃ e, checkMnemonic l t = .error (.brace e)) ↔ ∃ e, placeholders t = .error e := by
  unfold checkMnemonic
  cases placeholders t with
  | error e => simp
  | ok names => cases hfind : names.find? fun name => !l.allows name <;> simp [hfind]

/-! ### Filling -/

variable {radix : Radix} {o : Operands}

theorem plain_pieces {p : Part} (h : p.Allowed l) : Plain p.pieces := by
  cases p with
  | text s =>
    obtain ⟨hopen, hclose⟩ := h
    simp [Plain, Part.pieces, hopen, hclose]
  | braced s =>
    obtain ⟨f, _, rfl⟩ := h
    simp [Plain, Part.pieces, Operand.ofName?_name]

theorem source_pieces {p : Part} (h : p.Allowed l) :
    p.pieces.flatMap Piece.source = p.source := by
  cases p with
  | text s => simp [Part.pieces, Part.source, Piece.source, List.flatMap_map]
  | braced s =>
    obtain ⟨f, _, rfl⟩ := h
    rw [Part.pieces, Operand.ofName?_name]
    cases f <;> decide

theorem written_pieces {p : Part} (h : p.Allowed l) :
    p.pieces.flatMap (Piece.written radix o) = p.filled radix o := by
  cases p with
  | text s => simp [Part.pieces, Part.filled, Piece.written, List.flatMap_map]
  | braced s =>
    obtain ⟨f, _, rfl⟩ := h
    simp [Part.pieces, Part.filled, Piece.written, Operand.ofName?_name]

/-- The passes do to an allowed template what one substitution of all operands does. -/
theorem fill_of_allowed (radix : Radix) (o : Operands) (h : ∀ p ∈ parts, p.Allowed l)
    (ht : t.toList = parts.flatMap Part.source) :
    (fill radix o t).toList = parts.flatMap (Part.filled radix o) := by
  have hplain : Plain (parts.flatMap Part.pieces) := by
    constructor <;> intro hmem <;> obtain ⟨p, hp, hbrace⟩ := List.mem_flatMap.mp hmem
    · exact (plain_pieces (h p hp)).1 hbrace
    · exact (plain_pieces (h p hp)).2 hbrace
  have hsource : (parts.flatMap Part.pieces).flatMap Piece.source = t.toList := by
    rw [List.flatMap_assoc, ht]
    exact List.flatMap_congr fun p hp => source_pieces (h p hp)
  have hfill := fill_source radix o hplain
  rw [hsource, String.ofList_toList] at hfill
  rw [hfill, String.toList_ofList, List.flatMap_assoc]
  exact List.flatMap_congr fun p hp => written_pieces (h p hp)

theorem braceFree_filled {p : Part} (radix : Radix) (o : Operands) (h : p.Allowed l) :
    BraceFree (p.filled radix o) := by
  cases p with
  | text s => exact h
  | braced s =>
    obtain ⟨f, _, rfl⟩ := h
    simp only [Part.filled, Operand.ofName?_name]
    exact ⟨openBrace_notMem_operandText radix o f,
      fun hclose => absurd (mem_operandText hclose) (by decide)⟩

/-- A mnemonic is accepted if and only if it consists of text without braces and of operands of the
layout in braces. It is refused for its braces if and only if it cannot be read as text and names in
braces at all; otherwise the first name that is no operand is reported. The passes that fill an accepted
mnemonic do the same as writing every operand in its place at once, and leave no brace behind. -/
theorem mnemonics_checked_and_filled (l : Layout) (t : String) :
    (checkMnemonic l t = .ok () ↔
      ∃ parts : List Part, (∀ p ∈ parts, p.Allowed l) ∧ t.toList = parts.flatMap Part.source) ∧
    ((∃ e, checkMnemonic l t = .error (.brace e)) ↔
      ¬ ∃ parts : List Part, (∀ p ∈ parts, p.Sound) ∧ t.toList = parts.flatMap Part.source) ∧
    (∀ parts : List Part, (∀ p ∈ parts, p.Sound) → t.toList = parts.flatMap Part.source →
      checkMnemonic l t ≠ .ok () →
      ∃ before s later, parts = before ++ .braced s :: later ∧ (∀ p ∈ before, p.Allowed l) ∧
        ¬ (Part.braced s).Allowed l ∧ checkMnemonic l t = .error (.notAnOperand s l)) ∧
    ∀ (parts : List Part) (radix : Radix) (o : Operands), (∀ p ∈ parts, p.Allowed l) →
      t.toList = parts.flatMap Part.source →
      (fill radix o t).toList = parts.flatMap (Part.filled radix o) ∧
        BraceFree (fill radix o t).toList := by
  have hbrace := (checkMnemonic_eq_brace_iff l t).trans (placeholders_eq_error_iff t)
  refine ⟨⟨?accepted, ?allowed⟩, hbrace, ?foreign, ?filled⟩
  case accepted =>
    intro hok
    have hsound : ∃ parts : List Part, (∀ p ∈ parts, p.Sound) ∧
        t.toList = parts.flatMap Part.source := by
      refine Classical.byContradiction fun hnone => ?_
      obtain ⟨e, he⟩ := hbrace.mpr hnone
      rw [hok] at he
      cases he
    obtain ⟨parts, hparts, ht⟩ := hsound
    rcases exists_first_foreign l hparts with hall | ⟨before, s, later, rfl, hbefore, hs⟩
    · exact ⟨parts, hall, ht⟩
    · rw [checkMnemonic_of_foreign hparts hbefore hs ht] at hok
      cases hok
  case allowed =>
    rintro ⟨parts, hparts, ht⟩
    exact checkMnemonic_of_allowed hparts ht
  case foreign =>
    intro parts hparts ht hrefused
    rcases exists_first_foreign l hparts with hall | ⟨before, s, later, rfl, hbefore, hs⟩
    · exact absurd (checkMnemonic_of_allowed hall ht) hrefused
    · exact ⟨before, s, later, rfl, hbefore, hs, checkMnemonic_of_foreign hparts hbefore hs ht⟩
  case filled =>
    intro parts radix o hparts ht
    rw [fill_of_allowed radix o hparts ht]
    exact ⟨rfl, braceFree_flatMap fun p hp => braceFree_filled radix o (hparts p hp)⟩

/-- The height of a sprite is an operand of `DRW` and the address is not. A mnemonic that ends inside a
name cannot be read. -/
theorem mnemonics_checked_and_filled_DRW :
    let parts (name : String) : List Part := [.text "DRW V", .braced "x", .text ", ", .braced name]
    let mnemonic (name : String) : String := String.ofList ((parts name).flatMap Part.source)
    checkMnemonic .xyn (mnemonic "n") = .ok () ∧
      (fill .decimal { x := 0xA, n := 0xB } (mnemonic "n")).toList = "DRW VA, 11".toList ∧
      (∀ p ∈ parts "nnn", p.Sound) ∧ checkMnemonic .xyn (mnemonic "nnn") ≠ .ok () ∧
      (∃ before s later, parts "nnn" = before ++ .braced s :: later ∧
        checkMnemonic .xyn (mnemonic "nnn") = .error (.notAnOperand s .xyn)) ∧
      ¬ ∃ parts : List Part, (∀ p ∈ parts, p.Sound) ∧
        "SKP V\x7bx".toList = parts.flatMap Part.source := by
  intro parts mnemonic
  have hmnemonic (name : String) : (mnemonic name).toList = (parts name).flatMap Part.source :=
    String.toList_ofList
  have hallowed : ∀ p ∈ parts "n", p.Allowed .xyn := by decide
  have hsound : ∀ p ∈ parts "nnn", p.Sound := by decide
  have hrefused : checkMnemonic .xyn (mnemonic "nnn") ≠ .ok () := by decide
  have hunclosed : checkMnemonic .x "SKP V\x7bx" = .error (.brace .unclosed) := rfl
  obtain ⟨haccepts, _, _, hfills⟩ := mnemonics_checked_and_filled .xyn (mnemonic "n")
  obtain ⟨_, _, hnames, _⟩ := mnemonics_checked_and_filled .xyn (mnemonic "nnn")
  obtain ⟨_, hbraces, _, _⟩ := mnemonics_checked_and_filled .x "SKP V\x7bx"
  refine ⟨haccepts.mpr ⟨_, hallowed, hmnemonic "n"⟩, ?_, hsound, hrefused, ?_,
    hbraces.mp ⟨_, hunclosed⟩⟩
  · exact (hfills _ .decimal { x := 0xA, n := 0xB } hallowed (hmnemonic "n")).1.trans (by decide)
  · obtain ⟨before, s, later, hparts, _, _, herror⟩ := hnames _ hsound (hmnemonic "nnn") hrefused
    exact ⟨before, s, later, hparts, herror⟩

end Template

end Chip8
