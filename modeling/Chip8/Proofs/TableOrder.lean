import Chip8.Proofs.Assembly
import Chip8.Proofs.Faults

/-!
# The order of a table

A row of a table stands for the opcodes that show its pattern under its mask, and the larger its mask
the fewer they are. Where every row stands above the less specific ones that it overlaps, the first
match is the most specific one. Whether two rows overlap, and whether one hides the other, shows in
their bits.
-/

namespace Chip8

namespace Opcode

/-- Every bit of `a` is a bit of `b`. -/
def Within (a b : Opcode) : Prop := a &&& ~~~b = 0

instance (a b : Opcode) : Decidable (Within a b) := inferInstanceAs (Decidable (_ = _))

variable {a b : Opcode}

theorem within_iff : Within a b ↔ a &&& b = a := and_not_eq_zero_iff

theorem Within.refl (a : Opcode) : Within a a := BitVec.and_not_self a

theorem or_and_self (a b : Opcode) : a ||| a &&& b = a := by
  apply BitVec.eq_of_getLsbD_eq
  intro i _
  rw [BitVec.getLsbD_or, BitVec.getLsbD_and]
  cases BitVec.getLsbD a i <;> rfl

theorem and_or_self (a b : Opcode) : a &&& (a ||| b) = a := by
  rw [BitVec.and_or_distrib_left, BitVec.and_self, or_and_self]

end Opcode

namespace Encoding

open Opcode (Within)

/-- The pattern shows no bit that the mask leaves open. -/
def Closed (e : Encoding) : Prop := Within e.pattern e.mask

instance (e : Encoding) : Decidable e.Closed := inferInstanceAs (Decidable (Within _ _))

/-- Some opcode shows the patterns of both. -/
def Overlaps (e f : Encoding) : Prop := ∃ w, e.accepts w = true ∧ f.accepts w = true

/-- Of two rows that overlap, the upper one is at least as specific. -/
def Ordered {α : Type} (encoding : α → Encoding) (rows : List α) : Prop :=
  rows.Pairwise fun r r' =>
    (encoding r).Overlaps (encoding r') → Within (encoding r').mask (encoding r).mask

variable {e f : Encoding}

theorem closed_of_checkBits (he : checkBits e.pattern e.mask e.layout = .ok ()) : e.Closed :=
  Opcode.within_iff.mpr (checkBits_eq_ok_iff.mp he).1

/-! ### Rows as sets of opcodes -/

theorem accepts_pattern (he : e.Closed) : e.accepts e.pattern = true :=
  accepts_iff.mpr (Opcode.within_iff.mp he)

/-- The largest opcode that a row accepts. -/
theorem accepts_largest (he : e.Closed) : e.accepts (e.pattern ||| ~~~e.mask) = true := by
  rw [accepts_iff, BitVec.and_or_distrib_right, Opcode.within_iff.mp he, BitVec.not_and_self]
  exact BitVec.or_zero

/-- Rows overlap if their patterns agree in the bits that both of them fix. -/
theorem overlaps_iff (he : e.Closed) (hf : f.Closed) :
    e.Overlaps f ↔ e.pattern &&& f.mask = f.pattern &&& e.mask := by
  constructor
  · rintro ⟨w, hew, hfw⟩
    exact patterns_agree hew hfw
  · intro h
    -- The two patterns put together show both of them.
    refine ⟨e.pattern ||| f.pattern, accepts_iff.mpr ?_, accepts_iff.mpr ?_⟩
    · calc (e.pattern ||| f.pattern) &&& e.mask
          = e.pattern ||| e.pattern &&& f.mask := by
            rw [BitVec.and_or_distrib_right, Opcode.within_iff.mp he, h]
        _ = e.pattern := Opcode.or_and_self _ _
    · calc (e.pattern ||| f.pattern) &&& f.mask
          = f.pattern &&& e.mask ||| f.pattern := by
            rw [BitVec.and_or_distrib_right, Opcode.within_iff.mp hf, h]
        _ = f.pattern := by rw [BitVec.or_comm]; exact Opcode.or_and_self _ _

/-- Row `e` hides row `f` if it fixes no bit that `f` leaves open, and `f` shows its pattern. -/
theorem forall_accepts_iff (hf : f.Closed) :
    (∀ w, f.accepts w = true → e.accepts w = true) ↔
      f.pattern &&& e.mask = e.pattern ∧ e.mask &&& ~~~f.mask = 0 := by
  constructor
  · intro h
    have hpattern := accepts_iff.mp (h _ (accepts_pattern hf))
    have hlargest := accepts_iff.mp (h _ (accepts_largest hf))
    rw [BitVec.and_or_distrib_right, hpattern] at hlargest
    refine ⟨hpattern, ?_⟩
    -- A bit that only `e` fixes is set in the largest opcode of `f` and not in its pattern.
    calc e.mask &&& ~~~f.mask
        = ~~~f.mask &&& e.mask &&& (e.pattern ||| ~~~f.mask &&& e.mask) := by
          rw [BitVec.or_comm, Opcode.and_or_self, BitVec.and_comm]
      _ = ~~~f.mask &&& e.mask &&& (f.pattern &&& e.mask) := by rw [hlargest, hpattern]
      _ = e.mask &&& e.mask &&& (f.pattern &&& ~~~f.mask) := by ac_rfl
      _ = 0 := by rw [show f.pattern &&& ~~~f.mask = 0 from hf]; exact BitVec.and_zero
  · rintro ⟨hpattern, hmask⟩ w hw
    rw [accepts_iff] at hw ⊢
    calc w &&& e.mask
        = w &&& (e.mask &&& f.mask) := by rw [Opcode.within_iff.mp hmask]
      _ = w &&& f.mask &&& e.mask := by rw [BitVec.and_comm e.mask, BitVec.and_assoc]
      _ = e.pattern := by rw [hw, hpattern]

/-! ### The first match -/

variable {α : Type} {encoding : α → Encoding} {rows : List α} {w : Opcode}

theorem firstMatch?_eq_none_iff :
    firstMatch? encoding rows w = none ↔ ∀ r ∈ rows, (encoding r).accepts w = false := by
  simp [firstMatch?]

/-- Whether a table is in order shows in the bits of its rows. -/
theorem ordered_iff (hclosed : ∀ r ∈ rows, (encoding r).Closed) :
    Ordered encoding rows ↔ rows.Pairwise fun r r' =>
      (encoding r).pattern &&& (encoding r').mask = (encoding r').pattern &&& (encoding r).mask →
        Within (encoding r').mask (encoding r).mask := by
  apply List.Pairwise.iff_of_mem
  intro r r' hr hr'
  rw [overlaps_iff (hclosed r hr) (hclosed r' hr')]

/-- Of the rows that accept an opcode, each is at least as specific as those below it. -/
theorem pairwise_allMatches (hrows : Ordered encoding rows) (w : Opcode) :
    (allMatches encoding rows w).Pairwise fun r r' =>
      Within (encoding r').mask (encoding r).mask := by
  apply (hrows.filter _).imp_of_mem
  intro r r' hr hr' hspecific
  exact hspecific ⟨w, (List.mem_filter.mp hr).2, (List.mem_filter.mp hr').2⟩

theorem within_of_firstMatch {r r' : α} (hrows : Ordered encoding rows)
    (hr : firstMatch? encoding rows w = some r) (hr' : r' ∈ rows)
    (haccepts : (encoding r').accepts w = true) :
    Within (encoding r').mask (encoding r).mask := by
  rw [firstMatch?_eq_head?, List.head?_eq_some_iff] at hr
  obtain ⟨rest, hmatches⟩ := hr
  have hspecific := pairwise_allMatches hrows w
  have hmem : r' ∈ allMatches encoding rows w := List.mem_filter.mpr ⟨hr', haccepts⟩
  rw [hmatches] at hspecific hmem
  rcases List.mem_cons.mp hmem with rfl | hbelow
  · exact Within.refl _
  · exact List.rel_of_pairwise_cons hspecific hbelow

end Encoding

/-! ### The table of instructions -/

namespace Op

theorem closed_encoding (op : Op) : op.encoding.Closed :=
  Encoding.closed_of_checkBits op.checkBits_encoding

theorem ordered_all : Encoding.Ordered encoding all := by
  rw [Encoding.ordered_iff fun op _ => op.closed_encoding]
  decide +kernel

end Op

theorem firstMatch?_of_decode {w : Opcode} {d : Decoded} (hd : decode w = .ok d) :
    Encoding.firstMatch? Op.encoding Op.all w = some d.op := by
  unfold decode at hd
  split at hd
  · rename_i op hop
    cases hd
    exact hop
  · cases hd

/-- In a table of any length in which every row stands above the less specific ones that it overlaps,
the first row that accepts an opcode has the mask that contains those of all others that do, and there
is none only if no row accepts it. The instructions form such a table, so that decoding finds the most
specific instruction, and never takes a `CLS` or a `RET` for a `SYS`. A row whose pattern lies within its
mask, as the check of a declaration makes sure of, is hidden by another exactly when the test on their
bits says so. -/
theorem Encoding.first_match_most_specific :
    (∀ {α : Type} (encoding : α → Encoding) (rows : List α), Ordered encoding rows → ∀ w,
      (firstMatch? encoding rows w = none ↔ ∀ r ∈ rows, (encoding r).accepts w = false) ∧
      ∀ r, firstMatch? encoding rows w = some r →
        r ∈ rows ∧ (encoding r).accepts w = true ∧
          ∀ r' ∈ rows, (encoding r').accepts w = true →
            Opcode.Within (encoding r').mask (encoding r).mask) ∧
    ((∀ op : Op, op.encoding.Closed) ∧ Ordered Op.encoding Op.all) ∧
    (∀ (w : Opcode) (d : Decoded), decode w = .ok d →
      (∀ op : Op, op.encoding.accepts w = true →
        Opcode.Within op.encoding.mask d.op.encoding.mask) ∧
      (Op.cls.encoding.accepts w = true ∨ Op.ret.encoding.accepts w = true → d.op ≠ .sys)) ∧
    (∀ (d : Declaration) (e : Encoding), d.check = .ok e → e.Closed) ∧
    ∀ earlier later : Encoding, later.Closed →
      ((∀ w, later.accepts w = true → earlier.accepts w = true) ↔
        later.pattern &&& earlier.mask = earlier.pattern ∧
          earlier.mask &&& ~~~later.mask = 0) := by
  have hdecode {w : Opcode} {d : Decoded} (hd : decode w = .ok d) (op : Op)
      (hop : op.encoding.accepts w = true) :
      Opcode.Within op.encoding.mask d.op.encoding.mask :=
    within_of_firstMatch Op.ordered_all (firstMatch?_of_decode hd) op.mem_all hop
  refine ⟨?first, ⟨Op.closed_encoding, Op.ordered_all⟩, ?decode, ?check, ?hidden⟩
  case first =>
    intro α encoding rows hrows w
    refine ⟨firstMatch?_eq_none_iff, fun r hr => ⟨List.mem_of_find?_eq_some hr, ?_, ?_⟩⟩
    · exact List.find?_some (p := fun r => (encoding r).accepts w) hr
    · intro r' hr' haccepts
      exact within_of_firstMatch hrows hr hr' haccepts
  case decode =>
    intro w d hd
    refine ⟨hdecode hd, ?_⟩
    rintro (hcls | hret) hsys
    · have hmask := hdecode hd .cls hcls
      rw [hsys] at hmask
      exact absurd hmask (by decide)
    · have hmask := hdecode hd .ret hret
      rw [hsys] at hmask
      exact absurd hmask (by decide)
  case check =>
    intro d e he
    exact closed_of_checkBits (Declaration.check_eq_ok_iff.mp he).bits
  case hidden =>
    intro earlier later hlater
    exact forall_accepts_iff hlater

/-- A row that scrolls by `n` lines, above one that accepts its opcodes too. It shares no opcode with
the row between them, of which neither is more specific than the other. -/
theorem Encoding.first_match_most_specific_scroll :
    let scroll : Encoding := ⟨"scroll", 0x00C0, 0xFFF0, .bare, "SCROLL"⟩
    let rows := [scroll, Op.skp.encoding, Op.sys.encoding]
    Ordered (fun e => e) rows ∧ firstMatch? (fun e => e) rows 0x00C5 = some scroll ∧
      Opcode.Within Op.sys.encoding.mask scroll.mask ∧
      ¬ Opcode.Within Op.skp.encoding.mask scroll.mask ∧
      ∀ w, scroll.accepts w = true → Op.sys.encoding.accepts w = true := by
  intro scroll rows
  have hclosed : ∀ r ∈ rows, r.Closed := by decide
  have hordered : Ordered (fun e => e) rows := by
    rw [ordered_iff hclosed]
    decide
  have hmatch : firstMatch? (fun e => e) rows 0x00C5 = some scroll := by decide
  obtain ⟨hfirst, _, _, _, hhidden⟩ := first_match_most_specific
  obtain ⟨_, hspecific⟩ := hfirst (fun e => e) rows hordered 0x00C5
  obtain ⟨_, _, hmasks⟩ := hspecific scroll hmatch
  refine ⟨hordered, hmatch, hmasks Op.sys.encoding (by simp [rows]) rfl, by decide, ?_⟩
  exact (hhidden Op.sys.encoding scroll (hclosed _ (by simp [rows]))).mpr ⟨by decide, by decide⟩

end Chip8
