import Chip8.Proofs.Comparison
import Mathlib.Order.Interval.Set.Defs
import Mathlib.Order.BooleanAlgebra.Set

/-!
# Where memory matters

A step reads its two opcode bytes and what its instruction reads from the index register on, and no
other byte of memory. Bytes that are not read may be anything: the step does the same, and they stay
as they are unless it writes them. So a run cannot tell what lies in memory that it reads only after
writing it.
-/

namespace Chip8

namespace State

/-- The addresses that the next step reads. -/
def reads (c : Config) (s : State) : Set Nat :=
  {a | s.mode = .running ∧ (a = s.pc ∨ a = s.pc + 1)} ∪ Set.Ico s.index (s.index + s.readLength c)

/-- The addresses that the next step writes if it succeeds. -/
def writes (c : Config) (s : State) : Set Nat := Set.Ico s.index (s.index + s.writeLength c)

/-- The states differ at most in the memory at addresses of `A`. -/
def SameButMemory (A : Set Nat) (s s' : State) : Prop :=
  ∃ m, s' = { s with memory := m } ∧ ∀ a, a ∉ A → m.byte a = s.memory.byte a

/-- From `s` and `s'`, which may differ in memory, come `t` and `t'`, which differ at most at addresses
of `A`. There each has the byte that it started with. -/
structure KeepApart (A : Set Nat) (s s' t t' : State) : Prop where
  same : t.SameButMemory A t'
  kept : ∀ a ∈ A, t.memory.byte a = s.memory.byte a ∧ t'.memory.byte a = s'.memory.byte a

variable {A B : Set Nat} {c : Config} {s s' t t' u u' : State}

theorem mem_reads_of_executing {d : Decoded} {a : Nat} (hd : s.executing? = some d) :
    a ∈ s.reads c ↔
      a = s.pc ∨ a = s.pc + 1 ∨ s.index ≤ a ∧ a < s.index + d.op.readLength c d.operands := by
  obtain ⟨hmode, _⟩ := executing?_eq_some_iff.mp hd
  simp [reads, readLength, hmode, hd, or_assoc]

theorem mem_range_of_reads {d : Decoded} {a : Nat} (hd : s.executing? = some d) (ha : a ∈ s.reads c)
    (hpc : s.pc + 1 < a) : s.index ≤ a ∧ a < s.index + d.op.readLength c d.operands := by
  rcases (mem_reads_of_executing hd).mp ha with rfl | rfl | hrange
  · exact absurd hpc (Nat.not_lt.mpr (Nat.le_succ s.pc))
  · exact absurd hpc (Nat.lt_irrefl _)
  · exact hrange

theorem mem_writes_of_executing {d : Decoded} {a : Nat} (hd : s.executing? = some d) :
    a ∈ s.writes c ↔ s.index ≤ a ∧ a < s.index + d.op.writeLength c d.operands := by
  simp [writes, writeLength, hd]

theorem KeepApart.refl (h : s.SameButMemory A s') : KeepApart A s s' s s' :=
  ⟨h, fun _ _ => ⟨rfl, rfl⟩⟩

theorem KeepApart.trans (h : KeepApart A s s' t t') (h' : KeepApart B t t' u u') (hB : B ⊆ A) :
    KeepApart B s s' u u' where
  same := h'.same
  kept := by
    intro a ha
    obtain ⟨hfirst, hfirst'⟩ := h.kept a (hB ha)
    obtain ⟨hthen, hthen'⟩ := h'.kept a ha
    exact ⟨hthen.trans hfirst, hthen'.trans hfirst'⟩

theorem SameButMemory.currentOpcode (h : s.SameButMemory A s')
    (hreads : ∀ a ∈ A, a ∉ s.reads c) (hmode : s.mode = .running) :
    s'.currentOpcode = s.currentOpcode := by
  obtain ⟨m, rfl, hbytes⟩ := h
  apply Memory.word_congr
  · exact hbytes s.pc fun ha => hreads _ ha (.inl ⟨hmode, .inl rfl⟩)
  · exact hbytes (s.pc + 1) fun ha => hreads _ ha (.inl ⟨hmode, .inr rfl⟩)

end State

namespace Machine

variable {A : Set Nat} {c : Config} {key : Option Key} {keys : List (Option Key)} {g : Generator}
  {s s' t t' : State}

theorem looksAlike_of_unread (h : s.SameButMemory A s') (hreads : ∀ a ∈ A, a ∉ s.reads c) :
    LooksAlike c c key key s s' := by
  have hopcode := h.currentOpcode hreads
  obtain ⟨m, rfl, hbytes⟩ := h
  refine ⟨⟨rfl, rfl, rfl, rfl, rfl⟩, hopcode, fun _ _ => rfl, ?sees, fun d _ => .refl ..⟩
  case sees =>
    intro d hd
    refine ⟨fun _ => rfl, fun _ => rfl, fun _ => rfl, fun a hlow hhigh => hbytes a fun ha => ?_⟩
    exact hreads a ha ((State.mem_reads_of_executing hd).mpr (.inr (.inr ⟨hlow, hhigh⟩)))

/-- What a step writes is the same in both memories afterwards, everything else stays. -/
theorem ActsAlike.keepApart (h : ActsAlike c c key key s s' t t') (hs : s.SameButMemory A s') :
    State.KeepApart (A \ s.writes c) s s' t t' := by
  obtain ⟨m, rfl, hbytes⟩ := hs
  obtain ⟨bytes, hlength, hwrite, hwrite'⟩ := h.memory
  have houtside : ∀ a, a ∉ s.writes c →
      t.memory.byte a = s.memory.byte a ∧ t'.memory.byte a = m.byte a := by
    intro a ha
    have hrange : a < s.index ∨ s.index + bytes.length ≤ a := by
      rw [hlength]
      rcases Nat.lt_or_ge a s.index with hlow | hlow
      · exact .inl hlow
      · exact .inr (Nat.not_lt.mp fun hhigh => ha ⟨hlow, hhigh⟩)
    exact ⟨Memory.byte_write_of_outside hwrite hrange, Memory.byte_write_of_outside hwrite' hrange⟩
  constructor
  case same =>
    refine ⟨t'.memory, ?eq, fun a ha => ?bytes⟩
    case eq =>
      exact State.ext rfl h.core.registers h.core.index h.core.pc h.core.stack
        (h.timer .delay rfl rfl rfl) (h.timer .sound rfl rfl rfl) (h.display rfl) (h.key rfl)
        h.core.mode (h.phase rfl rfl)
    case bytes =>
      by_cases hwritten : a ∈ s.writes c
      · obtain ⟨hlow, hhigh⟩ := hwritten
        rw [← hlength] at hhigh
        exact Memory.byte_write_of_inside hwrite hwrite' hlow hhigh
      · obtain ⟨ht, ht'⟩ := houtside a hwritten
        rw [ht, ht']
        exact hbytes a fun hA => ha ⟨hA, hwritten⟩
  case kept => exact fun a ha => houtside a ha.2

/-- A step cannot tell what lies at addresses that it does not read. -/
theorem step_alike_of_unread (h : s.SameButMemory A s') (hreads : ∀ a ∈ A, a ∉ s.reads c) :
    (step c key s g).Alike (State.KeepApart (A \ s.writes c) s s') (step c key s' g) := by
  have hlooks : LooksAlike c c key key s s' := looksAlike_of_unread h hreads
  have hsteps := step_alike g hlooks
  exact ⟨hsteps.outcome.imp fun _ _ _ _ hacts => hacts.keepApart h, hsteps.generator⟩

/-! ### Runs -/

/-- The addresses that the steps of a run write. A step that fails writes nothing. -/
def overwritten (c : Config) : List (Option Key) → State → Generator → Set Nat
  | [], _, _ => ∅
  | key :: keys, s, g =>
    let r := step c key s g
    match r.outcome with
    | .error _ => ∅
    | .ok t => s.writes c ∪ overwritten c keys t r.generator

theorem overwritten_cons_of_ok (h : (step c key s g).outcome = .ok t) :
    overwritten c (key :: keys) s g =
      s.writes c ∪ overwritten c keys t (step c key s g).generator := by
  simp [overwritten, h]

theorem overwritten_cons_of_error {f : Fault} (h : (step c key s g).outcome = .error f) :
    overwritten c (key :: keys) s g = ∅ := by
  simp [overwritten, h]

/-- No step of the run reads an address of `A` that no step before has written. -/
def ReadsOverwritten (A : Set Nat) (c : Config) (keys : List (Option Key)) (s : State)
    (g : Generator) : Prop :=
  ∀ (i : Nat) t, (starts c keys s g)[i]? = some t → ∀ a ∈ A, a ∈ t.reads c →
    a ∈ overwritten c (keys.take i) s g

theorem ReadsOverwritten.first (h : ReadsOverwritten A c (key :: keys) s g) :
    ∀ a ∈ A, a ∉ s.reads c :=
  fun a ha hread => h 0 s (getElem?_starts_zero c key keys s g) a ha hread

/-- What the first step has written need not concern the steps after it. -/
theorem ReadsOverwritten.rest (h : ReadsOverwritten A c (key :: keys) s g)
    (hstep : (step c key s g).outcome = .ok t) :
    ReadsOverwritten (A \ s.writes c) c keys t (step c key s g).generator := by
  intro i u hu a ha hread
  have hlater : (starts c (key :: keys) s g)[i + 1]? = some u := by
    rw [starts_cons_of_ok hstep, List.getElem?_cons_succ]
    exact hu
  have hwritten := h (i + 1) u hlater a ha.1 hread
  rw [List.take_succ_cons, overwritten_cons_of_ok hstep] at hwritten
  exact hwritten.resolve_left ha.2

theorem runKeys_alike_of_unread (h : s.SameButMemory A s') (hreads : ReadsOverwritten A c keys s g)
    (n : Nat) :
    (runKeys c (keys.take n) s g).Alike
      (State.KeepApart (A \ overwritten c (keys.take n) s g) s s')
      (runKeys c (keys.take n) s' g) := by
  -- The set shrinks along the run: what the first step has written is the same in both from there on,
  -- and the rest of the run is compared on what is left.
  induction n generalizing keys A s s' g with
  | zero =>
    rw [List.take_zero, overwritten, Set.sdiff_empty]
    exact ⟨.refl h, rfl, rfl⟩
  | succ n ih =>
    match keys with
    | [] =>
      rw [List.take_nil, overwritten, Set.sdiff_empty]
      exact ⟨.refl h, rfl, rfl⟩
    | key :: keys =>
      rw [List.take_succ_cons]
      apply runKeys_cons_alike (step_alike_of_unread h hreads.first)
      · intro f hstep
        rw [overwritten_cons_of_error hstep, Set.sdiff_empty]
        exact .refl h
      · intro t t' hstep _ hfirst
        have hrest := ih hfirst.same (hreads.rest hstep)
        rw [overwritten_cons_of_ok hstep, ← Set.sdiff_sdiff]
        exact hrest.imp fun hlater => hfirst.trans hlater Set.sdiff_subset

/-- What memory can do to a run. Two states that differ only in memory at `A` take the same step if it
reads no address of `A`: they fail with the same fault, or go to states that differ only in memory at
the addresses of `A` that were not written, and there each keeps its bytes. The same holds of a run, of
any length, in which no step reads an address of `A` before it has been written. -/
theorem memory_matters (h : s.SameButMemory A s') :
    (∀ key g, (∀ a ∈ A, a ∉ s.reads c) →
      (step c key s g).Alike (State.KeepApart (A \ s.writes c) s s') (step c key s' g)) ∧
    ∀ keys g, ReadsOverwritten A c keys s g →
      ∀ n, (runKeys c (keys.take n) s g).Alike
        (State.KeepApart (A \ overwritten c (keys.take n) s g) s s')
        (runKeys c (keys.take n) s' g) :=
  ⟨fun _ _ hreads => step_alike_of_unread h hreads,
    fun _ _ hreads n => runKeys_alike_of_unread h hreads n⟩

/-- `LD I, 300`, `LD [I], V0` and `LD V0, [I]`, with other bytes at 300 and 301. The third step reads
the byte at 300, but by then both machines have written it. -/
theorem memory_matters_overwritten :
    ∃ s, State.loadProgram [0xA3, 0x00, 0xF0, 0x55, 0xF0, 0x65] = .ok s ∧
      let other : State := { s with memory := s.memory.store 0x300 [7, 9] }
      let A : Set Nat := Set.Ico 0x300 0x302
      let keys : List (Option Key) := [none, none, none]
      let g : Generator := Generator.cycling #[]
      (step {} none s g).Alike (State.KeepApart (A \ s.writes {}) s other)
        (step {} none other g) ∧
      ∀ n, (runKeys {} (keys.take n) s g).Alike
        (State.KeepApart (A \ overwritten {} (keys.take n) s g) s other)
        (runKeys {} (keys.take n) other g) := by
  let program : List Byte := [0xA3, 0x00, 0xF0, 0x55, 0xF0, 0x65]
  let keys : List (Option Key) := [none, none, none]
  let g : Generator := Generator.cycling #[]
  let s : State := { State.initial with memory := Memory.initial.store programStart program }
  let storing : State := { s with pc := 0x202, index := 0x300, phase := 1 }
  let loading : State :=
    { storing with memory := storing.memory.store 0x300 [0], pc := 0x204, phase := 2 }
  let last : State :=
    { loading with
      registers := loading.registers.fill (loading.memory.slice 0x300 1), pc := 0x206, phase := 3 }
  have hload : State.loadProgram program = .ok s :=
    State.load_eq_ok_iff.mpr ⟨by decide, by decide, by decide, rfl⟩
  have hindex : s.executing? = some ⟨0xA300, .ldI, { nnn := 0x300 }⟩ :=
    State.executing?_of_stored program 0 0xA300 rfl (by decide) rfl rfl (by decide) (by decide) rfl
  have hstore : storing.executing? = some ⟨0xF055, .store, { x := 0 }⟩ :=
    State.executing?_of_stored program 2 0xF055 rfl (by decide) rfl rfl (by decide) (by decide) rfl
  have hreading : loading.executing? = some ⟨0xF065, .load, { x := 0 }⟩ := by
    have hsame : loading.memory.word 0x204 = s.memory.word 0x204 :=
      Memory.word_congr (Memory.byte_store_of_lt _ _ (by decide))
        (Memory.byte_store_of_lt _ _ (by decide))
    have hword : s.memory.word (programStart + 4) = .ok (Opcode.ofBytes 0xF0 0x65) :=
      Memory.word_store (by decide) (by decide)
    exact State.executing?_of_opcodeAt rfl (hsame.trans hword) rfl
  have hfirst : (step {} none s g).outcome = .ok storing := by
    rw [step_executing hindex]
    rfl
  have hsecond : (step {} none storing g).outcome = .ok loading := by
    rw [step_executing hstore]
    rfl
  have hthird : (step {} none loading g).outcome = .ok last := by
    rw [step_executing hreading]
    rfl
  have hfirstWord : (step {} none s g).generator = g := step_executing_generator hindex
  have hsecondWord : (step {} none storing g).generator = g := step_executing_generator hstore
  have hstarts : starts {} [none, none, none] s g = [s, storing, loading] := by
    rw [starts_cons_of_ok hfirst, hfirstWord, starts_cons_of_ok hsecond, hsecondWord,
      starts_cons_of_ok hthird]
    rfl
  have hwritten : 0x300 ∈ overwritten {} [none, none] s g := by
    rw [overwritten_cons_of_ok hfirst, hfirstWord, overwritten_cons_of_ok hsecond]
    exact .inr (.inl ((State.mem_writes_of_executing hstore).mpr (by decide)))
  have hother : s.SameButMemory (Set.Ico 0x300 0x302)
      { s with memory := s.memory.store 0x300 [7, 9] } := by
    refine ⟨_, rfl, fun a ha => ?_⟩
    rcases Nat.lt_or_ge a 0x300 with hlow | hlow
    · exact Memory.byte_store_of_lt _ _ hlow
    · exact Memory.byte_store_of_ge _ _ (Nat.not_lt.mp fun hhigh => ha ⟨hlow, hhigh⟩)
  have hfirstReads : ∀ a ∈ Set.Ico 0x300 0x302, a ∉ s.reads {} := by
    rintro a ⟨hlow, _⟩ hread
    have hpc : s.pc + 1 < a := Nat.lt_of_lt_of_le (by decide) hlow
    exact Nat.not_lt_zero a (State.mem_range_of_reads hindex hread hpc).2
  have hsecondReads : ∀ a ∈ Set.Ico 0x300 0x302, a ∉ storing.reads {} := by
    rintro a ⟨hlow, _⟩ hread
    have hpc : storing.pc + 1 < a := Nat.lt_of_lt_of_le (by decide) hlow
    exact Nat.not_lt.mpr hlow (State.mem_range_of_reads hstore hread hpc).2
  have hthirdReads : ∀ a ∈ Set.Ico 0x300 0x302, a ∈ loading.reads {} → a = 0x300 := by
    rintro a ⟨hlow, _⟩ hread
    have hpc : loading.pc + 1 < a := Nat.lt_of_lt_of_le (by decide) hlow
    have hlt := (State.mem_range_of_reads hreading hread hpc).2
    exact Nat.le_antisymm (Nat.lt_succ_iff.mp hlt) hlow
  obtain ⟨hstep, hrun⟩ := memory_matters (c := {}) hother
  refine ⟨s, hload, hstep none g hfirstReads, hrun keys g ?_⟩
  intro i t ht a ha hread
  rw [hstarts] at ht
  rcases i with _ | _ | _ | i
  case zero =>
    obtain rfl : s = t := Option.some.inj ht
    exact absurd hread (hfirstReads a ha)
  case succ.zero =>
    obtain rfl : storing = t := Option.some.inj ht
    exact absurd hread (hsecondReads a ha)
  case succ.succ.zero =>
    obtain rfl : loading = t := Option.some.inj ht
    rw [hthirdReads a ha hread]
    exact hwritten
  case succ.succ.succ =>
    rw [List.getElem?_eq_none (Nat.le_add_left 3 i)] at ht
    cases ht

end Machine

end Chip8
