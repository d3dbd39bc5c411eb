import Chip8.Proofs.Loading

/-!
# The call stack

Only `CALL` and `RET` touch the stack, and they move it by one entry. Over a run this makes calls and
returns nest: below the entries of the calls still open, the stack is as the caller left it, and the
return that closes a call resumes right after it.
-/

namespace Chip8

/-- What kind of instruction the next step executes, if it executes one. -/
def State.op? (s : State) : Option Op := s.executing?.map Decoded.op

theorem State.op?_of_executing {s : State} {d : Decoded} (hd : s.executing? = some d) :
    s.op? = some d.op := by
  rw [State.op?, hd]
  rfl

theorem State.op?_of_waiting {s : State} {r : Nibble} (hmode : s.mode = .waiting r) :
    s.op? = none := by
  simp [State.op?, State.executing?, hmode]

namespace Machine

variable {c : Config} {key : Option Key} {g : Generator} {s t : State}

/-- A call puts the program counter on the stack, a return takes the top entry off and goes on after
it, and every other step leaves the stack alone. -/
theorem step_stack (h : (step c key s g).outcome = .ok t) :
    (s.op? = some .call ∧ s.stack.length < c.stackDepth ∧ t.stack = s.pc :: s.stack) ∨
    (s.op? = some .ret ∧ ∃ site, s.stack = site :: t.stack ∧ t.pc = site + 2) ∨
    (s.op? ≠ some .call ∧ s.op? ≠ some .ret ∧ t.stack = s.stack) := by
  rcases step_cases h with ⟨r, hmode, _, rfl⟩ | ⟨r, k, hmode, _, _, rfl⟩ | ⟨d, u, hd, hu, rfl⟩
  · right; right
    rw [State.op?_of_waiting hmode]
    simp
  · right; right
    rw [State.op?_of_waiting hmode]
    simp
  · obtain ⟨v, route, hexec, rfl⟩ := Decoded.execute_eq_ok hu
    rw [State.op?_of_executing hd, State.tick_stack, State.tick_pc]
    by_cases hcall : d.op = .call
    · left
      rw [hcall] at hexec
      obtain ⟨hdepth, hpush⟩ := Op.exec_call hexec
      exact ⟨by rw [hcall], hdepth, hpush⟩
    by_cases hret : d.op = .ret
    · right; left
      rw [hret] at hexec
      obtain ⟨site, hpop, rfl⟩ := Op.exec_ret hexec
      exact ⟨by rw [hret], site, hpop, rfl⟩
    · right; right
      exact ⟨by simpa using hcall, by simpa using hret, (Op.exec_frame hexec).stack hcall hret⟩

/-- What lies at the bottom of the stack stays there while the stack is not shorter than it. -/
theorem step_suffix {low : List Nat} (h : (step c key s g).outcome = .ok t)
    (hlow : low <:+ s.stack) (hlen : low.length ≤ t.stack.length) : low <:+ t.stack := by
  rcases step_stack h with ⟨_, _, hpush⟩ | ⟨_, site, hpop, _⟩ | ⟨_, _, hsame⟩
  · rw [hpush]
    exact hlow.trans (List.suffix_cons _ _)
  · rw [hpop] at hlow
    rcases List.suffix_cons_iff.mp hlow with hall | hrest
    · rw [hall, List.length_cons] at hlen
      omega
    · exact hrest
  · rw [hsame]
    exact hlow

/-- A fault-free run of `n` steps, in which `path i` is the state after `i` of them. Every step may
have a configuration, a key and a generator of its own. -/
def Path (n : Nat) (path : Nat → State) : Prop :=
  ∀ i < n, ∃ c key g, (step c key (path i) g).outcome = .ok (path (i + 1))

/-- How many of the first `n` steps of a run execute `op`. -/
def count (op : Op) (path : Nat → State) (n : Nat) : Nat :=
  (List.range n).countP fun i => (path i).op? = some op

theorem count_succ (op : Op) (path : Nat → State) (n : Nat) :
    count op path (n + 1) = count op path n + if (path n).op? = some op then 1 else 0 := by
  simp [count, List.range_succ, List.countP_append, List.countP_singleton]

variable {n : Nat} {path : Nat → State}

theorem length_add_returns (hrun : Path n path) :
    (path n).stack.length + count .ret path n = (path 0).stack.length + count .call path n := by
  induction n with
  | zero => rfl
  | succ n ih =>
    have hbefore := ih fun i hi => hrun i (by omega)
    obtain ⟨c, key, g, hstep⟩ := hrun n (by omega)
    rw [count_succ, count_succ]
    rcases step_stack hstep with ⟨hop, _, hpush⟩ | ⟨hop, site, hpop, _⟩ | ⟨hcall, hret, hsame⟩
    · rw [hpush, hop, List.length_cons]
      simp only [↓reduceIte, Option.some.injEq, reduceCtorEq]
      omega
    · rw [hpop, List.length_cons] at hbefore
      rw [hop]
      simp only [↓reduceIte, Option.some.injEq, reduceCtorEq]
      omega
    · rw [hsame, if_neg hcall, if_neg hret]
      omega

/-- Until the stack is first back to its length, the caller's stack lies below the call site. -/
theorem suffix_until_return (hrun : Path n path) (hcall : (path 0).op? = some .call) (i : Nat)
    (hi : i < n)
    (hopen : ∀ j ≤ i, (path (j + 1)).stack.length ≠ (path 0).stack.length) :
    (path 0).pc :: (path 0).stack <:+ (path (i + 1)).stack := by
  induction i with
  | zero =>
    obtain ⟨c, key, g, hstep⟩ := hrun 0 hi
    rcases step_stack hstep with ⟨_, _, hpush⟩ | ⟨hret, _⟩ | ⟨hne, _⟩
    · simp [hpush]
    · rw [hcall] at hret
      cases hret
    · exact absurd hcall hne
  | succ i ih =>
    have hbelow := ih (by omega) fun j hj => hopen j (by omega)
    obtain ⟨c, key, g, hstep⟩ := hrun (i + 1) hi
    have hdeep := hbelow.length_le
    have hne := hopen (i + 1) (by omega)
    apply step_suffix hstep hbelow
    rw [List.length_cons] at hdeep ⊢
    -- A step takes at most one entry off, so it cannot leap past the length that is ruled out.
    rcases step_stack hstep with ⟨_, _, hpush⟩ | ⟨_, site, hpop, _⟩ | ⟨_, _, hsame⟩
    · rw [hpush, List.length_cons]
      omega
    · rw [hpop, List.length_cons] at hdeep
      omega
    · rw [hsame]
      exact hdeep

/-- The step that brings the stack back to its length returns to the caller. -/
theorem return_to_caller (hrun : Path n path) (hcall : (path 0).op? = some .call) (i : Nat)
    (hi : i < n) (hback : (path (i + 1)).stack.length = (path 0).stack.length)
    (hopen : ∀ j < i, (path (j + 1)).stack.length ≠ (path 0).stack.length) :
    (path i).op? = some .ret ∧ (path (i + 1)).stack = (path 0).stack ∧
      (path (i + 1)).pc = (path 0).pc + 2 := by
  obtain ⟨c, key, g, hstep⟩ := hrun i hi
  cases i with
  | zero =>
    rcases step_stack hstep with ⟨_, _, hpush⟩ | ⟨hret, _⟩ | ⟨hne, _⟩
    · rw [hpush, List.length_cons] at hback
      omega
    · rw [hcall] at hret
      cases hret
    · exact absurd hcall hne
  | succ i =>
    have hbelow := suffix_until_return hrun hcall i (by omega) fun j hj => hopen j (by omega)
    have hdeep := hbelow.length_le
    rw [List.length_cons] at hdeep
    rcases step_stack hstep with ⟨_, _, hpush⟩ | ⟨hret, site, hpop, hpc⟩ | ⟨_, _, hsame⟩
    · rw [hpush, List.length_cons] at hback
      omega
    · have hlen : ((path 0).pc :: (path 0).stack).length = (path (i + 1)).stack.length := by
        rw [hpop, List.length_cons, List.length_cons, hback]
      have htop := hbelow.eq_of_length hlen
      rw [hpop] at htop
      obtain ⟨rfl, hrest⟩ := List.cons.inj htop
      exact ⟨hret, hrest.symm, hpc⟩
    · rw [hsame] at hback
      omega

/-- Calls and returns nest. Every step moves the stack by the call or the return it executes. While
the stack is longer than at a call, the caller's stack lies below the call site, and the first time
it is back to that length a return has restored the caller's stack and goes on after the call. -/
theorem calls_nest (hrun : Path n path) :
    (path n).stack.length + count .ret path n = (path 0).stack.length + count .call path n ∧
    ((path 0).op? = some .call →
      (∀ i < n, (∀ j ≤ i, (path 0).stack.length < (path (j + 1)).stack.length) →
        (path 0).pc :: (path 0).stack <:+ (path (i + 1)).stack) ∧
      (∀ i < n, (path (i + 1)).stack.length = (path 0).stack.length →
        (∀ j < i, (path (j + 1)).stack.length ≠ (path 0).stack.length) →
        (path i).op? = some .ret ∧ (path (i + 1)).stack = (path 0).stack ∧
          (path (i + 1)).pc = (path 0).pc + 2)) := by
  refine ⟨length_add_returns hrun, fun hcall => ⟨?_, ?_⟩⟩
  · intro i hi hlonger
    exact suffix_until_return hrun hcall i hi fun j hj => Nat.ne_of_gt (hlonger j hj)
  · intro i hi hback hopen
    exact return_to_caller hrun hcall i hi hback hopen

/-- A subroutine that calls another one: `CALL 204`, at 204 `CALL 208` and `RET`, at 208 `RET`. -/
private def nestedCalls : List Byte :=
  [0x22, 0x04, 0x12, 0x02, 0x22, 0x08, 0x00, 0xEE, 0x00, 0xEE]

private def nestedPath (i : Nat) : State :=
  { State.initial with
    memory := Memory.initial.store programStart nestedCalls
    pc := [0x200, 0x204, 0x208, 0x206, 0x202].getD i 0
    stack := [[], [0x200], [0x204, 0x200], [0x200], []].getD i []
    phase := i }

private theorem nestedPath_executing {i : Nat} (j : Nat) (w : Opcode) {d : Decoded}
    (hj : j + 1 < nestedCalls.length) (hpc : (nestedPath i).pc = programStart + j)
    (hw : Opcode.ofBytes nestedCalls[j] nestedCalls[j + 1] = w) (hd : decode w = .ok d) :
    (nestedPath i).executing? = some d :=
  State.executing?_of_stored nestedCalls j w rfl (by decide) rfl hpc hj hw hd

private theorem nestedPath_calls :
    (nestedPath 0).executing? = some ⟨0x2204, .call, { nnn := 0x204 }⟩ :=
  nestedPath_executing 0 0x2204 (by decide) rfl (by decide) rfl

private theorem nestedPath_isPath : Path 4 nestedPath := by
  have hinner : decode 0x2208 = .ok ⟨0x2208, .call, { nnn := 0x208 }⟩ := rfl
  have hret : decode 0x00EE = .ok ⟨0x00EE, .ret, {}⟩ := rfl
  intro i hi
  refine ⟨{}, none, Generator.cycling #[], ?_⟩
  match i, hi with
  | 0, _ =>
    rw [step_executing nestedPath_calls]
    rfl
  | 1, _ =>
    rw [step_executing (nestedPath_executing 4 0x2208 (by decide) rfl (by decide) hinner)]
    rfl
  | 2, _ =>
    rw [step_executing (nestedPath_executing 8 0x00EE (by decide) rfl (by decide) hret)]
    rfl
  | 3, _ =>
    rw [step_executing (nestedPath_executing 6 0x00EE (by decide) rfl (by decide) hret)]
    rfl

theorem calls_nest_twice :
    Path 4 nestedPath ∧ (nestedPath 0).op? = some .call ∧
      [0x200] <:+ (nestedPath 2).stack ∧ (nestedPath 3).op? = some .ret ∧
      (nestedPath 4).stack = (nestedPath 0).stack ∧ (nestedPath 4).pc = 0x202 := by
  have hcall : (nestedPath 0).op? = some .call := State.op?_of_executing nestedPath_calls
  obtain ⟨_, hnest⟩ := calls_nest nestedPath_isPath
  obtain ⟨hbelow, hreturn⟩ := hnest hcall
  refine ⟨nestedPath_isPath, hcall, hbelow 1 (by decide) ?_, hreturn 3 (by decide) rfl ?_⟩
  · intro j hj
    match j, hj with
    | 0, _ | 1, _ => decide
  · intro j hj
    match j, hj with
    | 0, _ | 1, _ | 2, _ => decide

end Machine

end Chip8
