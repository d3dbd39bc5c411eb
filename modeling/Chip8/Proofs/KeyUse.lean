import Chip8.Proofs.Comparison

/-!
# Where keys matter

The key that a state records is never looked at again, since every step is given a key of its own. A
step looks at its key only if the machine waits for one or stands in front of `SKP` or `SKNP`. Two
runs whose keys agree at such steps therefore go the same way.
-/

namespace Chip8

namespace State

/-- The states differ at most in the key that they record. -/
def SameButKey (s s' : State) : Prop := ∃ key, s' = { s with key := key }

/-- Whether the next step looks at the key that it is given. -/
def UsesKey (s : State) : Prop :=
  (∃ r, s.mode = .waiting r) ∨ s.op? = some .skp ∨ s.op? = some .sknp

theorem usesKey_of_executing {s : State} {d : Decoded} (hd : s.executing? = some d) :
    s.UsesKey ↔ d.op = .skp ∨ d.op = .sknp := by
  obtain ⟨hmode, _⟩ := executing?_eq_some_iff.mp hd
  simp [UsesKey, hmode, op?_of_executing hd]

end State

namespace Machine

variable {c : Config} {key key' : Option Key} {g : Generator} {s s' t t' : State}

/-- The key that was recorded before makes no difference to a step. -/
theorem step_of_sameButKey (h : s.SameButKey s') : step c key s' g = step c key s g := by
  obtain ⟨old, rfl⟩ := h
  rfl

theorem looksAlike_of_keys (h : s.SameButKey s') (hkey : s.UsesKey → key' = key) :
    LooksAlike c c key key' s s' := by
  obtain ⟨old, rfl⟩ := h
  refine ⟨⟨rfl, rfl, rfl, rfl, rfl⟩, fun _ => rfl, ?held, ?sees, fun d _ => .refl ..⟩
  case held =>
    intro r hmode
    exact hkey (.inl ⟨r, hmode⟩)
  case sees =>
    intro d hd
    refine ⟨fun hop => ?_, fun _ => rfl, fun _ => rfl, fun _ _ _ => rfl⟩
    exact hkey ((State.usesKey_of_executing hd).mpr hop)

theorem step_alike_of_keys (h : s.SameButKey s') (hkey : s.UsesKey → key' = key) :
    (step c key s g).Alike State.SameButKey (step c key' s' g) := by
  have hsteps := step_alike (c := c) g (looksAlike_of_keys h hkey)
  refine ⟨hsteps.outcome.imp ?_, hsteps.generator⟩
  obtain ⟨old, rfl⟩ := h
  intro t t' _ _ hacts
  exact ⟨t'.key, State.ext (hacts.memory_eq rfl) hacts.core.registers hacts.core.index hacts.core.pc
    hacts.core.stack (hacts.timer .delay rfl rfl rfl) (hacts.timer .sound rfl rfl rfl)
    (hacts.display rfl) rfl hacts.core.mode (hacts.phase rfl rfl)⟩

/-- What keys can do to a run. A step takes no notice of the key that was recorded before it. Two runs
whose keys agree wherever a step of the first one uses its key are in the same state after every step,
up to the key recorded there; they fail at the same step with the same fault, and use the same words
of the generator. -/
theorem keys_matter (h : s.SameButKey s') :
    (∀ key, step c key s' g = step c key s g) ∧
    ∀ keys keys' : List (Option Key), keys'.length = keys.length →
      (∀ (i : Nat) t, (starts c keys s g)[i]? = some t → t.UsesKey → keys'[i]? = keys[i]?) →
      ∀ n, (runKeys c (keys.take n) s g).Alike State.SameButKey (runKeys c (keys'.take n) s' g) := by
  refine ⟨fun key => step_of_sameButKey h, ?_⟩
  intro keys keys' hlength hagree n
  apply runKeys_alike (P := fun t key key' => t.UsesKey → key' = key) _ hlength _ h n
  · intro s s' key key' g hs hkey
    exact step_alike_of_keys hs hkey
  · intro i t key key' ht hkey hkey' huses
    have hsame := hagree i t ht huses
    rw [hkey, hkey'] at hsame
    exact Option.some.inj hsame

/-- `LD V3, K` and then `JP 202`: only the key of the second step, which ends the wait, is used. -/
theorem keys_matter_second :
    ∃ s, State.loadProgram [0xF3, 0x0A, 0x12, 0x02] = .ok s ∧
      (runKeys {} [some 1, some 7, none] s (Generator.cycling #[])).state.registers.get 3 = 7 ∧
      ∀ n, (runKeys {} ([some 1, some 7, none].take n) s (Generator.cycling #[])).Alike
        State.SameButKey (runKeys {} ([none, some 7, some 4].take n) s (Generator.cycling #[])) := by
  let program : List Byte := [0xF3, 0x0A, 0x12, 0x02]
  let g : Generator := Generator.cycling #[]
  let s : State := { State.initial with memory := Memory.initial.store programStart program }
  let waiting : State := { s with mode := .waiting 3, key := some 1, phase := 1 }
  let going : State :=
    { s with registers := Registers.zero.set 3 7, pc := 0x202, key := some 7, phase := 2 }
  let last : State := { going with key := none, phase := 3 }
  have hload : State.loadProgram program = .ok s :=
    State.load_eq_ok_iff.mpr ⟨by decide, by decide, by decide, rfl⟩
  have hawait : s.executing? = some ⟨0xF30A, .ldKey, { x := 3 }⟩ :=
    State.executing?_of_stored program 0 0xF30A rfl (by decide) rfl rfl (by decide) (by decide) rfl
  have hjump : going.executing? = some ⟨0x1202, .jp, { nnn := 0x202 }⟩ :=
    State.executing?_of_stored program 2 0x1202 rfl (by decide) rfl rfl (by decide) (by decide) rfl
  have hfirst : (step {} (some 1) s g).outcome = .ok waiting := by
    rw [step_executing hawait]
    rfl
  have hsecond : (step {} (some 7) waiting g).outcome = .ok going := by
    rw [step_waiting_some 7 rfl]
    rfl
  have hthird : (step {} none going g).outcome = .ok last := by
    rw [step_executing hjump]
    rfl
  have hfirstWord : (step {} (some 1) s g).generator = g := step_executing_generator hawait
  have hsecondWord : (step {} (some 7) waiting g).generator = g := step_waiting_generator rfl
  have hthirdWord : (step {} none going g).generator = g := step_executing_generator hjump
  have hrun : runKeys {} [some 1, some 7, none] s g = ⟨last, none, g⟩ := by
    rw [runKeys_cons_of_ok hfirst, hfirstWord, runKeys_cons_of_ok hsecond, hsecondWord,
      runKeys_cons_of_ok hthird, hthirdWord]
    rfl
  have hstarts : starts {} [some 1, some 7, none] s g = [s, waiting, going] := by
    rw [starts_cons_of_ok hfirst, hfirstWord, starts_cons_of_ok hsecond, hsecondWord,
      starts_cons_of_ok hthird]
    rfl
  obtain ⟨_, hruns⟩ := keys_matter (c := {}) (g := g) (s := s) ⟨s.key, rfl⟩
  refine ⟨s, hload, by rw [hrun]; rfl, hruns _ [none, some 7, some 4] rfl ?_⟩
  intro i t ht huses
  rw [hstarts] at ht
  match i, ht with
  | 0, ht =>
    obtain rfl : s = t := Option.some.inj ht
    have hskips := (State.usesKey_of_executing hawait).mp huses
    exact absurd hskips (by decide)
  | 1, _ => rfl
  | 2, ht =>
    obtain rfl : going = t := Option.some.inj ht
    have hskips := (State.usesKey_of_executing hjump).mp huses
    exact absurd hskips (by decide)

end Machine

end Chip8
