import Chip8.Machine.Run
import Chip8.Proofs.Reachable

/-!
# Key sequences

Runs in which every step has a key of its own. A run with one key held down is such a run, and two
runs of which the second starts where the first ended make one.
-/

namespace Chip8

namespace RunResult

/-- Goes on from where a run ended, unless a fault ended it. -/
def andThen (r : RunResult) (next : State → Generator → RunResult) : RunResult :=
  match r.fault with
  | none => next r.state r.generator
  | some _ => r

theorem andThen_of_ok {r : RunResult} (h : r.fault = none)
    (next : State → Generator → RunResult) : r.andThen next = next r.state r.generator := by
  rw [andThen, h]

theorem andThen_of_fault {r : RunResult} {f : Fault} (h : r.fault = some f)
    (next : State → Generator → RunResult) : r.andThen next = r := by
  rw [andThen, h]

end RunResult

namespace Machine

/-- One step for each key of a list, ending at the first fault. -/
def runKeys (c : Config) : List (Option Key) → State → Generator → RunResult
  | [], s, g => ⟨s, none, g⟩
  | key :: keys, s, g =>
    let r := step c key s g
    match r.outcome with
    | .error f => ⟨s, some f, r.generator⟩
    | .ok t => runKeys c keys t r.generator

variable {c : Config} {key : Option Key} {keys : List (Option Key)} {s t : State} {g : Generator}

theorem runKeys_cons_of_ok (h : (step c key s g).outcome = .ok t) :
    runKeys c (key :: keys) s g = runKeys c keys t (step c key s g).generator := by
  simp [runKeys, h]

theorem runKeys_cons_of_error {f : Fault} (h : (step c key s g).outcome = .error f) :
    runKeys c (key :: keys) s g = ⟨s, some f, (step c key s g).generator⟩ := by
  simp [runKeys, h]

theorem runKeys_append (first second : List (Option Key)) (s : State) (g : Generator) :
    runKeys c (first ++ second) s g = (runKeys c first s g).andThen (runKeys c second) := by
  induction first generalizing s g with
  | nil => rfl
  | cons key first ih =>
    rw [List.cons_append]
    cases hstep : (step c key s g).outcome with
    | error f =>
      rw [runKeys_cons_of_error hstep, runKeys_cons_of_error hstep]
      rfl
    | ok t => rw [runKeys_cons_of_ok hstep, runKeys_cons_of_ok hstep, ih]

/-- Holding a key down is giving it to every step. -/
theorem run_eq_runKeys (n : Nat) (s : State) (g : Generator) :
    run c key n s g = runKeys c (List.replicate n key) s g := by
  induction n generalizing s g with
  | zero => rfl
  | succ n ih =>
    rw [List.replicate_succ]
    cases hstep : (step c key s g).outcome with
    | error f =>
      rw [runKeys_cons_of_error hstep]
      simp only [run, hstep]
    | ok t =>
      rw [runKeys_cons_of_ok hstep]
      simp only [run, hstep, ih]

end Machine

/-- A run from a reachable state ends in one, whether or not it faults. -/
theorem Reachable.runKeys {bound : Nat} {cs : List Config} {s : State} (h : Reachable bound cs s)
    (c : Config) (keys : List (Option Key)) (g : Generator) :
    ∃ cs', Reachable bound cs' (Machine.runKeys c keys s g).state := by
  induction keys generalizing cs s g with
  | nil => exact ⟨cs, h⟩
  | cons key keys ih =>
    cases hstep : (Machine.step c key s g).outcome with
    | error f =>
      rw [Machine.runKeys_cons_of_error hstep]
      exact ⟨cs, h⟩
    | ok t =>
      rw [Machine.runKeys_cons_of_ok hstep]
      exact ih (.step key g h hstep) _

end Chip8
