import Chip8.Machine.Step

/-!
# Runs

Several steps with the same key held down, ending at the first fault. The log of a run is told apart
from the run itself, so that nobody has to keep what nobody reads.
-/

namespace Chip8

/-- Where a run ended: its last state, and the fault of the step that failed from there, if one did. -/
structure RunResult where
  state : State
  fault : Option Fault
  generator : Generator

namespace RunResult

def outcome (r : RunResult) : Except Fault State :=
  match r.fault with
  | none => .ok r.state
  | some f => .error f

end RunResult

namespace Machine

def run (c : Config) (key : Option Key) : Nat → State → Generator → RunResult
  | 0, s, g => ⟨s, none, g⟩
  | n + 1, s, g =>
    let r := step c key s g
    match r.outcome with
    | .error f => ⟨s, some f, r.generator⟩
    | .ok s' => run c key n s' r.generator

/-- What the steps of `run` report, one after the other. -/
def runLog (c : Config) (key : Option Key) : Nat → State → Generator → List LogEntry
  | 0, _, _ => []
  | n + 1, s, g =>
    let r := step c key s g
    match r.outcome with
    | .error _ => r.log
    | .ok s' => r.log ++ runLog c key n s' r.generator

end Machine

end Chip8
