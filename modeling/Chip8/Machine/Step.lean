import Chip8.Log
import Chip8.Machine.Execute

/-!
# Steps

A step executes the instruction at the program counter, or goes on waiting for a key, and then lets
the clock tick. It is a function of the configuration, the key held down, the state and the generator;
a failed step yields its fault and no state, though a random word it drew stays used.
-/

namespace Chip8

structure StepResult where
  outcome : Except Fault State
  generator : Generator
  log : List LogEntry

/-- The instruction that the program counter stands on. -/
def State.fetch (s : State) : Except Fault Decoded :=
  match s.currentOpcode with
  | .error f => .error (.execution f)
  | .ok w =>
    match decode w with
    | .error e => .error (.decode e)
    | .ok d => .ok d

namespace Machine

/-- Ends a step: the clock ticks if nothing failed. -/
def finish (c : Config) : Except ExecutionFault State → Except Fault State
  | .error f => .error (.execution f)
  | .ok s => .ok (s.tick c)

/-- The key that a waiting machine was given goes into its register, and the machine runs on. -/
def receive (s : State) (r : Nibble) (k : Key) : Except ExecutionFault State :=
  ({ s.setRegister r k.toByte with mode := .running }).advance

/-- An instruction that makes the machine wait is reported when it has been carried out. -/
def waitEntries (address : Nat) : Except ExecutionFault State → List LogEntry
  | .error _ => []
  | .ok s =>
    match s.mode with
    | .running => []
    | .waiting r => [.waiting address r]

def execute (c : Config) (s : State) (g : Generator) : StepResult :=
  match s.fetch with
  | .error f => ⟨.error f, g, []⟩
  | .ok d =>
    let result := d.execute c g s
    ⟨finish c result, d.generatorAfter g, .executing s.pc d :: waitEntries s.pc result⟩

def step (c : Config) (key : Option Key) (s : State) (g : Generator) : StepResult :=
  let s := { s with key := key }
  match s.mode, key with
  | .running, _ => execute c s g
  | .waiting _, none => ⟨finish c (.ok s), g, []⟩
  | .waiting r, some k => ⟨finish c (receive s r k), g, [.keyStored k r]⟩

end Machine

end Chip8
