import Chip8.Host.KeyEvent
import Chip8.Machine.Run

/-!
# Sessions

A machine in front of a terminal. Each frame takes the key events that have arrived, runs a fixed
number of steps with the key held then, lets the held key age by a frame, and shows the state.
-/

namespace Chip8

structure Session where
  config : Config
  stepsPerFrame : Nat
  state : State
  generator : Generator
  keymap : Keymap := {}

/-- Where a program stopped for good, with the opcode that it stopped on. -/
structure Halt where
  address : Nat
  opcode : String
  fault : Fault
  deriving DecidableEq, Repr

/-- What becomes of a session: it goes on, its user leaves, or its program faults. -/
inductive Progress where
  | running (session : Session)
  | quit (last : State)
  | halted (halt : Halt)

/-- The states shown, oldest first, and what became of the session after them. -/
structure Playback where
  frames : List State
  progress : Progress

namespace Halt

def ofFault (s : State) (f : Fault) : Halt where
  address := s.pc
  opcode :=
    match s.currentOpcode with
    | .ok w => Numeral.hexPadded 4 w.toNat
    | .error _ => "----"
  fault := f

def message (h : Halt) : String :=
  s!"halted at {Numeral.hexPadded 3 h.address} ({h.opcode}): {h.fault.message}"

def describe (h : Halt) : String :=
  let address := Numeral.decimal h.address
  s!"Halted \x7b address: {address}, opcode: \"{h.opcode}\", fault: {h.fault.describe} \x7d"

end Halt

namespace Session

/-- One frame. Its state is shown only if the session goes on. -/
def frame (s : Session) (events : List KeyEvent) : Progress :=
  match s.keymap.takeEvents events with
  | none => .quit s.state
  | some keymap =>
    let r := Machine.run s.config keymap.heldKey s.stepsPerFrame s.state s.generator
    match r.fault with
    | some f => .halted (.ofFault r.state f)
    | none =>
      .running { s with state := r.state, generator := r.generator, keymap := keymap.endFrame }

/-- What the machine reports during a frame. -/
def frameLog (s : Session) (events : List KeyEvent) : List LogEntry :=
  match s.keymap.takeEvents events with
  | none => []
  | some keymap =>
    Machine.runLog s.config keymap.heldKey s.stepsPerFrame s.state s.generator

/-- A frame for each list of events, as long as the session goes on. -/
def play (s : Session) : List (List KeyEvent) → Playback
  | [] => ⟨[], .running s⟩
  | events :: rest =>
    match s.frame events with
    | .running s' =>
      let later := s'.play rest
      { later with frames := s'.state :: later.frames }
    | ended => ⟨[], ended⟩

end Session

end Chip8
