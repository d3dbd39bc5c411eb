import Chip8.Config
import Chip8.Key
import Chip8.Machine.Display
import Chip8.Machine.Memory
import Chip8.Machine.Registers

/-!
# Machine state

Everything the machine remembers from one step to the next, and how a program is put into it. The
program counter and the addresses on the stack are numbers that never wrap; the checks of `advance`
and `jumpTo` keep a whole opcode ahead of the program counter.
-/

namespace Chip8

/-- Running, or stopped until a key arrives for a register. -/
inductive Mode where
  | running
  | waiting (r : Nibble)
  deriving DecidableEq, Repr

structure State where
  memory : Memory
  registers : Registers
  index : Nat
  pc : Nat
  /-- Addresses of the calls not yet returned from, innermost first. -/
  stack : List Nat
  delay : Byte
  sound : Byte
  display : Display
  /-- The key given to the step that made this state. -/
  key : Option Key
  mode : Mode
  /-- Steps since the last timer tick. -/
  phase : Nat
  deriving DecidableEq, Repr

/-- Programs may be loaded from here on. -/
def programStart : Nat := 0x200

namespace State

def initial : State where
  memory := .initial
  registers := .zero
  index := 0
  pc := programStart
  stack := []
  delay := 0
  sound := 0
  display := .blank
  key := none
  mode := .running
  phase := 0

/-- A machine switched on anew, with the program at `base` about to run. -/
def load (program : List Byte) (base : Nat) : Except LoadError State :=
  if base < programStart then .error (.reservedAddress base)
  else if base % 2 ≠ 0 then .error (.misalignedBase base)
  else if Memory.size < program.length + base then .error (.dataOverflow program.length base)
  else .ok { initial with memory := Memory.initial.store base program, pc := base }

def loadProgram (program : List Byte) : Except LoadError State := load program programStart

def isWaiting (s : State) : Bool :=
  match s.mode with
  | .running => false
  | .waiting _ => true

def opcodeAt (s : State) (a : Nat) : Except ExecutionFault Opcode := s.memory.word a

def currentOpcode (s : State) : Except ExecutionFault Opcode := s.opcodeAt s.pc

/-- Moves on to the following opcode. -/
def advance (s : State) : Except ExecutionFault State :=
  if s.pc + 3 < Memory.size then .ok { s with pc := s.pc + 2 }
  else .error (.memoryOutOfBounds (s.pc + 2))

/-- A target must leave room for an opcode and must be even, in that order. -/
def jumpTo (s : State) (target : Nat) : Except ExecutionFault State :=
  if Memory.size ≤ target + 1 then .error (.memoryOutOfBounds target)
  else if target % 2 ≠ 0 then .error (.misalignedJump target)
  else .ok { s with pc := target }

def setRegister (s : State) (r : Nibble) (b : Byte) : State :=
  { s with registers := s.registers.set r b }

/-- The flag is written last, so it wins when it is itself the destination. -/
def setResult (s : State) (r : Nibble) (b : Byte) (flag : Bool) : State :=
  { s with registers := (s.registers.set r b).setFlag flag }

/-- One step of the clock. Both timers count down to zero, once every `period` steps. -/
def tick (c : Config) (s : State) : State :=
  let phase := (s.phase + 1) % c.period
  if phase = 0 then
    { s with
      phase := phase
      delay := BitVec.ofNat 8 (s.delay.toNat - 1)
      sound := BitVec.ofNat 8 (s.sound.toNat - 1) }
  else { s with phase := phase }

end State

end Chip8
