import Chip8.Instruction.Decode
import Chip8.Machine.State
import Chip8.Random.Generator

/-!
# Execution

What each instruction does to the state, and what becomes of the program counter after it. An
instruction that fails leaves nothing behind: only the fault is returned.
-/

namespace Chip8

/-- Where the machine goes after an instruction. -/
inductive Flow where
  | next
  | jump (target : Nat)
  | await (r : Nibble)
  deriving DecidableEq, Repr

/-- Skipping jumps over the following opcode. -/
def Flow.skipIf (pc : Nat) (condition : Bool) : Flow :=
  if condition then .jump (pc + 4) else .next

/-- The decimal digits of a byte, hundreds first. -/
def decimalDigits (b : Byte) : List Byte :=
  [b.toNat / 100, b.toNat / 10 % 10, b.toNat % 10].map (BitVec.ofNat 8)

namespace State

def follow (s : State) : Flow → Except ExecutionFault State
  | .next => s.advance
  | .jump target => s.jumpTo target
  | .await r => .ok { s with mode := .waiting r }

def shiftOperand (c : Config) (o : Operands) (s : State) : Byte :=
  match c.shiftSource with
  | .vy => s.registers.get o.y
  | .vx => s.registers.get o.x

/-- Whether the pressed key is the one that register `r` names. -/
def keyMatches (s : State) (r : Nibble) : Bool :=
  s.key.map Key.toByte == some (s.registers.get r)

end State

namespace Op

def exec (c : Config) (o : Operands) (g : Generator) (s : State) :
    Op → Except ExecutionFault (State × Flow)
  | cls => .ok ({ s with display := .blank }, .next)
  | ret =>
    match s.stack with
    | [] => .error .stackUnderflow
    | site :: rest => .ok ({ s with stack := rest }, .jump (site + 2))
  | sys => .ok (s, .next)
  | jp => .ok (s, .jump o.nnn.toNat)
  | call =>
    if c.stackDepth ≤ s.stack.length then .error (.stackOverflow c.stackDepth)
    else .ok ({ s with stack := s.pc :: s.stack }, .jump o.nnn.toNat)
  | seByte => .ok (s, .skipIf s.pc (vx == o.kk))
  | sneByte => .ok (s, .skipIf s.pc (vx != o.kk))
  | seReg => .ok (s, .skipIf s.pc (vx == vy))
  | ldByte => .ok (s.setRegister o.x o.kk, .next)
  | addByte => .ok (s.setRegister o.x (vx + o.kk), .next)
  | ldReg => .ok (s.setRegister o.x vy, .next)
  | or => .ok (s.setRegister o.x (vx ||| vy), .next)
  | and => .ok (s.setRegister o.x (vx &&& vy), .next)
  | xor => .ok (s.setRegister o.x (vx ^^^ vy), .next)
  | add => .ok (s.setResult o.x (vx + vy) (255 < vx.toNat + vy.toNat), .next)
  | sub => .ok (s.setResult o.x (vx - vy) (vy < vx), .next)
  | shr => .ok (s.setResult o.x (shifted >>> 1) (shifted.getLsbD 0), .next)
  | subn => .ok (s.setResult o.x (vy - vx) (vx < vy), .next)
  | shl => .ok (s.setResult o.x (shifted <<< 1) shifted.msb, .next)
  | sneReg => .ok (s, .skipIf s.pc (vx != vy))
  | ldI => .ok ({ s with index := o.nnn.toNat }, .next)
  | jpV0 => .ok (s, .jump ((s.registers.get 0).toNat + o.nnn.toNat))
  | rnd => .ok (s.setRegister o.x (g.byte &&& o.kk), .next)
  | drw =>
    match s.memory.read s.index o.n.toNat with
    | .error f => .error f
    | .ok sprite =>
      let (picture, hit) := s.display.draw vx vy sprite
      .ok ({ s with display := picture, registers := s.registers.setFlag hit }, .next)
  | skp => .ok (s, .skipIf s.pc (s.keyMatches o.x))
  | sknp => .ok (s, .skipIf s.pc (!s.keyMatches o.x))
  | ldRegDelay => .ok (s.setRegister o.x s.delay, .next)
  | ldKey => .ok (s, .await o.x)
  | ldDelay => .ok ({ s with delay := vx }, .next)
  | ldSound => .ok ({ s with sound := vx }, .next)
  | addI => .ok ({ s with index := (s.index + vx.toNat) % Memory.size }, .next)
  | ldGlyph =>
    match Font.glyphAddress? vx with
    | none => .error (.registerOutOfBounds vx)
    | some a => .ok ({ s with index := a }, .next)
  | ldDigits =>
    match s.memory.write s.index (decimalDigits vx) with
    | .error f => .error f
    | .ok m => .ok ({ s with memory := m }, .next)
  | store =>
    match s.memory.write s.index (s.registers.toList.take (c.transferLength o.x)) with
    | .error f => .error f
    | .ok m => .ok ({ s with memory := m }, .next)
  | load =>
    match s.memory.read s.index (c.transferLength o.x) with
    | .error f => .error f
    | .ok bytes => .ok ({ s with registers := s.registers.fill bytes }, .next)
where
  vx := s.registers.get o.x
  vy := s.registers.get o.y
  shifted := s.shiftOperand c o

end Op

/-- Only `RND` draws from the generator. -/
def Decoded.draws (d : Decoded) : Bool := d.op == .rnd

def Decoded.generatorAfter (d : Decoded) (g : Generator) : Generator :=
  if d.draws then g.advance else g

/-- The instruction with its move of the program counter. -/
def Decoded.execute (d : Decoded) (c : Config) (g : Generator) (s : State) :
    Except ExecutionFault State :=
  match d.op.exec c d.operands g s with
  | .error f => .error f
  | .ok (s', flow) => s'.follow flow

end Chip8
