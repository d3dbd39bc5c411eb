import Chip8.Disassembly
import Chip8.Machine.State

/-!
# Status panel

Three lines under the picture: headings, the values below them, and the instruction that comes next.
-/

namespace Chip8.Status

def registerNames : List String :=
  (List.range Registers.count).map fun i => s!" V{Numeral.hex i}"

def header : String := String.join registerNames ++ "  PC   I    DT ST"

open Numeral in
def values (s : State) : String :=
  let registers := s.registers.toList.map fun b => s!" {hexPadded 2 b.toNat}"
  let pc := hexPadded 3 s.pc
  let index := hexPadded 3 s.index
  let delay := hexPadded 2 s.delay.toNat
  let sound := hexPadded 2 s.sound.toNat
  s!"{String.join registers}  {pc}  {index}  {delay} {sound}"

/-- What the panel says of an opcode: its mnemonic, or why there is none. -/
def opcodeText (w : Opcode) : String :=
  match disassemble w with
  | .ok text => text
  | .error e => e.message

/-- What it adds if the machine waits. -/
def note (waiting : Bool) : String := if waiting then "  (waiting for key)" else ""

/-- The opcode at the program counter with its text, or why there is none. -/
def next (s : State) : String :=
  match s.currentOpcode with
  | .error f => f.message
  | .ok w => s!"{Numeral.hexPadded 4 w.toNat}  {opcodeText w}"

def instruction (s : State) : String := s!" {next s}{note s.isWaiting}"

def lines (s : State) : List String := [header, values s, instruction s]

theorem instruction_eq {s : State} {w : Opcode} (hw : s.currentOpcode = .ok w) :
    instruction s =
      " " ++ (Numeral.hexPadded 4 w.toNat ++ ("  " ++ opcodeText w ++ note s.isWaiting)) := by
  have hnext : next s = Numeral.hexPadded 4 w.toNat ++ ("  " ++ opcodeText w) := by
    rw [next, hw]
    exact String.append_assoc
  have hinstruction : instruction s = " " ++ next s ++ note s.isWaiting := rfl
  rw [hinstruction, hnext]
  simp only [String.append_assoc]

/-- The panel depends on nothing but what it shows. -/
theorem lines_congr {s t : State} (hregisters : s.registers = t.registers) (hpc : s.pc = t.pc)
    (hindex : s.index = t.index) (hdelay : s.delay = t.delay) (hsound : s.sound = t.sound)
    (hopcode : s.currentOpcode = t.currentOpcode) (hwaiting : s.isWaiting = t.isWaiting) :
    lines s = lines t := by
  have hvalues : values s = values t := by
    rw [values, values, hregisters, hpc, hindex, hdelay, hsound]
  have hinstruction : instruction s = instruction t := by
    rw [instruction, instruction, next, next, hopcode, hwaiting]
  rw [lines, lines, hvalues, hinstruction]

end Chip8.Status
