import Chip8.Disassembly
import Chip8.Machine.State

/-!
# Log

What the machine reports while it loads and runs, as entries; the text of a line is made only when it
is written. A filter lets through the levels up to its own.
-/

namespace Chip8

inductive Level where
  | error | warn | info | debug | trace
  deriving DecidableEq, Repr

namespace Level

def all : List Level := [error, warn, info, debug, trace]

def name : Level → String
  | error => "ERROR"
  | warn => "WARN"
  | info => "INFO"
  | debug => "DEBUG"
  | trace => "TRACE"

/-- Grows with the amount of detail. -/
def detail : Level → Nat
  | error => 1
  | warn => 2
  | info => 3
  | debug => 4
  | trace => 5

end Level

/-- `none` lets nothing through. -/
abbrev LevelFilter := Option Level

namespace LevelFilter

def allows (f : LevelFilter) (l : Level) : Bool :=
  match f with
  | none => false
  | some most => l.detail ≤ most.detail

end LevelFilter

inductive LogEntry where
  | loaded (length base : Nat)
  | executing (address : Nat) (decoded : Decoded)
  | waiting (address : Nat) (register : Nibble)
  | keyStored (key : Key) (register : Nibble)
  deriving DecidableEq, Repr

namespace LogEntry

def level : LogEntry → Level
  | executing _ _ => .trace
  | _ => .debug

open Numeral in
def message : LogEntry → String
  | loaded length base => s!"loaded {decimal length} bytes at {address base}"
  | executing a d => disassemblyRow a d.opcode (d.text .hex)
  | waiting a r => s!"{hexPadded 3 a}: waiting for a key for V{hex r.toNat}"
  | keyStored k r => s!"key {k.text} pressed, stored in V{hex r.toNat}"

/-- Only a load that succeeds is reported. -/
def ofLoad (program : List Byte) (base : Nat) : List LogEntry :=
  match State.load program base with
  | .ok _ => [loaded program.length base]
  | .error _ => []

def line (e : LogEntry) : String := s!"{e.level.name} {e.message}"

end LogEntry

/-- The lines of a log that pass a filter, in order. -/
def logLines (f : LevelFilter) (log : List LogEntry) : List String :=
  (log.filter fun e => f.allows e.level).map LogEntry.line

end Chip8
