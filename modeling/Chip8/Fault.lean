import Chip8.Numeral
import Chip8.Word

/-!
# Faults

Everything that can go wrong, by cause: an opcode that names no instruction, an instruction that
cannot be carried out, and a program that cannot be loaded. The wording of each stands here.
-/

namespace Chip8

inductive DecodeError where
  | unknownOpcode (opcode : Opcode)
  deriving DecidableEq, Repr

/-- Why an instruction could not be applied to the machine. -/
inductive ExecutionFault where
  | stackUnderflow
  | stackOverflow (depth : Nat)
  | memoryOutOfBounds (address : Nat)
  | misalignedJump (address : Nat)
  | registerOutOfBounds (index : Byte)
  | readOnlyMemory (address : Nat)
  deriving DecidableEq, Repr

/-- Why a step failed. -/
inductive Fault where
  | decode (error : DecodeError)
  | execution (fault : ExecutionFault)
  deriving DecidableEq, Repr

inductive LoadError where
  | dataOverflow (length base : Nat)
  | reservedAddress (base : Nat)
  | misalignedBase (base : Nat)
  deriving DecidableEq, Repr

namespace DecodeError

def kind : DecodeError → String
  | unknownOpcode _ => "UnknownOpcode"

def message : DecodeError → String
  | unknownOpcode w => "unknown opcode " ++ Numeral.hexPadded 4 w.toNat

/-- The cause with its data, for a report that names every part. -/
def describe : DecodeError → String
  | e@(unknownOpcode w) => s!"{e.kind} \x7b opcode: {Numeral.decimal w.toNat} \x7d"

end DecodeError

namespace ExecutionFault

def kind : ExecutionFault → String
  | stackUnderflow => "StackUnderflow"
  | stackOverflow _ => "StackOverflow"
  | memoryOutOfBounds _ => "MemoryOutOfBounds"
  | misalignedJump _ => "MisalignedJump"
  | registerOutOfBounds _ => "RegisterOutOfBounds"
  | readOnlyMemory _ => "ReadOnlyMemory"

open Numeral in
def message : ExecutionFault → String
  | stackUnderflow => "return with an empty call stack"
  | stackOverflow depth => s!"call stack exceeded its depth of {decimal depth}"
  | memoryOutOfBounds a => s!"memory access out of bounds at {address a}"
  | misalignedJump a => s!"jump to odd address {address a}"
  | registerOutOfBounds i => s!"register or digit {hexMarked 2 i.toNat} is outside 0-F"
  | readOnlyMemory a => s!"write into the font region at {address a}"

open Numeral in
def describe (f : ExecutionFault) : String :=
  match f with
  | stackUnderflow => f.kind
  | stackOverflow depth => s!"{f.kind} \x7b depth: {decimal depth} \x7d"
  | registerOutOfBounds i => s!"{f.kind} \x7b index: {decimal i.toNat} \x7d"
  | memoryOutOfBounds a => s!"{f.kind} \x7b address: {decimal a} \x7d"
  | misalignedJump a => s!"{f.kind} \x7b address: {decimal a} \x7d"
  | readOnlyMemory a => s!"{f.kind} \x7b address: {decimal a} \x7d"

end ExecutionFault

namespace Fault

def message : Fault → String
  | decode e => e.message
  | execution f => f.message

def describe : Fault → String
  | decode e => s!"Decode({e.describe})"
  | execution f => s!"Execution({f.describe})"

end Fault

namespace LoadError

def kind : LoadError → String
  | dataOverflow _ _ => "DataOverflow"
  | reservedAddress _ => "ReservedAddress"
  | misalignedBase _ => "MisalignedBase"

open Numeral in
def message : LoadError → String
  | dataOverflow length base =>
    s!"program of {decimal length} bytes does not fit in memory at {address base}"
  | reservedAddress base => s!"programs cannot be loaded below 0x200 (got {address base})"
  | misalignedBase base => s!"programs must start on an even address (got {address base})"

open Numeral in
def describe (e : LoadError) : String :=
  match e with
  | dataOverflow length base =>
    s!"{e.kind} \x7b len: {decimal length}, base: {decimal base} \x7d"
  | reservedAddress base => s!"{e.kind} \x7b base: {decimal base} \x7d"
  | misalignedBase base => s!"{e.kind} \x7b base: {decimal base} \x7d"

end LoadError

end Chip8
