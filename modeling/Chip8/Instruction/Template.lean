import Chip8.Instruction.Op
import Chip8.Numeral

/-!
# Mnemonic templates

A template is text in which names stand in braces. `placeholders` reads the names off, refusing
braces that do not pair up. `fill` writes the operands of an instruction in their places, one
operand after the other; no value contains a brace, so no pass can disturb what an earlier one wrote.
-/

namespace Chip8

/-- Base of the literals in a disassembly. Registers are always a single hexadecimal digit. -/
inductive Radix where
  | hex | decimal
  deriving DecidableEq, Repr

inductive BraceError where
  | unmatched | unclosed
  deriving DecidableEq, Repr

namespace Template

def openBrace : Char := '\x7b'
def closeBrace : Char := '\x7d'

/-- Names in braces, left to right. The state is the name being read, last character first; inside
one, an opening brace is a character like any other. -/
def scan : Option (List Char) → List Char → Except BraceError (List String)
  | none, [] => .ok []
  | some _, [] => .error .unclosed
  | none, c :: cs =>
    if c = closeBrace then .error .unmatched
    else if c = openBrace then scan (some []) cs
    else scan none cs
  | some name, c :: cs =>
    if c = closeBrace then
      match scan none cs with
      | .ok names => .ok (String.ofList name.reverse :: names)
      | .error e => .error e
    else scan (some (c :: name)) cs

def placeholders (template : String) : Except BraceError (List String) :=
  scan none template.toList

/-- Writes `new` over the occurrences of `old` that do not overlap an earlier one. The first argument
counts the characters that still belong to the occurrence just written over. -/
def replaceFrom (old new : List Char) : Nat → List Char → List Char
  | _, [] => []
  | k + 1, _ :: cs => replaceFrom old new k cs
  | 0, c :: cs =>
    if old.isPrefixOf (c :: cs) then new ++ replaceFrom old new (old.length - 1) cs
    else c :: replaceFrom old new 0 cs

def replaceAll (old new text : List Char) : List Char := replaceFrom old new 0 text

def literal : Radix → Nat → String
  | .hex, n => Numeral.hex n
  | .decimal, n => Numeral.decimal n

/-- How an operand is written: a register by its digit, anything else as a literal. -/
def operandText (radix : Radix) (o : Operands) (f : Operand) : String :=
  match f with
  | .x => Numeral.hex o.x.toNat
  | .y => Numeral.hex o.y.toNat
  | .nnn => literal radix o.nnn.toNat
  | .kk => literal radix o.kk.toNat
  | .n => literal radix o.n.toNat

/-- The order of the passes. -/
def order : List Operand := [.x, .y, .nnn, .kk, .n]

def fill (radix : Radix) (o : Operands) (template : String) : String :=
  let pass (text : List Char) (f : Operand) : List Char :=
    replaceAll (Mark.of f).toList (operandText radix o f).toList text
  String.ofList (order.foldl pass template.toList)

end Template

end Chip8
