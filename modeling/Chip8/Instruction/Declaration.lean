import Chip8.Instruction.IntegerLiteral
import Chip8.Instruction.Template
import Chip8.Text.Uppercase

/-!
# Declarations

An instruction is declared by a pattern, a mask, an operand layout and a mnemonic, given as text
beside the name of its function. `Declaration.check` turns a sound declaration into a row of the
instruction table and otherwise reports the first thing that is wrong with it.
-/

namespace Chip8

inductive Property where
  | pattern | mask | operands | mnemonic
  deriving DecidableEq, Repr

def Property.name : Property → String
  | pattern => "pattern"
  | mask => "mask"
  | operands => "operands"
  | mnemonic => "mnemonic"

inductive DeclarationError where
  | missing (property : Property)
  | literal (error : LiteralError)
  | unknownLayout
  | patternOutsideMask
  | operandsOverlapMask
  | brace (error : BraceError)
  | notAnOperand (name : String) (layout : Layout)
  deriving DecidableEq, Repr

def BraceError.message : BraceError → String
  | unmatched => "unmatched `\x7d` in mnemonic"
  | unclosed => "unclosed `\x7b` in mnemonic"

namespace DeclarationError

def message : DeclarationError → String
  | missing p => s!"opcode is missing `{p.name}`"
  | literal e => e.message
  | unknownLayout => "operands must be one of None, Nnn, X, Xkk, Xy, Xyn"
  | patternOutsideMask => "pattern sets bits outside of its mask"
  | operandsOverlapMask => "operand bits overlap the mask"
  | brace e => e.message
  | notAnOperand name layout => s!"`\x7b{name}\x7d` is not an operand of layout {layout.name}"

end DeclarationError

structure Declaration where
  name : String
  pattern : Option String
  mask : Option String
  operands : Option String
  mnemonic : Option String
  deriving DecidableEq, Repr

namespace Layout

def allows (l : Layout) (name : String) : Bool := l.operands.any (·.name == name)

end Layout

/-- The braces are looked at before any name. -/
def checkMnemonic (l : Layout) (mnemonic : String) : Except DeclarationError Unit :=
  match Template.placeholders mnemonic with
  | .error e => .error (.brace e)
  | .ok names =>
    match names.find? fun name => !l.allows name with
    | some name => .error (.notAnOperand name l)
    | none => .ok ()

/-- The pattern lies in the mask, and the mask leaves the operands alone. -/
def checkBits (pattern mask : Opcode) (l : Layout) : Except DeclarationError Unit :=
  if pattern &&& ~~~mask ≠ 0 then .error .patternOutsideMask
  else if mask &&& l.bits ≠ 0 then .error .operandsOverlapMask
  else .ok ()

namespace Declaration

def require (p : Property) (text : Option String) : Except DeclarationError String :=
  match text with
  | some t => .ok t
  | none => .error (.missing p)

/-- The name of the table row that the declaration makes. -/
def constant (d : Declaration) : String := Uppercase.upper d.name

def check (d : Declaration) : Except DeclarationError Encoding := do
  let pattern ← require .pattern d.pattern
  let mask ← require .mask d.mask
  let operands ← require .operands d.operands
  let mnemonic ← require .mnemonic d.mnemonic
  let pattern ← (IntegerLiteral.opcode pattern).mapError .literal
  let mask ← (IntegerLiteral.opcode mask).mapError .literal
  match Layout.ofName? operands with
  | none => .error .unknownLayout
  | some layout =>
    checkBits pattern mask layout
    checkMnemonic layout mnemonic
    .ok { name := d.name, pattern, mask, layout, mnemonic }

end Declaration

end Chip8
