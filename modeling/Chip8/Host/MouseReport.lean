import Chip8.Numeral
import Chip8.Text.Fields

/-!
# Mouse reports

What a terminal tells of its mouse: a code for the button and its movement, a column and a line. The
machine has no mouse, so all that matters of a report is whether it can be read.
-/

namespace Chip8.MouseReport

/-- The button is told by the two lowest and the two highest bits of the code. -/
def button (code : Nat) : Nat := code % 4 + 4 * (code / 64)

def isMovement (code : Nat) : Bool := code.testBit 5

/-- There are eight buttons, wheels included; no movement is told with the last two. -/
def isCode (code : Nat) : Bool := button code < if isMovement code then 6 else 8

/-- Older reports add this to the code. -/
def shift : Nat := 32

def isShiftedCode (code : Nat) : Bool := shift ≤ code && isCode (code - shift)

/-- A column or a line of the screen. -/
def isCoordinate (field : List Char) : Bool := (Numeral.readWithin? 0 0xFFFF field).isSome

/-- Reads a report in digits, of a code with the property given. -/
def isReport (valid : Nat → Bool) (parameters : List Char) : Bool :=
  match Fields.split ';' parameters with
  | code :: column :: line :: _ =>
    (Numeral.readWithin? 0 255 code).any valid && isCoordinate column && isCoordinate line
  | _ => false

end Chip8.MouseReport
