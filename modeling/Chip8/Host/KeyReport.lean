import Chip8.Host.KeyEvent
import Chip8.Numeral
import Chip8.Text.Fields

/-!
# Key reports

A terminal may report a key by its code instead of its character. Behind the code stand, after colons,
the codes that the key has under modifiers, and after a semicolon the modifiers held and what happened
to the key. A key with a code that cannot be read is not reported at all; anything else that cannot be
read is taken as absent.
-/

namespace Chip8

structure Modifiers where
  shift : Bool := false
  control : Bool := false
  deriving DecidableEq, Repr

namespace KeyReport

def char? (code : Nat) : Option Char :=
  if code.isValidChar then some (Char.ofNat code) else none

/-- The number pad has codes of its own from here on, in the order of `padChars`. -/
def padFirst : Nat := 57399

def padChars : List Char :=
  ['0', '1', '2', '3', '4', '5', '6', '7', '8', '9', '.', '/', '*', '-', '+']

def padChar? (code : Nat) : Option Char :=
  if padFirst ≤ code then padChars[code - padFirst]? else none

/-- Codes for private use name keys that write nothing. -/
def isPrivate (code : Nat) : Bool := 0xE000 ≤ code && code ≤ 0xF8FF

def keyCode? (code : Nat) : Option KeyCode :=
  match padChar? code with
  | some c => some (.char c)
  | none =>
    if code = 0x1B then some .escape
    else if code = 0x09 ∨ code = 0x0D ∨ code = 0x7F ∨ isPrivate code then some .other
    else (char? code).map .char

def shiftKeys : List Nat := [57441, 57447]

def controlKeys : List Nat := [57442, 57448]

/-- The mask is one more than the sum of 1 for Shift, 4 for Control, and others for keys that do not
matter here. -/
def modifiers (mask : Nat) : Modifiers where
  shift := (mask - 1).testBit 0
  control := (mask - 1).testBit 2

/-- A modifier key holds itself. -/
def hold (code : Nat) (m : Modifiers) : Modifiers where
  shift := m.shift || shiftKeys.contains code
  control := m.control || controlKeys.contains code

def action : Option Nat → KeyAction
  | some 2 => .again
  | some 3 => .release
  | _ => .press

/-- The mask in front of a field. -/
def mask? (field : List Char) : Option Nat :=
  (Fields.split ':' field).head?.bind (Numeral.readWithin? 0 255)

/-- The modifiers held and what happened; the kind of event counts only behind a readable mask. -/
def circumstances (field : List Char) : Modifiers × KeyAction :=
  match mask? field with
  | none => ({}, .press)
  | some m => (modifiers m, action ((Fields.split ':' field)[1]?.bind Numeral.read?))

/-- The character that the key writes under Shift. -/
def shiftedChar? (m : Modifiers) (alternates : List (List Char)) : Option Char :=
  if m.shift then (alternates.head?.bind Numeral.read?).bind char? else none

/-- The event that the parameters of a report describe. -/
def event? (parameters : List Char) : Option KeyEvent :=
  match Fields.split ';' parameters with
  | [] => none
  | key :: rest =>
    match Fields.split ':' key with
    | [] => none
    | first :: alternates =>
      match Numeral.read? first with
      | none => none
      | some code =>
        let (held, action) := circumstances (rest.headD [])
        let held := hold code held
        (keyCode? code).map fun k =>
          { code := ((shiftedChar? held alternates).map KeyCode.char).getD k
            control := held.control
            action := action }

end KeyReport

end Chip8
