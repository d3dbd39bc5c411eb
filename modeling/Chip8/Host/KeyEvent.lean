import Chip8.Host.Keymap

/-!
# Key events

What a terminal reports of its keyboard, and what an event does: it quits, or changes which key is
held, or nothing.
-/

namespace Chip8

inductive KeyCode where
  | char (c : Char)
  | escape
  | other
  deriving DecidableEq, Repr

inductive KeyAction where
  | press | again | release
  deriving DecidableEq, Repr

structure KeyEvent where
  code : KeyCode
  control : Bool := false
  action : KeyAction := .press
  deriving DecidableEq, Repr

namespace KeyEvent

/-- Escape and Control-C leave the program, whether pressed or let go. -/
def quits (e : KeyEvent) : Bool :=
  match e.code with
  | .escape => true
  | .char c => c == 'c' && e.control
  | .other => false

/-- An event that quits changes nothing. -/
def apply (e : KeyEvent) (m : Keymap) : Keymap :=
  if e.quits then m
  else
    match e.code, e.action with
    | .char c, .release => m.release c
    | .char c, _ => m.press c
    | _, _ => m

end KeyEvent

namespace Keymap

/-- Takes events up to the first that quits; `none` if there is one. -/
def takeEvents (m : Keymap) : List KeyEvent → Option Keymap
  | [] => some m
  | e :: es => if e.quits then none else (e.apply m).takeEvents es

end Keymap

end Chip8
