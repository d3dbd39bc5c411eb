import Chip8.Host.Status

/-!
# Screen

The text that shows a state on a terminal: the picture from the top left corner on, two columns to a
pixel, then an empty line and the status panel. Lines count from one.
-/

namespace Chip8.Screen

def escape : String := "\x1b["

def moveTo (line : Nat) : String := s!"{escape}{line};1H"

/-- A lit pixel is yellow, an unlit one blank. -/
def pixel (lit : Bool) : String :=
  if lit then s!"{escape}33m██{escape}39m" else "  "

def pictureLine (d : Display) (y : Nat) : String :=
  moveTo (y + 1) ++ String.join ((d.pixels y).map pixel)

def picture (d : Display) : String :=
  String.join ((List.range Display.height).map (pictureLine d))

/-- The line is cleared before it is written. -/
def statusLine (n : Nat) (text : String) : String :=
  s!"{moveTo (Display.height + 2 + n)}{escape}2K{text}"

def status (s : State) : String :=
  String.join ((Status.lines s).mapIdx statusLine)

def text (s : State) : String := picture s.display ++ status s

/-- Leaves the screen of the shell and hides the cursor. -/
def enter : String := s!"{escape}?1049h{escape}2J{escape}?25l"

def leave : String := s!"{escape}?25h{escape}?1049l"

end Chip8.Screen
