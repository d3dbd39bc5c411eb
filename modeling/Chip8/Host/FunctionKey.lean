import Chip8.Host.KeyReport

/-!
# Function keys

Keys that write nothing, such as the cursor keys, have sequences in which a letter or a number names
the key. A letter or number that names none makes the sequence unreadable.
-/

namespace Chip8.FunctionKey

/-- All function keys are alike to the machine. -/
def event : KeyEvent := { code := .other }

/-- The letters that name a key behind `ESC O`. -/
def shortLetters : List Char := ['A', 'B', 'C', 'D', 'F', 'H', 'P', 'Q', 'R', 'S']

/-- The letters that name a key behind `ESC [` and parameters. -/
def letters : List Char := ['A', 'B', 'C', 'D', 'F', 'H', 'P', 'Q', 'S']

/-- Without parameters there is one more, the backward tabulator. -/
def bareLetters : List Char := 'Z' :: letters

/-- The letters that name a key behind `ESC [ [`. -/
def consoleLetters : List Char := ['A', 'B', 'C', 'D', 'E']

/-- The numbers that name a key in front of `~`, in ranges. -/
def numbers : List (Nat × Nat) := [(1, 8), (11, 15), (17, 21), (23, 26), (28, 29), (31, 34)]

def isNumber (n : Nat) : Bool := numbers.any fun r => r.1 ≤ n && n ≤ r.2

/-- Whether the first parameter names a key by its number. -/
def isNumbered (parameters : List Char) : Bool :=
  ((Fields.split ';' parameters).head?.bind Numeral.read?).any isNumber

/-- The second parameter tells the modifiers held. One that cannot be read passes if a digit ends the
parameters, as that digit may tell them instead. -/
def isModified (parameters : List Char) : Bool :=
  ((Fields.split ';' parameters)[1]?.bind KeyReport.mask?).isSome ||
    parameters.getLast?.any Char.isDigit

end Chip8.FunctionKey
