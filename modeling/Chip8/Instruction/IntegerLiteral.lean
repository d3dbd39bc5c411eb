import Chip8.Text.Identifier
import Chip8.Word

/-!
# Integer literals

The numerals of an instruction declaration: decimal, or hexadecimal, octal or binary behind `0x`,
`0o` or `0b`. Underscores between the digits and a suffix in the form of a name do not count.
-/

namespace Chip8

inductive LiteralError where
  | notAnInteger
  | negative
  | tooLarge
  deriving DecidableEq, Repr

namespace LiteralError

def message : LiteralError → String
  | notAnInteger => "expected integer literal"
  | negative => "invalid digit found in string"
  | tooLarge => "number too large to fit in target type"

end LiteralError

namespace IntegerLiteral

/-- Letters are digits only above base ten. A digit need not be below the base. -/
def digit? (base : Nat) (c : Char) : Option Nat :=
  if c.isDigit then some (c.toNat - '0'.toNat)
  else if base ≤ 10 then none
  else if 'a' ≤ c ∧ c ≤ 'f' then some (c.toNat - 'a'.toNat + 10)
  else if 'A' ≤ c ∧ c ≤ 'F' then some (c.toNat - 'A'.toNat + 10)
  else none

/-- A suffix is nothing or a name, which may begin with a low line. -/
def isSuffix : List Char → Bool
  | [] => true
  | c :: cs => (c == '_' || Identifier.isStart c) && cs.all Identifier.isContinue

/-- Whether the text after an `e` makes the numeral a fraction; `seen` tells of an earlier digit. -/
def isExponent (seen : Bool) : List Char → Bool
  | [] => seen
  | c :: cs =>
    if c = '_' then isExponent seen cs
    else if c = '+' ∨ c = '-' then true
    else if c.isDigit then isExponent true cs
    else seen && isSuffix (c :: cs)

/-- Reads the digits; `value` is what the earlier ones make, if there were any. -/
def digits? (base : Nat) (value : Option Nat) : List Char → Option Nat
  | [] => value
  | c :: cs =>
    if c = '_' then digits? base value cs
    else
      match digit? base c with
      | some d => if d < base then digits? base (some (base * value.getD 0 + d)) cs else none
      | none =>
        if base = 10 ∧ (c = '.' ∨ (c = 'e' ∨ c = 'E') ∧ isExponent false cs) then none
        else if isSuffix (c :: cs) then value
        else none

def unsigned? : List Char → Option Nat
  | '0' :: 'x' :: cs => digits? 16 none cs
  | '0' :: 'o' :: cs => digits? 8 none cs
  | '0' :: 'b' :: cs => digits? 2 none cs
  | c :: cs => if c.isDigit then digits? 10 none (c :: cs) else none
  | [] => none

/-- The opcode that a literal stands for. -/
def opcode (text : String) : Except LiteralError Opcode :=
  let (minus, body) :=
    match text.toList with
    | '-' :: cs => (true, cs)
    | cs => (false, cs)
  match unsigned? body with
  | none => .error .notAnInteger
  | some n =>
    if minus then .error .negative
    else if n < 0x10000 then .ok (BitVec.ofNat 16 n)
    else .error .tooLarge

end IntegerLiteral

end Chip8
