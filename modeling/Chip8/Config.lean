import Chip8.Word

/-!
# Configuration

Where machines of this family differ: how deep calls nest, how many steps a timer tick takes, which
register the shifts read, and whether a register transfer includes the register it names.
-/

namespace Chip8

inductive ShiftSource where
  | vy | vx
  deriving DecidableEq, Repr

inductive TransferRange where
  | inclusive | exclusive
  deriving DecidableEq, Repr

structure Config where
  stackDepth : Nat := 16
  timerDivider : Byte := 8
  shiftSource : ShiftSource := .vy
  transferRange : TransferRange := .inclusive
  deriving DecidableEq, Repr

namespace Config

/-- A divider of zero is stored as one. -/
def withTimerDivider (c : Config) (divider : Byte) : Config :=
  { c with timerDivider := if divider = 0 then 1 else divider }

/-- Steps from one timer tick to the next. -/
def period (c : Config) : Nat := max 1 c.timerDivider.toNat

/-- How many registers a transfer named by `x` moves, counted from V0. -/
def transferLength (c : Config) (x : Nibble) : Nat :=
  match c.transferRange with
  | .inclusive => x.toNat + 1
  | .exclusive => x.toNat

theorem period_pos (c : Config) : 0 < c.period := by
  simp only [period]
  omega

theorem period_le (c : Config) : c.period ≤ 255 := by
  have := c.timerDivider.isLt
  simp only [period]
  omega

theorem transferLength_le (c : Config) (x : Nibble) : c.transferLength x ≤ 16 := by
  have := x.isLt
  unfold transferLength
  split <;> omega

end Config

end Chip8
