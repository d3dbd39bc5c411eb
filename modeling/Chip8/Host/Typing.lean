import Chip8.Host.FunctionKey
import Chip8.Host.MouseReport

/-!
# Typed text

The bytes that a terminal in raw mode delivers, read as key events. Control characters stand for a
letter or digit with Control held down. An escape character is the Escape key when another one or
nothing at all follows it; otherwise it opens a sequence or marks the next character as an alternate.
Of the sequences, key reports and function keys are key events, and answers to questions about the
terminal end the reading of a frame. The rest is mouse reports, changes of focus and pasted text, of
which the machine only takes notice, and what cannot be read, which is as if it had not been typed.
-/

namespace Chip8.Typing

/-- How much of a character or a sequence has been read. -/
inductive Pending where
  | none
  /-- A character of which some bytes are still to come; `bits` are those of its bytes so far. -/
  | character (bits missing : Nat)
  /-- Just the escape character. -/
  | escape
  /-- A function key that one of these letters names. -/
  | letter (letters : List Char)
  /-- A sequence whose first character tells its form. -/
  | control
  /-- A mouse report of three bytes, last first. -/
  | mouse (bytes : List UInt8)
  /-- A mouse report in digits, last first; an `M` of either case ends it. -/
  | pointer (text : List Char)
  /-- An answer; `begun` tells that a character of it has been read. -/
  | answer (begun : Bool)
  /-- A sequence with parameters, last character first. -/
  | parameters (text : List Char)
  /-- Pasted text, last character first. -/
  | paste (text : List Char)
  deriving DecidableEq, Repr

/-- What a character or a whole sequence tells. -/
inductive Input where
  | key (event : KeyEvent)
  | answer
  | notice
  deriving DecidableEq, Repr

/-! ## Characters -/

def withControl (c : Char) : KeyEvent := { code := .char c, control := true }

/-- The character `k` places after `first`. -/
def nth (first : Char) (k : Nat) : Char := Char.ofNat (first.toNat + k)

/-- A character outside of any sequence. -/
def event (c : Char) : KeyEvent :=
  let n := c.toNat
  if c = '\r' ∨ c = '\t' ∨ n = 0x7F then { code := .other }
  else if n = 0 then withControl ' '
  else if n ≤ 0x1A then withControl (nth 'a' (n - 1))
  else if 0x1C ≤ n ∧ n ≤ 0x1F then withControl (nth '4' (n - 0x1C))
  else { code := .char c }

/-- The first byte of a character tells how many follow; a byte that follows none is dropped. -/
def firstByte (byte : Nat) : Pending × Option Input :=
  if byte < 0x80 then (.none, some (.key (event (Char.ofNat byte))))
  else if byte < 0xC0 then (.none, none)
  else if byte < 0xE0 then (.character (byte % 0x20) 1, none)
  else if byte < 0xF0 then (.character (byte % 0x10) 2, none)
  else if byte < 0xF8 then (.character (byte % 0x08) 3, none)
  else (.none, none)

/-! ## Sequences -/

def escapeChar : Char := '\x1b'

def escapeKey : KeyEvent := { code := .escape }

def functionKey (named : Bool) : Option Input :=
  if named then some (.key FunctionKey.event) else none

def noticeIf (readable : Bool) : Option Input := if readable then some .notice else none

/-- The sequence that a character in first place opens, or what it is at once. -/
def opened (c : Char) : Pending × Option Input :=
  if c = '[' then (.letter FunctionKey.consoleLetters, none)
  else if c = 'M' then (.mouse [], none)
  else if c = '<' then (.pointer [], none)
  else if c = '?' then (.answer false, none)
  else if c.isDigit then (.parameters [c], none)
  else if c = 'I' ∨ c = 'O' then (.none, some .notice)
  else (.none, functionKey (FunctionKey.bareLetters.contains c))

/-- Characters from `@` to `~` end the parameters of a sequence. -/
def isFinal (c : Char) : Bool := '@' ≤ c && c ≤ '~'

/-- The parameters of the cursor's position are its line and its column. -/
def isPosition (parameters : List Char) : Bool :=
  match Fields.split ';' parameters with
  | line :: column :: _ => MouseReport.isCoordinate line && MouseReport.isCoordinate column
  | _ => false

/-- What the final character of a sequence makes of its parameters. -/
def finish (parameters : List Char) (final : Char) : Pending × Option Input :=
  if final = 'u' then (.none, (KeyReport.event? parameters).map .key)
  else if final = 'R' then (.none, if isPosition parameters then some .answer else none)
  else if final = 'M' then
    (.none, noticeIf (MouseReport.isReport MouseReport.isShiftedCode parameters))
  else if final = '~' then
    if parameters = ['2', '0', '0'] then (.paste [], none)
    else (.none, functionKey (FunctionKey.isNumbered parameters))
  else
    (.none, functionKey (FunctionKey.letters.contains final && FunctionKey.isModified parameters))

/-- The sequence `ESC [ 201 ~` ends a paste; here it is read backwards. -/
def pasteEnd : List Char := ['~', '1', '0', '2', '[', escapeChar]

/-- One more byte. Within a sequence each byte is a character of its own. -/
def next (p : Pending) (byte : UInt8) : Pending × Option Input :=
  let c := Char.ofNat byte.toNat
  match p with
  | .none => if c = escapeChar then (.escape, none) else firstByte byte.toNat
  | .character bits missing =>
    let bits := 0x40 * bits + byte.toNat % 0x40
    if missing ≤ 1 then (.none, some (.key (event (Char.ofNat bits))))
    else (.character bits (missing - 1), none)
  | .escape =>
    if c = escapeChar then (.none, some (.key escapeKey))
    else if c = 'O' then (.letter FunctionKey.shortLetters, none)
    else if c = '[' then (.control, none)
    else firstByte byte.toNat
  | .letter letters => (.none, functionKey (letters.contains c))
  | .control => opened c
  | .mouse [_, code] => (.none, noticeIf (MouseReport.isShiftedCode code.toNat))
  | .mouse bytes => (.mouse (byte :: bytes), none)
  | .pointer text =>
    if c = 'm' ∨ c = 'M' then
      (.none, noticeIf (MouseReport.isReport MouseReport.isCode text.reverse))
    else (.pointer (c :: text), none)
  | .answer begun =>
    if c = 'c' ∨ c = 'u' ∧ begun then (.none, some .answer) else (.answer true, none)
  | .parameters text =>
    if isFinal c then finish text.reverse c else (.parameters (c :: text), none)
  | .paste text =>
    if pasteEnd.isPrefixOf (c :: text) then (.none, some .notice) else (.paste (c :: text), none)

/-- Reads byte after byte; also gives what is pending in the end. -/
def scan (p : Pending) : List UInt8 → Pending × List Input
  | [] => (p, [])
  | byte :: rest =>
    let (p, input) := next p byte
    let (p, inputs) := scan p rest
    (p, input.toList ++ inputs)

/-! ## Portions -/

/-- How many bytes are taken at once. -/
def portion : Nat := 1024

/-- Reads a portion. An escape character at its end is the Escape key if the portion is not full, as
there is nothing more then. -/
def scanPortion (p : Pending) (bytes : List UInt8) : Pending × List Input :=
  match scan p bytes with
  | (.escape, inputs) =>
    if bytes.length < portion then (.none, inputs ++ [.key escapeKey]) else (.escape, inputs)
  | scanned => scanned

/-- Takes portions up to the first that tells anything; the bytes behind it are lost. -/
def inputs (p : Pending) (bytes : List UInt8) : List Input :=
  let (p, found) := scanPortion p (bytes.take portion)
  if bytes.length ≤ portion ∨ found ≠ [] then found else inputs p (bytes.drop portion)
  termination_by bytes.length
  decreasing_by
    simp only [List.length_drop, portion] at *
    omega

/-- Key events by frame: an answer is the last thing that its frame reads. -/
def byFrame : List Input → List (List KeyEvent)
  | [] => [[]]
  | .answer :: rest => [] :: byFrame rest
  | .notice :: rest => byFrame rest
  | .key e :: rest =>
    match byFrame rest with
    | [] => [[e]]
    | events :: later => (e :: events) :: later

/-- The events of the frames that follow the typing of a text. -/
def frames (typed : String) : List (List KeyEvent) :=
  byFrame (inputs .none typed.toUTF8.data.toList)

end Chip8.Typing
