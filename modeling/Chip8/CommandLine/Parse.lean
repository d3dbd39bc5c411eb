import Chip8.CommandLine.Options

/-!
# Arguments

The command line: one path, and options with a long or a short name. An option that takes a value
finds it in the same argument or in the next one; switches and a last option with its value may share
one dash. Nothing may be given twice. Asking for the version or for help ends the reading at once, so
that only mistakes further left are seen.
-/

namespace Chip8.CommandLine

inductive Switch where
  | shiftInPlace | exclusiveTransfer | listing
  deriving DecidableEq, Repr

inductive Setting where
  | stepsPerFrame | seed | stackDepth | timerDivider | logLevel
  deriving DecidableEq, Repr

inductive Name where
  | switch (s : Switch)
  | setting (s : Setting)
  | version
  | help
  deriving DecidableEq, Repr

/-- Why the arguments make no call. -/
inductive UsageError where
  | unknownOption
  | repeatedOption
  | missingValue
  | invalidValue
  | unexpectedValue
  | extraPath
  | missingPath
  deriving DecidableEq, Repr

/-- Why reading stopped. -/
inductive Stop where
  | version
  | help
  | error (e : UsageError)
  deriving DecidableEq, Repr

/-- What has been read so far. -/
structure Draft where
  path : Option String := none
  stepsPerFrame : Option Nat := none
  seed : Option UInt64 := none
  stackDepth : Option Nat := none
  timerDivider : Option Byte := none
  logLevel : Option LevelFilter := none
  shiftInPlace : Bool := false
  exclusiveTransfer : Bool := false
  listing : Bool := false

namespace Name

def ofLong? : String → Option Name
  | "steps-per-frame" => some (.setting .stepsPerFrame)
  | "seed" => some (.setting .seed)
  | "stack-depth" => some (.setting .stackDepth)
  | "timer-divider" => some (.setting .timerDivider)
  | "log-level" => some (.setting .logLevel)
  | "shift-in-place" => some (.switch .shiftInPlace)
  | "exclusive-load-store" => some (.switch .exclusiveTransfer)
  | "disassemble" => some (.switch .listing)
  | "version" => some .version
  | "help" => some .help
  | _ => none

def ofShort? : Char → Option Name
  | 's' => some (.setting .stepsPerFrame)
  | 'd' => some (.switch .listing)
  | 'V' => some .version
  | 'h' => some .help
  | _ => none

end Name

/-- A number from `least` to `most`. -/
def number? (least most : Nat) (text : String) : Option Nat :=
  Numeral.readWithin? least most text.toList

/-- The largest number that 64 bits hold. -/
def wordLimit : Nat := 0xFFFFFFFFFFFFFFFF

/-- The name of a level in letters of either case, or `off`. -/
def level? (text : String) : Option LevelFilter :=
  let lower := String.ofList (text.toList.map Char.toLower)
  if lower = "off" then some none
  else
    (Level.all.find? fun l => String.ofList (l.name.toList.map Char.toLower) == lower).map some

/-- Stores a value that was read, or tells why it cannot be. -/
def fill {α : Type} (current value : Option α) : Except UsageError (Option α) :=
  match current, value with
  | some _, _ => .error .repeatedOption
  | none, none => .error .invalidValue
  | none, some a => .ok (some a)

namespace Draft

def set (d : Draft) (s : Setting) (text : String) : Except UsageError Draft :=
  match s with
  | .stepsPerFrame =>
    (fill d.stepsPerFrame (number? 0 wordLimit text)).map fun v => { d with stepsPerFrame := v }
  | .seed =>
    (fill d.seed ((number? 0 wordLimit text).map UInt64.ofNat)).map fun v => { d with seed := v }
  | .stackDepth =>
    (fill d.stackDepth (number? 0 wordLimit text)).map fun v => { d with stackDepth := v }
  | .timerDivider =>
    (fill d.timerDivider ((number? 1 255 text).map (BitVec.ofNat 8))).map fun v =>
      { d with timerDivider := v }
  | .logLevel => (fill d.logLevel (level? text)).map fun v => { d with logLevel := v }

def turnOn (d : Draft) : Switch → Except UsageError Draft
  | .shiftInPlace =>
    if d.shiftInPlace then .error .repeatedOption else .ok { d with shiftInPlace := true }
  | .exclusiveTransfer =>
    if d.exclusiveTransfer then .error .repeatedOption else .ok { d with exclusiveTransfer := true }
  | .listing => if d.listing then .error .repeatedOption else .ok { d with listing := true }

/-- The path must not be empty. -/
def place (d : Draft) (path : String) : Except UsageError Draft :=
  match d.path with
  | some _ => .error .extraPath
  | none => if path.isEmpty then .error .invalidValue else .ok { d with path := some path }

def placeAll (d : Draft) : List String → Except UsageError Draft
  | [] => .ok d
  | path :: rest =>
    match d.place path with
    | .error e => .error e
    | .ok d => d.placeAll rest

def config (d : Draft) : Config where
  stackDepth := d.stackDepth.getD 16
  timerDivider := d.timerDivider.getD 8
  shiftSource := if d.shiftInPlace then .vx else .vy
  transferRange := if d.exclusiveTransfer then .exclusive else .inclusive

def options (d : Draft) : Except UsageError Options :=
  match d.path with
  | none => .error .missingPath
  | some path =>
    .ok
      { rom := path
        stepsPerFrame := d.stepsPerFrame.getD 8
        seed := d.seed
        config := d.config
        listing := d.listing
        logLevel := d.logLevel.getD (some .warn) }

end Draft

/-- An argument with a dash in front is an option, unless it is the dash alone. -/
def isOption (arg : String) : Bool :=
  match arg.toList with
  | '-' :: _ :: _ => true
  | _ => false

/-- What an argument leaves to do: nothing, or to find the value of an option in the next one. -/
abbrev Reading := Except Stop (Draft × Option Setting)

def done (d : Except UsageError Draft) : Reading :=
  match d with
  | .ok d => .ok (d, none)
  | .error e => .error (.error e)

/-- The letters after a single dash. -/
def readShort (d : Draft) : List Char → Reading
  | [] => .ok (d, none)
  | c :: cs =>
    match Name.ofShort? c with
    | none => .error (.error .unknownOption)
    | some .version => .error .version
    | some .help => .error .help
    | some (.switch s) =>
      match d.turnOn s with
      | .ok d => readShort d cs
      | .error e => .error (.error e)
    | some (.setting s) =>
      if cs.isEmpty then .ok (d, some s)
      else done (d.set s (String.ofList (if cs.head? = some '=' then cs.tail else cs)))

/-- The text after two dashes, split at the first equals sign. -/
def readLong (d : Draft) (text : List Char) : Reading :=
  let name := text.takeWhile (· != '=')
  let value := (text.dropWhile (· != '=')).tail?
  match Name.ofLong? (String.ofList name), value with
  | none, _ => .error (.error .unknownOption)
  | some (.setting s), some value => done (d.set s (String.ofList value))
  | some (.setting s), none => .ok (d, some s)
  | some _, some _ => .error (.error .unexpectedValue)
  | some (.switch s), none => done (d.turnOn s)
  | some .version, none => .error .version
  | some .help, none => .error .help

def readArgument (d : Draft) (arg : String) : Reading :=
  match arg.toList with
  | '-' :: '-' :: text => readLong d text
  | '-' :: c :: cs => readShort d (c :: cs)
  | _ => done (d.place arg)

/-- Two dashes alone make all that follows a path. -/
def readArguments (d : Draft) : List String → Except Stop Draft
  | [] => .ok d
  | arg :: rest =>
    if arg = "--" then (d.placeAll rest).mapError .error
    else
      match readArgument d arg, rest with
      | .error e, _ => .error e
      | .ok (d, none), rest => readArguments d rest
      | .ok (_, some _), [] => .error (.error .missingValue)
      | .ok (d, some s), value :: rest =>
        if isOption value then .error (.error .missingValue)
        else
          match d.set s value with
          | .error e => .error (.error e)
          | .ok d => readArguments d rest

def parse (args : List String) : Except Stop Options :=
  match readArguments {} args with
  | .error e => .error e
  | .ok d => d.options.mapError .error

def versionText : String := "pixie8 0.1.0"

def usage : String := "Usage: pixie8 [OPTIONS] <rom>"

/-- Mistakes in the arguments end a call with code 2. -/
def Stop.report : Stop → Report
  | .version => { code := 0, stdout := [versionText] }
  | .help => { code := 0, stdout := [usage] }
  | .error _ => { code := 2, stderr := [usage] }

end Chip8.CommandLine
