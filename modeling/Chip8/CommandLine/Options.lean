import Chip8.Host.Files
import Chip8.Host.Session
import Chip8.Listing
import Chip8.Log
import Chip8.Random.ChaCha

/-!
# Options

What a call of the program asks for, and what it comes to once the program image has been read: a
finished report, or a session to be played.
-/

namespace Chip8

structure Options where
  rom : String
  stepsPerFrame : Nat := 8
  seed : Option UInt64 := none
  config : Config := {}
  listing : Bool := false
  logLevel : LevelFilter := some .warn

/-- What a call leaves behind when it ends. -/
structure Report where
  code : UInt32
  stdout : List String := []
  stderr : List String := []
  deriving DecidableEq, Repr

inductive Start where
  | finished (report : Report)
  | playing (session : Session)

namespace Report

/-- A call that failed with an error of the given description. -/
def failure (description : String) : Report := { code := 1, stderr := ["Error: " ++ description] }

end Report

namespace Options

/-- A listing never fails, whatever the image. Without a seed the generator is the one given. -/
def start (o : Options) (program : List Byte) (unseeded : Generator) : Start :=
  if o.listing then
    .finished { code := 0, stdout := (Chip8.listing program programStart).map Line.render }
  else
    match State.loadProgram program with
    | .error e => .finished (.failure e.describe)
    | .ok s =>
      let generator :=
        match o.seed with
        | some seed => ChaCha.seeded seed
        | none => unseeded
      .playing
        { config := o.config, stepsPerFrame := o.stepsPerFrame, state := s, generator := generator }

/-- The lines logged before the first frame. -/
def startLog (o : Options) (program : List Byte) : List String :=
  let running :=
    s!"{Level.info.name} running {o.rom} ({Numeral.decimal program.length} bytes)"
  logLines o.logLevel (LogEntry.ofLoad program programStart) ++
    if o.logLevel.allows .info then [running] else []

/-- The start of a call whose image could not be read is its end. -/
def startFrom (o : Options) (image : Except FileError (List Byte)) (unseeded : Generator) : Start :=
  match image with
  | .error e => .finished (.failure e.describe)
  | .ok program => o.start program unseeded

end Options

namespace Halt

/-- Nothing reaches standard output; the fault is also logged, as an error. -/
def report (h : Halt) : Report := .failure h.describe

def logged (h : Halt) (f : LevelFilter) : Option String :=
  if f.allows .error then some h.message else none

end Halt

end Chip8
