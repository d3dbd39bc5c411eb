import Chip8.CommandLine.Parse
import Chip8.Host.Screen
import Chip8.Host.Typing

/-!
# The program

Reads the arguments and the program image, prints a listing or plays a session on the terminal. All
that is decided is decided elsewhere; here are only the clock, the files and the streams.
-/

namespace Chip8.Program

def framesPerSecond : Nat := 60

def print (r : Report) : IO UInt32 := do
  for line in r.stdout do IO.println line
  for line in r.stderr do IO.eprintln line
  return r.code

/-- The system's numbers tell apart what the cases of an error join. -/
def fileError (e : IO.Error) : FileError :=
  let code :=
    match e with
    | .noFileOrDirectory _ code _ | .permissionDenied _ code _ | .inappropriateType _ code _
    | .invalidArgument _ code _ => code.toNat
    | _ => 0
  (FileError.all.find? (·.code == code)).getD ⟨code, "Other", e.toString⟩

def readImage (path : String) : IO (Except FileError (List Byte)) := do
  try
    let bytes ← IO.FS.readBinFile path
    return .ok (bytes.toList.map UInt8.toBitVec)
  catch e => return .error (fileError e)

def randomSeed : IO UInt64 := do
  let bytes ← IO.getRandomBytes 8
  return bytes.toList.foldl (fun n b => 256 * n + b.toUInt64) 0

/-- Collects what is typed, for the frames to take; the end of a line is not typed. -/
partial def listen (typed : IO.Ref String) : IO Unit := do
  let line ← (← IO.getStdin).getLine
  if line.isEmpty then return
  typed.modify (· ++ String.ofList (line.toList.filter (· != '\n')))
  listen typed

/-- Plays frame after frame; `queue` holds the events that are still to come of what was typed. -/
partial def frames (o : Options) (s : Session) (typed : IO.Ref String)
    (queue : List (List KeyEvent)) : IO Progress := do
  let start ← IO.monoMsNow
  let queue ← if queue.isEmpty then Typing.frames <$> typed.swap "" else pure queue
  let events := queue.headD []
  for line in logLines o.logLevel (s.frameLog events) do IO.eprintln line
  match s.frame events with
  | .running s =>
    IO.print (Screen.text s.state)
    (← IO.getStdout).flush
    let spent := (← IO.monoMsNow) - start
    IO.sleep (1000 / framesPerSecond - spent).toUInt32
    frames o s typed queue.tail
  | ended => return ended

def play (o : Options) (s : Session) : IO UInt32 := do
  let typed ← IO.mkRef ""
  let _ ← IO.asTask (listen typed)
  IO.print Screen.enter
  let progress ← frames o s typed []
  IO.print Screen.leave
  match progress with
  | .halted h =>
    if let some message := h.logged o.logLevel then
      IO.eprintln s!"{Level.error.name} {message}"
    print h.report
  | .quit _ | .running _ => return 0

def run (args : List String) : IO UInt32 := do
  match CommandLine.parse args with
  | .error stop => print stop.report
  | .ok o =>
    let image ← readImage o.rom
    match o.startFrom image (ChaCha.seeded (← randomSeed)) with
    | .finished r => print r
    | .playing s =>
      for line in o.startLog (image.toOption.getD []) do IO.eprintln line
      play o s

end Chip8.Program

def main (args : List String) : IO UInt32 := Chip8.Program.run args
