import Chip8.CommandLine.Session
import Chip8.Terminal.Input
import Chip8.Terminal.Output
import Std.Time.DateTime.Timestamp

/-!
# The program

The command line at work.  What is to be done is decided by the session and the
emulator; here keys are read, screens shown, notices and screenshots written, and
the frame rate kept.

Keys arrive as the terminal sends them, at once or line by line.  A new line is
only waited for when all keys of the one before were taken, so a program that is
left by the last key of a line ends without another one.
-/

namespace Chip8.Program

open CommandLine (Arguments Refusal Report Session.close Session.prepare Surroundings)
open Terminal (Console Event)

/-! ## Files -/

/-- A failure of the system as a value. -/
def failureOf : IO.Error → IoError
  | .noFileOrDirectory _ _ _ => .system .notFound
  | .permissionDenied _ _ _ => .system .permissionDenied
  | .inappropriateType _ code _ =>
      .system (if code = 20 then .notADirectory else .isADirectory)
  | .invalidArgument (some _) 36 _ => .system .nameTooLong
  | other => .custom (toString other)

/-- An action with its failure as a result. -/
def attempt {α : Type} (action : IO α) : IO (Except IoError α) := do
  match ← action.toBaseIO with
  | .ok result => return .ok result
  | .error error => return .error (failureOf error)

/-- The bytes of a file behind those already read.  The file is asked for no more of them
than a machine takes from a program. -/
partial def readRest (file : IO.FS.Handle) (bytes : List UInt8) : IO ByteSource := do
  let wanted := Memory.programLimit + 1 - bytes.length
  if wanted = 0 then return ByteSource.ofList bytes
  match ← attempt (file.read (USize.ofNat wanted)) with
  | .error error => return { deliveries := Delivery.ofList bytes, ending := .failing error }
  | .ok more =>
      if more.isEmpty then return ByteSource.ofList bytes
      else readRest file (bytes ++ more.toList)

/-- Opening a program. -/
def openProgram (path : String) : IO (Except IoError ByteSource) := do
  match ← attempt (IO.FS.Handle.mk path .read) with
  | .error error => return .error error
  | .ok file => return .ok (← readRest file [])

/-- An album as its directory is now. -/
def lookAt (album : Album) : IO Album := do
  let now ← Std.Time.Timestamp.now
  let second := now.toSecondsSinceUnixEpoch.toInt.toNat
  match ← attempt (IO.FS.Handle.mk (Album.pathOf album.directory ".") .read) with
  | .error error => return { album with second, obstacle? := some error }
  | .ok _ => return { album with second, obstacle? := none }

/-! ## Keys -/

/-- The keys that arrive. -/
structure Keys where
  /-- Where they come from. -/
  input : IO.FS.Stream
  /-- The bytes that were not taken yet. -/
  arrived : IO.Ref ByteArray
  /-- The line under way. -/
  line : IO.Ref (Task (Except IO.Error Unit))

/-- Reading a line byte by byte. -/
partial def Keys.readLine (input : IO.FS.Stream) (arrived : IO.Ref ByteArray) : IO Unit := do
  let byte ← input.read 1
  arrived.modify (· ++ byte)
  unless byte.isEmpty || byte.toList = [10] do
    readLine input arrived

/-- Waiting for keys. -/
def Keys.start : IO Keys := do
  let input ← IO.getStdin
  let arrived ← IO.mkRef ByteArray.empty
  let line ← IO.mkRef (← IO.asTask (readLine input arrived) .dedicated)
  return { input, arrived, line }

/-- The events that have arrived.  A character whose bytes are not complete stays,
and bytes that make no character are dropped. -/
def Keys.take (keys : Keys) : IO (List Event) := do
  let bytes ← keys.arrived.swap ByteArray.empty
  if bytes.isEmpty then
    if ← IO.hasFinished (← keys.line.get) then
      keys.line.set (← IO.asTask (readLine keys.input keys.arrived) .dedicated)
    return []
  match String.fromUTF8? bytes with
  | some text => return Terminal.Input.events text.toList
  | none =>
      if bytes.size < 4 then keys.arrived.modify (bytes ++ ·)
      return []

/-! ## Frames -/

/-- What the frames of a session work with. -/
structure Front where
  /-- The keys. -/
  keys : Keys
  /-- Where the screen is shown. -/
  output : IO.FS.Stream
  /-- Which notices are written. -/
  threshold : Threshold
  /-- Whether the tone is audible. -/
  audible : Bool
  /-- The time of a frame in nanoseconds. -/
  interval : Nat
  /-- Whether the clock will show the time of a second frame. -/
  goesOn : Bool

namespace Front

/-- Showing what has changed on a console. -/
def exhibit (front : Front) (before after : Console) : IO Unit := do
  if before.display ≠ after.display then
    front.output.putStr (Terminal.Output.screen after.display.screen)
  if front.audible && !before.tone.sounding && after.tone.sounding then
    front.output.putStr "\x07"
  front.output.flush

/-- Writing a screenshot. -/
def writePicture (front : Front) (album : Album) (name : String) (picture : Picture) :
    IO Unit := do
  let path := Album.pathOf album.directory name
  match ← attempt (IO.FS.writeBinFile path (ByteArray.mk picture.toPng.toArray)) with
  | .ok () => return
  | .error error =>
      for line in front.threshold.lines [.notSaved error] do
        IO.eprintln line

/-- Writing what an emulator reported and kept, which it then no longer holds. -/
def settle (front : Front) (emulator : Emulator Console) : IO (Emulator Console) := do
  for line in front.threshold.lines emulator.journal.reverse do
    IO.eprintln line
  let album := emulator.host.album
  for (name, picture) in album.pictures do
    front.writePicture album name picture
  let host := { emulator.host with album := { album with pictures := [] } }
  return { emulator with journal := [], host }

/-- Handing the keys that have arrived to an emulator. -/
def provide (front : Front) (emulator : Emulator Console) : IO (Emulator Console) := do
  let events ← front.keys.take
  if events.isEmpty then return emulator
  let album ← lookAt emulator.host.album
  let queue := emulator.host.queue ++ events.map .ok
  return { emulator with host := { emulator.host with queue, album } }

/-- Frames until the user leaves or one fails, or only one if there is no time for
another.  The first one is due at some time. -/
partial def play (front : Front) (emulator : Emulator Console) (due : Nat) : IO Report := do
  let ready ← front.provide emulator
  let (outcome, after) := Emulator.frame ready
  front.exhibit emulator.host after.host
  let after ← front.settle after
  match outcome with
  | .ok .quit => return Session.close (.ok ()) after
  | .error failure => return Session.close (.error failure) after
  | .ok _ =>
      if !front.goesOn then return Report.brokenOff after
      let now ← IO.monoNanosNow
      IO.sleep (UInt32.ofNat (min ((due + front.interval - now) / 1000000) 0xFFFFFFFF))
      front.play after (max (due + front.interval) now)

end Front

/-! ## Sessions -/

/-- Bytes as a seed. -/
def seedOf (bytes : ByteArray) : UInt64 :=
  bytes.toList.foldl (fun seed byte => seed * 256 + byte.toUInt64) 0

/-- What a session finds, without the keys, which come later. -/
def lookAround (settings : Settings) : IO Surroundings := do
  let program ← openProgram settings.program
  let seed ← IO.getRandomBytes 8
  let now ← IO.monoNanosNow
  return {
    openFile := fun _ => program
    album := fun directory => Album.empty directory none
    columns := 80
    rows := 40
    queue := []
    clock := now / 1000000000
    elsewhere := RandomStream.ofSeed (seedOf seed) }

/-- The frames of a session, from the first to its report. -/
def playSession (arguments : Arguments) (emulator : Emulator Console) : IO Report := do
  let now ← IO.monoNanosNow
  let rate := arguments.settings.frameRate
  let front : Front :=
    { keys := ← Keys.start
      output := ← IO.getStdout
      threshold := arguments.threshold
      audible := arguments.settings.beep
      interval := (1000000000 * Pace.period rate).toUInt64.toNat
      goesOn := Pace.isReached rate (now / 1000000000) }
  front.output.putStr Terminal.Output.enter
  let report ← front.play emulator.announce now
  front.output.putStr Terminal.Output.leave
  front.output.flush
  return report

/-- A session under the arguments that were given. -/
def session (arguments : Arguments) : IO Report := do
  match Session.prepare arguments.settings (← lookAround arguments.settings) with
  | .error report =>
      if report.console?.isSome then
        IO.print (Terminal.Output.enter ++ Terminal.Output.leave)
      return report
  | .ok emulator => playSession arguments emulator

/-- What is told about the command line. -/
def usage : String :=
  "usage: chip8 [OPTIONS] <ROM>\n\n" ++
  "  -s, --steps <N>             instructions per frame [default: 9]\n" ++
  "  -f, --frame-rate <RATE>     frames and timer ticks per second [default: 60]\n" ++
  "      --seed <N>              seed for the random numbers\n" ++
  "      --beep                  make the tone audible\n" ++
  "      --key-hold <N>          frames a key stays down after a press [default: 6]\n" ++
  "      --screenshot-dir <DIR>  directory for screenshots [default: .]\n" ++
  "      --log-level <LEVEL>     log level, written to stderr [default: WARN]\n" ++
  "  -h, --help                  print help\n" ++
  "  -V, --version               print version\n"

/-- Telling why there is no session. -/
def refuse : Refusal → IO Unit
  | .misused => IO.eprint usage
  | .help => IO.print usage
  | .version => IO.println "chip8 1.0.0"

/-- The end of a session. -/
def conclude (threshold : Threshold) (report : Report) : IO Unit := do
  for line in threshold.lines report.log do
    IO.eprintln line
  match report.error? with
  | some error => IO.eprintln ("Error: " ++ error)
  | none =>
      if report.exitCode = 0 then IO.println ""
      else IO.eprintln "the frame rate is too low, or the terminal has no room for the picture"

end Chip8.Program

open Chip8 Chip8.CommandLine in
/-- One use of the command line, with its exit code. -/
def main (words : List String) : IO UInt32 := do
  match Arguments.read words with
  | .error refusal =>
      Program.refuse refusal
      return UInt32.ofNat (Report.refused refusal).exitCode
  | .ok arguments =>
      let report ← Program.session arguments
      Program.conclude arguments.threshold report
      return UInt32.ofNat report.exitCode
