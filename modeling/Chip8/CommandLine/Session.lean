import Chip8.CommandLine.Arguments
import Chip8.Emulator.Pace
import Chip8.Emulator.Run
import Chip8.Terminal.Console

/-!
# Sessions

A session is one use of the command line, from its words to its exit code.  The
settings are checked before anything is touched, and the program is opened
before the terminal is, so that a missing file is reported on a clean terminal.
It is read only after that, so a file that cannot be read or does not fit is
reported on a cleared one.

Three things break a session off without an error: a frame rate without a
period, in front of the first frame, a second frame whose time the clock never
shows, behind the first one, and a terminal without room for the picture, as soon
as one is to be drawn.
-/

namespace Chip8.CommandLine

open Terminal (Console Display Keyboard Queue)

/-- What a session finds. -/
structure Surroundings where
  /-- Opening a file. -/
  openFile : String → Except IoError ByteSource
  /-- The album in a directory. -/
  album : String → Album
  /-- The width of the terminal. -/
  columns : Nat
  /-- The height of the terminal. -/
  rows : Nat
  /-- The events that wait at the terminal. -/
  queue : Queue
  /-- The second that the clock shows. -/
  clock : Nat
  /-- Random numbers for a session without a seed. -/
  elsewhere : RandomStream

/-- What a session leaves. -/
structure Report where
  /-- The exit code. -/
  exitCode : Nat
  /-- The error that is reported at the end, in its diagnostic form. -/
  error? : Option String
  /-- What is shown of what was reported, first to last. -/
  log : List Notice
  /-- The terminal, if the session came that far. -/
  console? : Option Console

namespace Report

/-- The report of a command line that gave no settings. -/
def refused : Refusal → Report
  | .misused => ⟨2, none, [], none⟩
  | .help | .version => ⟨0, none, [], none⟩

/-- The report of a session that ends before it comes to the terminal. -/
def early (error : String) (log : List Notice) : Report := ⟨1, some error, log, none⟩

/-- The report of a session that ends at the terminal. -/
def late (exitCode : Nat) (error? : Option String) (emulator : Emulator Console) : Report :=
  { exitCode
    error?
    log := emulator.journal.reverse
    console? := some { emulator.host with display := emulator.host.display.leave } }

/-- The report of a session that is broken off at the terminal. -/
def brokenOff (emulator : Emulator Console) : Report := late 101 none emulator

/-- The report of a session whose frames have come to an end. -/
def ended (outcome : Except Failure Unit) (emulator : Emulator Console) : Report :=
  match outcome with
  | .ok () => late 0 none emulator
  | .error failure => late 1 (some failure.record.render) emulator

/-- The report with the notices that a threshold does not admit dropped. -/
def filtered (report : Report) (threshold : Threshold) : Report :=
  { report with log := report.log.filter fun notice => threshold.admits notice.level }

end Report

namespace Session

/-- The console that a session opens. -/
def console (settings : Settings) (around : Surroundings) : Console :=
  { keyboard := Keyboard.idle settings.keyHold
    queue := around.queue
    display := Display.start around.columns around.rows
    tone := Tone.silent
    album := around.album settings.screenshotDirectory }

/-- The emulator at the terminal with a program loaded, or the report of a
session that ends in front of its first frame. -/
def atTerminal (settings : Settings) (around : Surroundings) (source : ByteSource) :
    Except Report (Emulator Console) :=
  let emulator := Emulator.start settings around.elsewhere (console settings around)
  match { emulator with journal := [.opening settings.program] }.load source with
  | (.ok (), emulator) =>
      if Pace.isKept settings.frameRate then .ok emulator else .error (Report.brokenOff emulator)
  | (.error error, emulator) => .error (Report.late 1 (some error.diagnostic) emulator)

/-- The emulator in front of the first frame, or the report of a session that
does not come that far. -/
def prepare (settings : Settings) (around : Surroundings) : Except Report (Emulator Console) :=
  match settings.check with
  | .error error => .error (Report.early error.diagnostic [])
  | .ok () =>
      match around.openFile settings.program with
      | .error error => .error (Report.early error.record.render [.opening settings.program])
      | .ok source => atTerminal settings around source

/-- The report of a session behind its last frame. -/
def close (outcome : Except Failure Unit) (emulator : Emulator Console) : Report :=
  match outcome with
  | .error (.host .noRoom) => Report.brokenOff emulator
  | outcome =>
      match Emulator.finish outcome emulator with
      | (outcome, emulator) => Report.ended outcome emulator

/-- The report of a session that comes to no second frame.  It is broken off
behind the first one, unless that was the last one anyway. -/
def single (emulator : Emulator Console) : Report :=
  match emulator.frame with
  | (.ok .quit, emulator) => close (.ok ()) emulator
  | (.ok _, emulator) => Report.brokenOff emulator
  | (.error failure, emulator) => close (.error failure) emulator

/-- A session under settings that were given. -/
def withSettings (limit : Nat) (settings : Settings) (around : Surroundings) : Option Report :=
  match prepare settings around with
  | .error report => some report
  | .ok emulator =>
      if Pace.isReached settings.frameRate around.clock then
        (emulator.announce.untilDone limit).map fun (outcome, emulator) => close outcome emulator
      else
        some (single emulator.announce)

/-- A session, if it ends within `limit` frames. -/
def run (limit : Nat) (words : List String) (around : Surroundings) : Option Report :=
  match Arguments.read words with
  | .error refusal => some (Report.refused refusal)
  | .ok arguments =>
      (withSettings limit arguments.settings around).map fun report =>
        report.filtered arguments.threshold

end Session

end Chip8.CommandLine
