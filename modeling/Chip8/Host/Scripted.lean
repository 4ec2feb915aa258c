import Chip8.Host.Album
import Chip8.Host.Basic

/-!
# Scripted hosts

A host that follows a script: a cue for every poll, and which requests to show a
screen and to start or stop the tone fail, counted for each kind from zero.
-/

namespace Chip8

/-- What happens at a poll. -/
structure Cue where
  /-- The keys that go down. -/
  press : List UInt8 := []
  /-- The keys that come up, after the others went down. -/
  release : List UInt8 := []
  /-- What the user wants. -/
  control : Control := .proceed
  /-- The failure of the poll behind the changes of the keys, if it fails. -/
  failure? : Option IoError := none

/-- Requests of one kind: which of them fail, and how many there were. -/
structure Trials where
  /-- The numbers of the requests that fail. -/
  failing : List Nat
  /-- The number of requests so far. -/
  count : Nat := 0

namespace Trials

/-- One more request.  If it fails, then with this text. -/
def next (trials : Trials) (text : String) : Except IoError Unit × Trials :=
  (if trials.failing.contains trials.count then .error (.custom text) else .ok (),
    { trials with count := trials.count + 1 })

end Trials

/-- A host that follows a script. -/
structure Scripted where
  /-- The cues still to come. -/
  cues : List Cue
  /-- From this poll on, counted from zero, the user wants to leave if there is
  no cue. -/
  quitFrom : Nat
  /-- The requests to show a screen. -/
  draws : Trials
  /-- The requests to start the tone. -/
  beeps : Trials
  /-- The requests to stop the tone. -/
  stops : Trials
  /-- The screenshots. -/
  album : Album
  /-- The number of polls so far. -/
  polls : Nat := 0
  /-- Whether the tone sounds. -/
  sounding : Bool := false

namespace Scripted

/-- The cue of the next poll. -/
def cue (host : Scripted) : Cue :=
  match host.cues with
  | cue :: _ => cue
  | [] => { control := if host.quitFrom ≤ host.polls then .quit else .proceed }

/-- A poll of the host. -/
def poll (keypad : Keypad) (host : Scripted) : Polled Scripted :=
  let cue := host.cue
  { answer := match cue.failure? with
      | some error => .error error
      | none => .ok cue.control
    keypad := cue.release.foldl Keypad.release (cue.press.foldl Keypad.press keypad)
    notices := (cue.press ++ cue.release).flatMap Notice.ofKey
    host := { host with cues := host.cues.tail, polls := host.polls + 1 } }

/-- A request to show a screen. -/
def draw (host : Scripted) : Except IoError Unit × Scripted :=
  let (outcome, draws) := host.draws.next "draw failed"
  (outcome, { host with draws })

/-- A request to start the tone. -/
def beep (host : Scripted) : Except IoError Unit × Scripted :=
  match host.beeps.next "beep failed" with
  | (.ok (), beeps) => (.ok (), { host with beeps, sounding := true })
  | (.error error, beeps) => (.error error, { host with beeps })

/-- A request to stop the tone. -/
def stop (host : Scripted) : Except IoError Unit × Scripted :=
  match host.stops.next "stop failed" with
  | (.ok (), stops) => (.ok (), { host with stops, sounding := false })
  | (.error error, stops) => (.error error, { host with stops })

instance : Host Scripted where
  poll := poll
  draw _ host := host.draw
  showPaused _ host := host
  beep := beep
  stop := stop
  isBeeping host := host.sounding
  save frame host :=
    let (outcome, album) := host.album.save frame.toPicture
    (outcome, { host with album })

end Scripted

end Chip8
