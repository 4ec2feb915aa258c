import Chip8.Proofs.Emulator.Pause
import Chip8.Proofs.Emulator.Refinement

/-!
# A pause is invisible to the program

Two emulators around hosts at which no request about the screen or the tone fails: one
of them is paused for a while, and the other one is not, but else their polls are the
same.  From the frame that ends the pause on the two give the same results, with the
same machine and the same tone, however many frames follow and whatever faults in
them: `pause_invisible`.  Only the paused frames are counted on one side alone.

The proof goes by way of the plain loop, turn by turn.  There a pause changes only the
keypad and the count of the frames (`Plain.turns_of_paused`), and that count changes no
turn (`Plain.turn_delayed`).  The tone behind a frame can be told from the turn of the
plain loop, but for a frame at which the user leaves (`Plain.tone`).
-/

namespace Chip8

namespace Plain

/-! ## Turns -/

/-- One frame for one poll, with its result. -/
def turn (plain : Plain) (poll : Poll) : Except Failure Control × Plain :=
  if poll.control = .quit then
    (.ok .quit, plain.polled poll)
  else
    match (plain.polled poll).frame poll.control with
    | (none, after) => (.ok poll.control, after)
    | (some fault, after) => (.error (.fault fault), after)

/-- The plain emulator behind a frame for each poll, failed ones included. -/
def turns (plain : Plain) (polls : List Poll) : Plain :=
  polls.foldl (fun plain poll => (plain.turn poll).2) plain

variable {plain after : Plain} {poll : Poll}

theorem turn_of_left (leaves : poll.control = .quit) :
    plain.turn poll = (.ok .quit, plain.polled poll) :=
  if_pos leaves

theorem turn_of_completed (stays : poll.control ≠ .quit)
    (ended : (plain.polled poll).frame poll.control = (none, after)) :
    plain.turn poll = (.ok poll.control, after) := by
  rw [turn, if_neg stays, ended]

theorem turn_of_faulted {fault : Fault} (stays : poll.control ≠ .quit)
    (ended : (plain.polled poll).frame poll.control = (some fault, after)) :
    plain.turn poll = (.error (.fault fault), after) := by
  rw [turn, if_neg stays, ended]

theorem redraw_turn {control : Control} (ended : (plain.turn poll).1 = .ok control)
    (stays : control ≠ .quit) : (plain.turn poll).2.machine.redraw = false := by
  rw [turn] at ended ⊢
  split at ended
  case isTrue =>
    cases ended
    exact absurd rfl stays
  case isFalse going =>
    rw [if_neg going]
    rcases framed : (plain.polled poll).frame poll.control with ⟨fault?, after⟩
    rw [framed] at ended
    cases fault? with
    | none => exact (frame_completed framed).2.2
    | some fault => cases ended

/-! ## Frames counted before -/

/-- The plain emulator with more frames behind it. -/
def delayed (plain : Plain) (more : Nat) : Plain := { plain with frames := plain.frames + more }

theorem complete_delayed (plain : Plain) (more : Nat) :
    (plain.delayed more).complete = plain.complete.delayed more := by
  rw [complete, delayed, Nat.add_right_comm]
  rfl

theorem compute_delayed (plain : Plain) (more : Nat) :
    (plain.delayed more).compute = (plain.compute.1, plain.compute.2.delayed more) := by
  rcases stepped : plain.machine.steps plain.stepsPerFrame with ⟨fault?, machine⟩
  have stepped' : (plain.delayed more).machine.steps (plain.delayed more).stepsPerFrame =
      (fault?, machine) := stepped
  cases fault? with
  | none =>
      rw [compute_of_stepped stepped, compute_of_stepped stepped', ← complete_delayed]
      rfl
  | some fault =>
      rw [compute_of_faulted stepped, compute_of_faulted stepped']
      rfl

theorem frame_delayed (plain : Plain) (more : Nat) (control : Control) :
    (plain.delayed more).frame control =
      ((plain.frame control).1, (plain.frame control).2.delayed more) := by
  have responded : (plain.delayed more).respond control = (plain.respond control).delayed more :=
    rfl
  rw [frame, frame, responded, compute_delayed, complete_delayed]
  change (if (plain.respond control).paused then _ else _) = _
  split
  · rfl
  · rfl

/-- The count of the frames changes no turn. -/
theorem turn_delayed (plain : Plain) (more : Nat) (poll : Poll) :
    (plain.delayed more).turn poll = ((plain.turn poll).1, (plain.turn poll).2.delayed more) := by
  have polled : (plain.delayed more).polled poll = (plain.polled poll).delayed more := rfl
  rw [turn, turn, polled, frame_delayed]
  split
  · rfl
  · rcases (plain.polled poll).frame poll.control with ⟨fault?, after⟩
    cases fault? with
    | none => rfl
    | some fault => rfl

/-! ## Pauses -/

/-- The plain emulator behind a number of paused frames that leave this keypad. -/
def heldWith (plain : Plain) (keypad : Keypad) (count : Nat) : Plain :=
  { plain with
    machine := { plain.machine with keypad }
    paused := true
    frames := plain.frames + count }

/-- A paused frame brings the keypad up to date and is counted, and does nothing else. -/
theorem turn_of_paused (clear : plain.machine.redraw = false) (stays : poll.control ≠ .quit)
    (paused : (plain.respond poll.control).paused = true) :
    (plain.turn poll).2 = plain.heldWith (poll.keys plain.machine.keypad) 1 := by
  have held : ((plain.polled poll).respond poll.control).paused = true := paused
  have shown : (plain.polled poll).machine.clearRedraw = (plain.polled poll).machine :=
    Emulator.clearRedraw_of_clear clear
  have complete : ((plain.polled poll).respond poll.control).complete =
      plain.heldWith (poll.keys plain.machine.keypad) 1 := by
    rw [complete, held]
    exact congrArg (fun machine => { plain with
      machine, paused := true, frames := plain.frames + 1 }) shown
  have ended : (plain.polled poll).frame poll.control =
      (none, plain.heldWith (poll.keys plain.machine.keypad) 1) := by
    rw [frame, if_pos held, complete]
  rw [turn_of_completed stays ended]

theorem turns_of_paused (clear : plain.machine.redraw = false) (keypad : Keypad) (count : Nat)
    {polls : List Poll}
    (quiet : ∀ poll ∈ polls, poll.control ≠ .quit ∧ poll.control ≠ .togglePause) :
    ∃ last, (plain.heldWith keypad count).turns polls =
      plain.heldWith last (count + polls.length) := by
  induction polls generalizing keypad count with
  | nil => exact ⟨keypad, rfl⟩
  | cons poll rest ih =>
      obtain ⟨stays, goesOn⟩ := quiet poll List.mem_cons_self
      have still : (plain.heldWith keypad count).machine.redraw = false := clear
      have held : ((plain.heldWith keypad count).respond poll.control).paused = true :=
        if_neg goesOn
      obtain ⟨last, ended⟩ := ih (poll.keys keypad) (count + 1)
        fun poll among => quiet poll (List.mem_cons_of_mem _ among)
      refine ⟨last, ?_⟩
      change (((plain.heldWith keypad count).turn poll).2).turns rest = _
      rw [turn_of_paused still stays held, List.length_cons, ← Nat.add_assoc, Nat.add_right_comm]
      exact ended

/-- A pause of any length leaves its mark on the keypad and on the count of the frames. -/
theorem turns_of_pause (clear : plain.machine.redraw = false) (running : plain.paused = false)
    (begins : poll.control = .togglePause) {polls : List Poll}
    (quiet : ∀ poll ∈ polls, poll.control ≠ .quit ∧ poll.control ≠ .togglePause) :
    ∃ last, plain.turns (poll :: polls) = plain.heldWith last (1 + polls.length) := by
  have stays : poll.control ≠ .quit := by
    rw [begins]
    exact nofun
  have held : (plain.respond poll.control).paused = true := by
    rw [paused_respond, begins, running]
    rfl
  change ∃ last, ((plain.turn poll).2).turns polls = _
  rw [turn_of_paused clear stays held]
  exact turns_of_paused clear _ 1 quiet

/-- The frame that ends a pause does what it would have done without the pause. -/
theorem turn_of_resumed {keypad : Keypad} (count : Nat) (running : plain.paused = false)
    (resumes : poll.control = .togglePause)
    (same : poll.keys keypad = poll.keys plain.machine.keypad) :
    (∃ last, plain.turn { poll with control := .proceed } = (.ok .proceed, last) ∧
        (plain.heldWith keypad count).turn poll = (.ok .togglePause, last.delayed count)) ∨
      ∃ fault last, plain.turn { poll with control := .proceed } = (.error (.fault fault), last) ∧
        (plain.heldWith keypad count).turn poll =
          (.error (.fault fault), last.delayed count) := by
  have onward : (plain.polled poll).frame .proceed = (plain.polled poll).compute :=
    if_neg (ne_true_of_eq_false running)
  have awake : ((plain.heldWith keypad count).polled poll).respond .togglePause =
      (plain.polled poll).delayed count := by
    simp [respond, polled, heldWith, delayed, same, running]
  have resumed : ((plain.heldWith keypad count).polled poll).frame poll.control =
      ((plain.polled poll).compute.1, (plain.polled poll).compute.2.delayed count) := by
    rw [resumes, frame, awake, compute_delayed]
    exact if_neg (ne_true_of_eq_false running)
  have onwardStays : Control.proceed ≠ .quit := by decide
  have stays : poll.control ≠ .quit := by
    rw [resumes]
    decide
  rcases computed : (plain.polled poll).compute with ⟨fault?, last⟩
  rw [computed] at onward resumed
  cases fault? with
  | none =>
      have ended := turn_of_completed stays resumed
      rw [resumes] at ended
      exact .inl ⟨last, turn_of_completed onwardStays onward, ended⟩
  | some fault =>
      exact .inr ⟨fault, last, turn_of_faulted onwardStays onward, turn_of_faulted stays resumed⟩

/-! ## The tone -/

/-- Whether a tone sounds behind a turn that ended so, from whether one sounded before. -/
def tone (before : Bool) : (ended : Except Failure Control × Plain) → Bool
  | (.error _, _) => false
  | (.ok .quit, _) => before
  | (.ok _, after) => !after.paused && after.machine.toneDue

theorem tone_of_completed {before : Bool} {control : Control} (stays : control ≠ .quit) :
    tone before (.ok control, after) = (!after.paused && after.machine.toneDue) := by
  cases control with
  | quit => exact absurd rfl stays
  | proceed | togglePause | screenshot => rfl

theorem tone_delayed (before : Bool) (result : Except Failure Control) (after : Plain)
    (more : Nat) : tone before (result, after.delayed more) = tone before (result, after) := by
  cases result with
  | error failure => rfl
  | ok control => cases control <;> rfl

end Plain

namespace Emulator

open Chip8.Action

variable {η : Type} [Host η] {plays : η → List Poll → Prop} {plain : Plain} {poll : Poll}
  {polls : List Poll} {emulator : Emulator η}

/-! ## Turns of emulators -/

/-- An emulator that shows this of the plain loop, and is silent in a pause. -/
structure Tracks (plays : η → List Poll → Prop) (plain : Plain) (polls : List Poll)
    (emulator : Emulator η) : Prop where
  shows : Shows plays plain polls emulator
  silent : emulator.paused = true → Host.isBeeping emulator.host = false

section Turns

variable (follows : Host.Follows plays)

include follows

theorem turn_ends (shows : Shows plays plain (poll :: polls) emulator) :
    (frame emulator).1 = (plain.turn poll).1 ∧
      Shows plays (plain.turn poll).2 polls (frame emulator).2 := by
  refine Ends.eq ?_
  by_cases leaves : poll.control = .quit
  · rw [Plain.turn_of_left leaves]
    refine (frame_ends_of_quit follows leaves shows).weaken ?_
    rintro _ after ⟨rfl, shows⟩
    exact ⟨rfl, shows⟩
  · refine (frame_ends follows leaves shows).imp ?_ ?_
    · rintro _ after ⟨rfl, last, ended, shows⟩
      rw [Plain.turn_of_completed leaves ended]
      exact ⟨rfl, shows⟩
    · rintro _ after ⟨fault, last, ended, rfl, shows⟩
      rw [Plain.turn_of_faulted leaves ended]
      exact ⟨rfl, shows⟩

/-- No pause breaks off where every stop of the tone succeeds. -/
theorem not_breaksOff (shows : Shows plays plain (poll :: polls) emulator) :
    ¬emulator.BreaksOff := by
  rintro ⟨_, _, _, refused⟩
  obtain ⟨_, _, next⟩ := follows.poll emulator.machine.keypad shows.2
  obtain ⟨host, asked, _⟩ := follows.stop next
  rw [polledHost, asked] at refused
  cases refused

variable (law : Host.KeepsTone η)

include law

theorem Tracks.next (tracks : Tracks plays plain (poll :: polls) emulator) :
    Tracks plays (plain.turn poll).2 polls (frame emulator).2 where
  shows := (turn_ends follows tracks.shows).2
  silent := frame_silent_of_paused law tracks.silent (not_breaksOff follows tracks.shows)

theorem Tracks.afterFrames {polls later : List Poll}
    (tracks : Tracks plays plain (polls ++ later) emulator) :
    Tracks plays (plain.turns polls) later (emulator.afterFrames polls.length) := by
  induction polls generalizing plain emulator with
  | nil => exact tracks
  | cons poll rest ih =>
      rw [List.length_cons, afterFrames_succ]
      exact ih (tracks.next follows law)

theorem sounding_of_left (tracks : Tracks plays plain (poll :: polls) emulator)
    (leaves : poll.control = .quit) :
    Host.isBeeping (frame emulator).2.host = Host.isBeeping emulator.host := by
  have answered : emulator.answer = .ok poll.control :=
    (follows.poll emulator.machine.keypad tracks.shows.2).1
  have polled : Host.isBeeping emulator.polledHost = Host.isBeeping emulator.host :=
    law.poll emulator.machine.keypad emulator.host
  have kept : frame.Ends emulator
      (fun _ after => Host.isBeeping after.host = Host.isBeeping emulator.host)
      (fun _ after => Host.isBeeping after.host = Host.isBeeping emulator.host) := by
    refine frame_rule (fun _ _ _ => polled) (fun _ _ => polled) ?_
    intro control journal wish stays
    rw [answered, leaves] at wish
    cases wish
    exact absurd rfl stays
  exact kept.behind

/-- The tone behind a frame is the tone of its turn. -/
theorem Tracks.tone (tracks : Tracks plays plain (poll :: polls) emulator) :
    Host.isBeeping (frame emulator).2.host =
      Plain.tone (Host.isBeeping emulator.host) (plain.turn poll) := by
  obtain ⟨result, seen, _⟩ := turn_ends follows tracks.shows
  by_cases leaves : poll.control = .quit
  · rw [Plain.turn_of_left leaves]
    exact sounding_of_left follows law tracks leaves
  rcases framed : (plain.polled poll).frame poll.control with ⟨fault?, after⟩
  cases fault? with
  | none =>
      rw [Plain.turn_of_completed leaves framed] at result seen
      have paused : (frame emulator).2.paused = after.paused := congrArg Plain.paused seen
      have machine : (frame emulator).2.machine = after.machine := congrArg Plain.machine seen
      rw [Plain.turn_of_completed leaves framed, Plain.tone_of_completed leaves, ← paused,
        ← machine]
      cases held : (frame emulator).2.paused with
      | true => exact (tracks.next follows law).silent held
      | false => exact (frame_tuned law emulator).of_result result leaves held
  | some fault =>
      rw [Plain.turn_of_faulted leaves framed] at result
      rw [Plain.turn_of_faulted leaves framed]
      exact (frame_tuned law emulator).of_failure result fault rfl

/-- All that a turn of the plain loop tells of the frame. -/
theorem Tracks.turn (tracks : Tracks plays plain (poll :: polls) emulator)
    {result : Except Failure Control} {last : Plain} (ended : plain.turn poll = (result, last)) :
    (frame emulator).1 = result ∧ Tracks plays last polls (frame emulator).2 ∧
      Host.isBeeping (frame emulator).2.host =
        Plain.tone (Host.isBeeping emulator.host) (result, last) := by
  have same := (turn_ends follows tracks.shows).1
  have next := tracks.next follows law
  have sounding := tracks.tone follows law
  rw [ended] at same next sounding
  exact ⟨same, next, sounding⟩

end Turns

/-! ## Two emulators -/

/-- Two emulators with the same machine and the same tone, one of which completed this
many frames more. -/
structure Alike (more : Nat) (left right : Emulator η) : Prop where
  machine : left.machine = right.machine
  sounding : Host.isBeeping left.host = Host.isBeeping right.host
  frames : left.frames = right.frames + more

/-- Two emulators with the same polls to come that differ in the count of their frames. -/
structure Paired (plays : η → List Poll → Prop) (more : Nat) (plain : Plain) (polls : List Poll)
    (left right : Emulator η) : Prop where
  ahead : Tracks plays (plain.delayed more) polls left
  behind : Tracks plays plain polls right
  sounding : Host.isBeeping left.host = Host.isBeeping right.host

section Pairs

variable {left right : Emulator η} {more : Nat}

theorem Paired.alike (paired : Paired plays more plain polls left right) :
    Alike more left right where
  machine := calc
    left.machine = plain.machine := congrArg Plain.machine paired.ahead.shows.1
    _ = right.machine := (congrArg Plain.machine paired.behind.shows.1).symm
  sounding := paired.sounding
  frames := calc
    left.frames = plain.frames + more := congrArg Plain.frames paired.ahead.shows.1
    _ = right.frames + more :=
      (congrArg (fun plain => Plain.frames plain + more) paired.behind.shows.1).symm

variable (follows : Host.Follows plays) (law : Host.KeepsTone η)

include follows law

theorem Paired.next (paired : Paired plays more plain (poll :: polls) left right) :
    (frame left).1 = (frame right).1 ∧
      ∃ last, Paired plays more last polls (frame left).2 (frame right).2 := by
  obtain ⟨leftResult, leftNext, leftTone⟩ :=
    paired.ahead.turn follows law (plain.turn_delayed more poll)
  obtain ⟨rightResult, rightNext, rightTone⟩ := paired.behind.turn follows law rfl
  refine ⟨leftResult.trans rightResult.symm, _, leftNext, rightNext, ?_⟩
  rw [leftTone, rightTone, Plain.tone_delayed, paired.sounding]
  rfl

/-- Emulators that differ in the count of their frames go on alike. -/
theorem Paired.frames_alike (paired : Paired plays more plain polls left right) {time : Nat}
    (inside : time < polls.length) :
    (frame (left.afterFrames time)).1 = (frame (right.afterFrames time)).1 ∧
      Alike more (frame (left.afterFrames time)).2 (frame (right.afterFrames time)).2 := by
  induction polls generalizing plain left right time with
  | nil => cases inside
  | cons poll rest ih =>
      obtain ⟨same, last, next⟩ := paired.next follows law
      cases time with
      | zero => exact ⟨same, next.alike⟩
      | succ time =>
          rw [afterFrames_succ, afterFrames_succ]
          exact ih next (Nat.lt_of_succ_lt_succ inside)

/-- The frame that ends a pause brings an emulator level with one that had no pause. -/
theorem paired_of_resumed {keypad : Keypad} {resume : Poll}
    (leftTracks : Tracks plays (plain.heldWith keypad more) (resume :: polls) left)
    (rightTracks : Tracks plays plain ({ resume with control := .proceed } :: polls) right)
    (running : plain.paused = false) (resumes : resume.control = .togglePause)
    (same : resume.keys keypad = resume.keys plain.machine.keypad) :
    (frame right).1 = (frame left).1.map (fun _ => .proceed) ∧
      ∃ last, Paired plays more last polls (frame left).2 (frame right).2 := by
  rcases Plain.turn_of_resumed more running resumes same with
    ⟨last, straight, resumed⟩ | ⟨fault, last, straight, resumed⟩
  · obtain ⟨leftResult, leftNext, leftTone⟩ := leftTracks.turn follows law resumed
    obtain ⟨rightResult, rightNext, rightTone⟩ := rightTracks.turn follows law straight
    refine ⟨?_, last, leftNext, rightNext, leftTone.trans rightTone.symm⟩
    rw [leftResult, rightResult]
    rfl
  · obtain ⟨leftResult, leftNext, leftTone⟩ := leftTracks.turn follows law resumed
    obtain ⟨rightResult, rightNext, rightTone⟩ := rightTracks.turn follows law straight
    refine ⟨?_, last, leftNext, rightNext, leftTone.trans rightTone.symm⟩
    rw [leftResult, rightResult]
    rfl

end Pairs

/-! ## A pause within a run -/

section Runs

theorem tracks_load (settings : Settings) (elsewhere : RandomStream)
    (source : ByteSource) {host : η} (ready : plays host polls) :
    Tracks plays (Plain.start settings elsewhere source) polls
      ((start settings elsewhere host).load source).2 :=
  ⟨⟨rfl, ready⟩, nofun⟩

variable (follows : Host.Follows plays) {before held after : List Poll} {pause resume : Poll}

include follows

theorem polledMachine_of_shows (shows : Shows plays plain (poll :: polls) emulator) :
    emulator.polledMachine.keypad = poll.keys plain.machine.keypad := by
  obtain ⟨rfl, ready⟩ := shows
  exact (follows.poll emulator.machine.keypad ready).2.1

/-- Frames that go to their ends leave nothing to be shown. -/
theorem redraw_turns {later : List Poll} (shows : Shows plays plain (polls ++ later) emulator)
    (clear : plain.machine.redraw = false)
    (through : ∀ time < polls.length, (emulator.afterFrames time).Completes) :
    (plain.turns polls).machine.redraw = false := by
  induction polls generalizing plain emulator with
  | nil => exact clear
  | cons poll rest ih =>
      obtain ⟨result, next⟩ := turn_ends follows shows
      obtain ⟨control, completed, stays⟩ := through 0 (Nat.zero_lt_succ _)
      refine ih next (Plain.redraw_turn (result.symm.trans completed) stays) ?_
      intro time inside
      rw [← afterFrames_succ]
      exact through (time + 1) (Nat.succ_lt_succ inside)

variable (law : Host.KeepsTone η)

include law

/-- Two runs of a program, one of which is paused for a while.  From the frame that
ends the pause on, every frame gives in both runs the same result, but for the wish to
end the pause itself, and leaves the same machine and the same tone. -/
theorem pause_invisible (settings : Settings) (elsewhere : RandomStream) (source : ByteSource)
    {pausing going : η} (ready : plays pausing (before ++ pause :: held ++ resume :: after))
    (ready' : plays going (before ++ { resume with control := .proceed } :: after))
    (begins : pause.control = .togglePause) (resumes : resume.control = .togglePause)
    (quiet : ∀ poll ∈ held, poll.control = .proceed ∨ poll.control = .screenshot) :
    let interrupted := ((start settings elsewhere pausing).load source).2
    let straight := ((start settings elsewhere going).load source).2
    let missed := 1 + held.length
    (∀ time < before.length, (interrupted.afterFrames time).Completes) →
    (interrupted.afterFrames before.length).paused = false →
    (interrupted.afterFrames (before.length + missed)).polledMachine.keypad =
      (straight.afterFrames before.length).polledMachine.keypad →
    ∀ time ≤ after.length,
      let left := interrupted.afterFrames (before.length + missed + time)
      let right := straight.afterFrames (before.length + time)
      (frame right).1 =
          (if time = 0 then (frame left).1.map fun _ => .proceed else (frame left).1) ∧
        Alike missed (frame left).2 (frame right).2 := by
  intro interrupted straight missed through awake same time inside left right
  have leftStart := tracks_load settings elsewhere source ready
  have rightStart := tracks_load settings elsewhere source ready'
  rw [List.append_assoc] at leftStart
  have leftBefore := leftStart.afterFrames follows law
  have rightTracks := rightStart.afterFrames follows law
  have clear := redraw_turns follows leftStart.shows
    (Plain.redraw_start settings elsewhere source) through
  have running : ((Plain.start settings elsewhere source).turns before).paused = false :=
    (congrArg Plain.paused leftBefore.shows.1).symm.trans awake
  -- From here on only the plain loop behind the common polls matters, and no longer how it
  -- came there.
  generalize (Plain.start settings elsewhere source).turns before = plain at *
  have holds : ∀ poll ∈ held, poll.control ≠ .quit ∧ poll.control ≠ .togglePause := by
    intro poll among
    obtain wish | wish := quiet poll among <;> rw [wish] <;> exact ⟨nofun, nofun⟩
  obtain ⟨keypad, paused⟩ := Plain.turns_of_pause clear running begins holds
  have leftTracks := leftBefore.afterFrames follows law
  rw [paused, ← afterFrames_add, List.length_cons, Nat.add_comm held.length 1] at leftTracks
  rw [polledMachine_of_shows follows leftTracks.shows,
    polledMachine_of_shows follows rightTracks.shows] at same
  obtain ⟨result, last, paired⟩ :=
    paired_of_resumed follows law leftTracks rightTracks running resumes same
  cases time with
  | zero => exact ⟨result, paired.alike⟩
  | succ time =>
      have leftSame : (frame (interrupted.afterFrames (before.length + missed))).2.afterFrames
          time = left := by
        rw [← afterFrames_succ, ← afterFrames_add]
      have rightSame : (frame (straight.afterFrames before.length)).2.afterFrames time = right := by
        rw [← afterFrames_succ, ← afterFrames_add]
      obtain ⟨same, alike⟩ := paired.frames_alike follows law (Nat.lt_of_succ_le inside)
      rw [leftSame, rightSame] at same alike
      exact ⟨same.symm, alike⟩

end Runs

end Emulator

/-- The script of `pausingScript` without its pause. -/
def unpausedScript : Scripted :=
  { pausingScript with
    cues := [{ press := [5] }, { release := [5] }, {}, { control := .quit }] }

/-- The pause of two frames stops the tone, and behind it the tone sounds again. -/
theorem pause_invisible_ringing :
    let interrupted := ((Emulator.start { stepsPerFrame := 4 } (RandomStream.cycle #[])
      pausingScript).load soundingProgram).2
    let straight := ((Emulator.start { stepsPerFrame := 4 } (RandomStream.cycle #[])
      unpausedScript).load soundingProgram).2
    Host.isBeeping (interrupted.afterFrames 3).host = false ∧
      Host.isBeeping (Emulator.frame (straight.afterFrames 2)).2.host = true ∧
      (Emulator.frame (straight.afterFrames 2)).1 =
        (Emulator.frame (interrupted.afterFrames 4)).1 ∧
      Emulator.Alike 2 (Emulator.frame (interrupted.afterFrames 4)).2
        (Emulator.frame (straight.afterFrames 2)).2 := by
  have pausing : pausingScript.Plays ([Cue.poll { press := [5] }] ++
      Cue.poll { control := .togglePause } :: [Cue.poll { control := .screenshot }] ++
      Cue.poll { release := [5], control := .togglePause } ::
      [Cue.poll {}, Cue.poll { control := .quit }]) :=
    ⟨⟨rfl, rfl, rfl⟩, pausingScript.cues, [], rfl, by decide, rfl⟩
  have going : unpausedScript.Plays ([Cue.poll { press := [5] }] ++
      { Cue.poll { release := [5], control := .togglePause } with control := .proceed } ::
      [Cue.poll {}, Cue.poll { control := .quit }]) :=
    ⟨⟨rfl, rfl, rfl⟩, unpausedScript.cues, [], rfl, by decide, rfl⟩
  have law := Emulator.pause_invisible Scripted.follows_plays Scripted.keepsTone
    { stepsPerFrame := 4 } (RandomStream.cycle #[]) soundingProgram pausing going rfl rfl
    (by decide)
  generalize interruptedMade : ((Emulator.start { stepsPerFrame := 4 } (RandomStream.cycle #[])
    pausingScript).load soundingProgram).2 = interrupted at law ⊢
  generalize straightMade : ((Emulator.start { stepsPerFrame := 4 } (RandomStream.cycle #[])
    unpausedScript).load soundingProgram).2 = straight at law ⊢
  have facts : (∀ time < 1, (interrupted.afterFrames time).Completes) ∧
      (interrupted.afterFrames 1).paused = false ∧
      (interrupted.afterFrames 3).polledMachine.keypad =
        (straight.afterFrames 1).polledMachine.keypad ∧
      Host.isBeeping (interrupted.afterFrames 3).host = false ∧
      Host.isBeeping (Emulator.frame (straight.afterFrames 2)).2.host = true := by
    rw [← interruptedMade, ← straightMade]
    decide +kernel
  obtain ⟨through, awake, keypad, silent, sounding⟩ := facts
  exact ⟨silent, sounding, law through awake keypad 1 (by decide)⟩

end Chip8
