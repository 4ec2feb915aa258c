import Chip8.Emulator.Run
import Chip8.Host.Scripted
import Chip8.Proofs.Emulator.Action
import Chip8.Proofs.Emulator.Plain

/-!
# Emulators refine the plain loop

Around a host that plays a list of polls and fails at no request but the keeping
of pictures, an emulator does what the plain loop does.  Nothing that the host is
shown, and nothing of the tone, comes back to the machine.

The proof follows the text of a frame: each of its actions takes what is seen of
the emulator one step of the plain loop further and leaves the host playing the
same polls.
-/

namespace Chip8

open Chip8.Action

/-- The hosts of which `plays` tells the polls to come.  They fail at no request
but the keeping of pictures, and only a poll changes the polls to come. -/
structure Host.Follows {η : Type} [Host η] (plays : η → List Poll → Prop) : Prop where
  poll : ∀ {host poll polls} keypad, plays host (poll :: polls) →
    (Host.poll keypad host).answer = .ok poll.control ∧
      (Host.poll keypad host).keypad = poll.keys keypad ∧
      plays (Host.poll keypad host).host polls
  draw : ∀ {host polls} frame, plays host polls →
    ∃ after, Host.draw frame host = (.ok (), after) ∧ plays after polls
  showPaused : ∀ {host polls} paused, plays host polls →
    plays (Host.showPaused paused host) polls
  beep : ∀ {host polls}, plays host polls →
    ∃ after, Host.beep host = (.ok (), after) ∧ plays after polls
  stop : ∀ {host polls}, plays host polls →
    ∃ after, Host.stop host = (.ok (), after) ∧ plays after polls
  save : ∀ {host polls} frame, plays host polls → plays (Host.save frame host).2 polls

/-! ## Scripts -/

/-- What the poll at a cue does. -/
def Cue.poll (cue : Cue) : Poll where
  keys keypad := cue.release.foldl Keypad.release (cue.press.foldl Keypad.press keypad)
  control := cue.control

/-- A scripted host whose requests all succeed, with these polls to come. -/
def Scripted.Plays (host : Scripted) (polls : List Poll) : Prop :=
  (host.draws.failing = [] ∧ host.beeps.failing = [] ∧ host.stops.failing = []) ∧
    ∃ cues later, host.cues = cues ++ later ∧ (∀ cue ∈ cues, cue.failure? = none) ∧
      polls = cues.map Cue.poll

theorem Trials.next_of_failing_nil {trials : Trials} (text : String)
    (never : trials.failing = []) :
    trials.next text = (.ok (), { trials with count := trials.count + 1 }) := by
  rw [Trials.next, never]
  rfl

theorem Scripted.follows_plays : Host.Follows Scripted.Plays where
  poll := by
    rintro host poll polls keypad ⟨succeeds, cues, later, script, spoken, polled⟩
    cases cues with
    | nil => cases polled
    | cons cue cues =>
        cases polled
        have now : host.cue = cue := by
          rw [Scripted.cue, script]
          rfl
        have quiet := spoken cue List.mem_cons_self
        refine ⟨?_, ?_, succeeds, cues, later, ?_, ?_, rfl⟩
        · change (host.poll keypad).answer = _
          rw [Scripted.poll, now, quiet]
          rfl
        · change (host.poll keypad).keypad = _
          rw [Scripted.poll, now]
          rfl
        · change host.cues.tail = _
          rw [script]
          rfl
        · intro cue among
          exact spoken cue (List.mem_cons_of_mem _ among)
  draw := by
    rintro host polls frame ⟨⟨draws, others⟩, script⟩
    have asked := Trials.next_of_failing_nil "draw failed" draws
    refine ⟨{ host with draws := { host.draws with count := host.draws.count + 1 } }, ?_,
      ⟨draws, others⟩, script⟩
    change host.draw = _
    rw [Scripted.draw, asked]
  showPaused _ ready := ready
  beep := by
    rintro host polls ⟨⟨draws, beeps, stops⟩, script⟩
    have asked := Trials.next_of_failing_nil "beep failed" beeps
    refine ⟨{ host with
      beeps := { host.beeps with count := host.beeps.count + 1 }
      sounding := true }, ?_, ⟨draws, beeps, stops⟩, script⟩
    change host.beep = _
    rw [Scripted.beep, asked]
  stop := by
    rintro host polls ⟨⟨draws, beeps, stops⟩, script⟩
    have asked := Trials.next_of_failing_nil "stop failed" stops
    refine ⟨{ host with
      stops := { host.stops with count := host.stops.count + 1 }
      sounding := false }, ?_, ⟨draws, beeps, stops⟩, script⟩
    change host.stop = _
    rw [Scripted.stop, asked]
  save _ ready := ready

namespace Emulator

variable {η : Type}

/-- What is seen of an emulator without its host and journal. -/
def plain (emulator : Emulator η) : Plain :=
  ⟨emulator.machine, emulator.stepsPerFrame, emulator.paused, emulator.frames⟩

/-- An emulator that looks like this, with these polls to come. -/
def Shows (plays : η → List Poll → Prop) (plain : Plain) (polls : List Poll)
    (emulator : Emulator η) : Prop :=
  emulator.plain = plain ∧ plays emulator.host polls

/-! ## The actions of a frame -/

section Actions

variable {plays : η → List Poll → Prop} {plain : Plain} {polls : List Poll}
  {emulator : Emulator η} {bad : Failure → Emulator η → Prop}

theorem runBatch_ends (shows : Shows plays plain polls emulator) :
    runBatch.Ends emulator
      (fun fault? after => fault? = (plain.machine.steps plain.stepsPerFrame).1 ∧
        Shows plays { plain with machine := (plain.machine.steps plain.stepsPerFrame).2 } polls
          after)
      bad := by
  obtain ⟨rfl, next⟩ := shows
  refine .of_ok rfl ?_
  have same := emulator.machine.batch_eq_steps emulator.stepsPerFrame
  exact ⟨congrArg Prod.fst same, congrArg (fun made => { emulator.plain with machine := made.2 })
    same, next⟩

theorem tick_ends (shows : Shows plays plain polls emulator) :
    tick.Ends emulator
      (fun _ => Shows plays { plain with machine := plain.machine.tick.2 } polls) bad := by
  obtain ⟨rfl, next⟩ := shows
  exact .of_ok rfl ⟨rfl, next⟩

variable [Host η] (follows : Host.Follows plays)

include follows

theorem silence_ends (shows : Shows plays plain polls emulator) :
    silence.Ends emulator (fun _ => Shows plays plain polls) bad := by
  rw [silence]
  refine .read_bind (.when ?_ ?_)
  · intro _
    obtain ⟨host, asked, next⟩ := follows.stop shows.2
    exact .request asked ⟨shows.1, next⟩
  · intro _
    exact shows

theorem showScreen_ends (shows : Shows plays plain polls emulator) :
    showScreen.Ends emulator (fun _ => Shows plays plain polls) bad := by
  obtain ⟨host, asked, next⟩ := follows.draw emulator.machine.screen shows.2
  have ends : (request (Host.draw emulator.machine.screen)).Ends emulator
      (fun _ => Shows plays plain polls) bad := .request asked ⟨shows.1, next⟩
  exact ends

theorem togglePause_ends (shows : Shows plays plain polls emulator) :
    togglePause.Ends emulator
      (fun _ => Shows plays { plain with paused := !plain.paused } polls) bad := by
  obtain ⟨rfl, next⟩ := shows
  rw [togglePause]
  refine .update_bind (.read_bind (.note_bind ?_))
  have toggled : Shows plays { emulator.plain with paused := !emulator.plain.paused } polls
      { emulator with
        paused := !emulator.paused
        journal := .paused (!emulator.paused) :: emulator.journal } := ⟨rfl, next⟩
  have quiet : (when (!emulator.paused) silence).Ends _ _ bad :=
    .when (fun _ => silence_ends follows toggled) (fun _ => toggled)
  refine quiet.bind ?_
  intro _ after shows
  exact .update_bind (showScreen_ends follows ⟨shows.1, follows.showPaused _ shows.2⟩)

theorem keepScreen_ends (shows : Shows plays plain polls emulator) :
    keepScreen.Ends emulator (fun _ => Shows plays plain polls) bad := by
  have next := follows.save emulator.machine.screen shows.2
  rw [Ends, keepScreen]
  generalize Host.save emulator.machine.screen emulator.host = saved at next ⊢
  obtain ⟨outcome, host⟩ := saved
  cases outcome with
  | ok path => exact ⟨shows.1, next⟩
  | error error => exact ⟨shows.1, next⟩

theorem respond_ends (control : Control) (shows : Shows plays plain polls emulator) :
    (respond control).Ends emulator (fun _ => Shows plays (plain.respond control) polls) bad := by
  cases control with
  | proceed => exact .pure shows
  | quit => exact .pure shows
  | togglePause => exact togglePause_ends follows shows
  | screenshot =>
      rw [respond]
      refine (keepScreen_ends follows shows).bind ?_
      intro kept after shows
      cases kept with
      | ok path => exact .pure shows
      | error error => exact .note shows

/-- The steps of a frame end it where one of them fails. -/
theorem compute_ends (shows : Shows plays plain polls emulator) :
    compute.Ends emulator
      (fun _ after => ∃ machine, plain.machine.steps plain.stepsPerFrame = (none, machine) ∧
        Shows plays { plain with machine } polls after)
      (fun failure after => ∃ fault last, plain.compute = (some fault, last) ∧
        failure = .fault fault ∧ Shows plays last polls after) := by
  rw [compute]
  refine (runBatch_ends shows).bind ?_
  rcases stepped : plain.machine.steps plain.stepsPerFrame with ⟨_, machine⟩
  rintro stop? after ⟨rfl, shows⟩
  cases stop? with
  | none =>
      refine .read_bind (.when ?_ ?_)
      · intro _
        refine (silence_ends follows shows).weaken ?_
        intro _ last shows
        exact ⟨machine, rfl, shows⟩
      · intro _
        exact ⟨machine, rfl, shows⟩
  | some fault =>
      refine .note_bind ?_
      have noted : Shows plays { plain with machine } polls
        { after with journal := .halting fault :: after.journal } := shows
      refine (silence_ends follows noted).bind ?_
      intro _ last shows
      exact .fail ⟨fault, _, Plain.compute_of_faulted stepped, rfl, shows⟩

omit follows in
theorem clearRedraw_of_clear {machine : Machine} (clear : machine.redraw = false) :
    machine.clearRedraw = machine := by
  rw [Machine.clearRedraw, ← clear]

theorem present_ends (shows : Shows plays plain polls emulator) :
    present.Ends emulator
      (fun _ => Shows plays { plain with machine := plain.machine.clearRedraw } polls) bad := by
  rw [present]
  refine .read_bind (.when ?_ ?_)
  · intro _
    refine (showScreen_ends follows shows).bind ?_
    rintro _ after ⟨rfl, next⟩
    exact .update ⟨rfl, next⟩
  · intro clear
    obtain ⟨rfl, next⟩ := shows
    refine ⟨?_, next⟩
    change _ = { emulator.plain with machine := emulator.machine.clearRedraw }
    rw [clearRedraw_of_clear clear]
    rfl

theorem keepTime_ends (shows : Shows plays plain polls emulator) :
    keepTime.Ends emulator
      (fun _ => Shows plays { plain with machine := plain.machine.tick.2 } polls) bad := by
  rw [keepTime]
  refine .read_bind ?_
  have begun : (when (emulator.machine.toneDue && !Host.isBeeping emulator.host)
      (request Host.beep)).Ends emulator (fun _ => Shows plays plain polls) bad := by
    refine .when ?_ ?_
    · intro _
      obtain ⟨host, asked, next⟩ := follows.beep shows.2
      exact .request asked ⟨shows.1, next⟩
    · intro _
      exact shows
  refine begun.bind ?_
  intro _ sounding shows
  refine (tick_ends shows).bind ?_
  intro event ticked shows
  cases event with
  | none => exact .pure shows
  | some event =>
      cases event with
      | stop =>
          obtain ⟨host, asked, next⟩ := follows.stop shows.2
          exact .request asked ⟨shows.1, next⟩

/-! ## Frames -/

omit follows [Host η] in
/-- The end of a frame: one more of them. -/
theorem count_ends (shows : Shows plays plain polls emulator) :
    (update fun emulator => { emulator with frames := emulator.frames + 1 }).Ends emulator
      (fun _ => Shows plays { plain with frames := plain.frames + 1 } polls) bad := by
  obtain ⟨rfl, next⟩ := shows
  exact .update ⟨rfl, next⟩

/-- What follows the poll in a frame. -/
theorem finishFrame_ends (control : Control) (shows : Shows plays plain polls emulator) :
    (finishFrame control).Ends emulator
      (fun result after => result = control ∧
        ∃ last, plain.frame control = (none, last) ∧ Shows plays last polls after)
      (fun failure after => ∃ fault last, plain.frame control = (some fault, last) ∧
        failure = .fault fault ∧ Shows plays last polls after) := by
  rw [finishFrame, Plain.frame]
  refine (respond_ends follows control shows).bind ?_
  generalize plain.respond control = responded
  intro _ after shows
  refine .read_bind ?_
  have known : after.paused = responded.paused := congrArg Plain.paused shows.1
  rw [known]
  cases responded.paused with
  | true =>
      rw [if_pos rfl]
      refine .passed_bind ((present_ends follows shows).bind ?_)
      intro _ after shows
      refine .passed_bind ((count_ends shows).bind ?_)
      intro _ after shows
      exact .pure ⟨rfl, _, rfl, shows⟩
  | false =>
      -- The emulator shows before it ticks, the plain loop clears after the tick: the
      -- two commute, since neither reads what the other writes.
      rw [if_neg Bool.false_ne_true]
      refine .taken_bind ((compute_ends follows shows).bind ?_)
      rintro _ after ⟨machine, stepped, shows⟩
      refine (present_ends follows shows).bind ?_
      intro _ after shows
      refine .taken_bind ((keepTime_ends follows shows).bind ?_)
      intro _ after shows
      refine (count_ends shows).bind ?_
      intro _ after shows
      exact .pure ⟨rfl, _, Plain.compute_of_stepped stepped, shows⟩

theorem poll_ends {poll : Poll} (shows : Shows plays plain (poll :: polls) emulator) :
    Emulator.poll.Ends emulator
      (fun control after => control = poll.control ∧
        Shows plays (plain.polled poll) polls after) bad := by
  obtain ⟨rfl, next⟩ := shows
  obtain ⟨answered, pressed, next⟩ := follows.poll emulator.machine.keypad next
  rw [Ends, Emulator.poll, answered, pressed]
  exact ⟨rfl, rfl, next⟩

theorem frame_ends_of_quit {poll : Poll} (leaves : poll.control = .quit)
    (shows : Shows plays plain (poll :: polls) emulator) :
    frame.Ends emulator
      (fun control after => control = .quit ∧ Shows plays (plain.polled poll) polls after)
      bad := by
  rw [frame]
  refine (poll_ends follows shows).bind ?_
  rintro _ after ⟨rfl, shows⟩
  rw [leaves]
  exact .pure ⟨rfl, shows⟩

theorem frame_ends {poll : Poll} (stays : poll.control ≠ .quit)
    (shows : Shows plays plain (poll :: polls) emulator) :
    frame.Ends emulator
      (fun control after => control = poll.control ∧ ∃ last,
        (plain.polled poll).frame poll.control = (none, last) ∧ Shows plays last polls after)
      (fun failure after => ∃ fault last,
        (plain.polled poll).frame poll.control = (some fault, last) ∧
          failure = .fault fault ∧ Shows plays last polls after) := by
  rw [frame]
  refine (poll_ends follows shows).bind ?_
  rintro _ after ⟨rfl, shows⟩
  have ends := finishFrame_ends follows poll.control shows
  revert ends stays
  cases poll.control with
  | quit => exact fun stays => absurd rfl stays
  | proceed | togglePause | screenshot => exact fun _ ends => ends

/-! ## Runs -/

/-- Frames follow the loop poll by poll. -/
theorem runFrames_ends (shows : Shows plays plain polls emulator) :
    (runFrames polls.length).Ends emulator
      (fun control after => (plain.loop polls).ending.result = .ok control ∧
        after.plain = (plain.loop polls).last)
      (fun failure after => (plain.loop polls).ending.result = .error failure ∧
        after.plain = (plain.loop polls).last) := by
  induction polls generalizing plain emulator with
  | nil => exact .pure ⟨rfl, shows.1⟩
  | cons poll rest ih =>
      rw [List.length_cons, runFrames]
      by_cases leaves : poll.control = .quit
      · rw [Plain.loop_of_left leaves]
        refine (frame_ends_of_quit follows leaves shows).bind ?_
        rintro _ after ⟨rfl, shows⟩
        exact .pure ⟨rfl, shows.1⟩
      · refine ((frame_ends follows leaves shows).imp (fun _ _ holds => holds) ?_).bind ?_
        · rintro _ after ⟨fault, last, ended, rfl, shows⟩
          rw [Plain.loop_of_faulted leaves ended]
          exact ⟨rfl, shows.1⟩
        · rintro _ after ⟨rfl, last, ended, shows⟩
          rw [Plain.loop_of_completed leaves ended]
          have ends := ih shows
          revert ends leaves
          cases poll.control with
          | quit => exact fun leaves => absurd rfl leaves
          | proceed | togglePause | screenshot => exact fun _ ends => ends

/-- The emulator with the program of a source gives the result that the plain loop
has, with its machine, its frames and its pause.  The screen of every completed
frame was shown. -/
theorem runFrames_refines_plain (settings : Settings) (elsewhere : RandomStream)
    (source : ByteSource) {host : η} (ready : plays host polls) :
    let loaded := ((Emulator.start settings elsewhere host).load source).2
    let run := runFrames polls.length loaded
    let reference := (Plain.start settings elsewhere source).loop polls
    run.1 = reference.ending.result ∧
      run.2.machine = reference.last.machine ∧
      run.2.frames = reference.completed ∧
      run.2.paused = Plain.toggled reference.handled ∧
      reference.handled <+: polls ∧
      (run.1 = .ok .proceed → reference.handled = polls) ∧
      (run.1 = .ok .quit ↔ ∃ poll ∈ reference.handled, poll.control = .quit) ∧
      ((∃ control, run.1 = .ok control) → run.2.machine.redraw = false) := by
  intro loaded run reference
  have begun : Shows plays (Plain.start settings elsewhere source) polls loaded := ⟨rfl, ready⟩
  obtain ⟨result, seen⟩ := (runFrames_ends follows begun).eq
  have machine : run.2.machine = reference.last.machine := congrArg Plain.machine seen
  refine ⟨result, machine, ?_, ?_, Plain.handled_prefix _ polls, ?_, ?_, ?_⟩
  · calc run.2.frames = reference.last.frames := congrArg Plain.frames seen
      _ = 0 + reference.completed := Plain.frames_loop _ polls
      _ = reference.completed := Nat.zero_add _
  · calc run.2.paused = reference.last.paused := congrArg Plain.paused seen
      _ = (false ^^ Plain.toggled reference.handled) := Plain.paused_loop _ polls
      _ = Plain.toggled reference.handled := Bool.false_xor _
  · intro through
    exact Plain.handled_of_proceed (result.symm.trans through)
  · rw [result]
    exact Plain.result_eq_quit_iff _ polls
  · rintro ⟨control, ended⟩
    rw [machine]
    exact Plain.redraw_loop (Plain.redraw_start settings elsewhere source)
      (result.symm.trans ended)

end Actions

end Emulator

/-- A script that presses a key, pauses, keeps a picture, goes on, and leaves. -/
def pausingScript : Scripted where
  cues :=
    [{ press := [5] }, { control := .togglePause }, { control := .screenshot },
      { release := [5], control := .togglePause }, {}, { control := .quit }]
  quitFrom := 6
  draws := ⟨[], 0⟩
  beeps := ⟨[], 0⟩
  stops := ⟨[], 0⟩
  album := Album.empty "" none

/-- A program that starts the tone, draws, and then waits. -/
def soundingProgram : ByteSource :=
  ByteSource.ofList [0x60, 0x05, 0xF0, 0x18, 0xD0, 0x05, 0x12, 0x06]

/-- Three of its five frames are not paused, and each of them ticks once. -/
theorem runFrames_refines_plain_pausing :
    let run := Emulator.runFrames 6 ((Emulator.start { stepsPerFrame := 4 }
      (RandomStream.cycle #[]) pausingScript).load soundingProgram).2
    run.1 = .ok .quit ∧ run.2.frames = 5 ∧ run.2.paused = false ∧ run.2.machine.sound = 2 ∧
      run.2.machine.redraw = false := by
  have ready : pausingScript.Plays (pausingScript.cues.map Cue.poll) :=
    ⟨⟨rfl, rfl, rfl⟩, pausingScript.cues, [], rfl, by decide, rfl⟩
  have law := Emulator.runFrames_refines_plain Scripted.follows_plays { stepsPerFrame := 4 }
    (RandomStream.cycle #[]) soundingProgram ready
  have six : (pausingScript.cues.map Cue.poll).length = 6 := rfl
  rw [six] at law
  generalize made : (Plain.start { stepsPerFrame := 4 } (RandomStream.cycle #[])
    soundingProgram).loop (pausingScript.cues.map Cue.poll) = reference at law
  have facts : reference.ending = .left ∧ reference.last.machine.sound = 2 ∧
      reference.completed = 5 ∧ Plain.toggled reference.handled = false := by
    rw [← made]
    decide +kernel
  obtain ⟨result, machine, frames, paused, _, _, _, shown⟩ := law
  obtain ⟨left, sound, completed, awake⟩ := facts
  -- From here on the run is a name, so that nothing is tempted to compute it.
  generalize Emulator.runFrames 6 ((Emulator.start { stepsPerFrame := 4 } (RandomStream.cycle #[])
    pausingScript).load soundingProgram).2 = run at result machine frames paused shown ⊢
  rw [left] at result
  exact ⟨result, frames.trans completed, paused.trans awake,
    (congrArg Machine.sound machine).trans sound, shown ⟨.quit, result⟩⟩

end Chip8
