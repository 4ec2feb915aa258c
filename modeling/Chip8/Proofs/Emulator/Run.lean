import Chip8.Proofs.Emulator.Tone

/-!
# Runs are frames

A run goes as far as its first frame that does not go to its end (`LastFrame`), and then
stops the tone.  So it gives what that frame gave and leaves what that frame left, but
for the tone and for a stop that fails (`run_of_lastFrame`).  The frames of a run are
those that would be asked for one by one, down to the requests that they make of the
host: `run_agrees_with_frames`.

Nothing is asked of the host here.  Whether a tone sounds behind a run is a matter of the
one stop that closes it.
-/

namespace Chip8

open Chip8.Action

variable {ζ η α : Type}

section Silence

variable [Host η]

/-- Stopping the tone of a host, if it sounds. -/
def Host.silence (host : η) : Except IoError Unit × η :=
  if Host.isBeeping host then Host.stop host else (.ok (), host)

/-- What becomes of an outcome where the tone is stopped behind it: a stop that fails takes
its place. -/
def Emulator.behindStop (stopped : Except IoError Unit) (outcome : Except Failure α) :
    Except Failure α :=
  match stopped with
  | .ok () => outcome
  | .error error => .error (.host error)

theorem Host.silence_of_silent {host : η} (silent : Host.isBeeping host = false) :
    Host.silence host = (.ok (), host) := by
  simp [Host.silence, silent]

theorem Host.silence_of_sounding {host : η} (sounding : Host.isBeeping host = true) :
    Host.silence host = Host.stop host :=
  if_pos sounding

/-- No tone sounds then if none did before, or if this one stop ended it. -/
theorem Host.isBeeping_silence (host : η) :
    Host.isBeeping (Host.silence host).2 = false ↔
      Host.isBeeping host = false ∨ Host.isBeeping (Host.stop host).2 = false := by
  cases sounding : Host.isBeeping host with
  | true =>
      rw [Host.silence_of_sounding sounding]
      exact ⟨.inr, fun ends => ends.resolve_left nofun⟩
  | false =>
      rw [Host.silence_of_silent sounding]
      exact iff_of_true sounding (.inl rfl)

end Silence

namespace Emulator

section Runs

variable [Host η] {emulator : Emulator η} {count limit : Nat}

theorem silence_eq_request : (silence : Action η Unit) = request Host.silence := by
  funext emulator
  show (when (Host.isBeeping emulator.host) (request Host.stop)) emulator = _
  cases sounding : Host.isBeeping emulator.host with
  | true =>
      rw [request, Host.silence_of_sounding sounding]
      rfl
  | false =>
      rw [request, Host.silence_of_silent sounding]
      rfl

theorem finish_eq (outcome : Except Failure Unit) (emulator : Emulator η) :
    ∃ journal, finish outcome emulator =
      (behindStop (Host.silence emulator.host).1 outcome,
        { emulator with host := (Host.silence emulator.host).2, journal }) := by
  cases outcome with
  | ok _ =>
      rw [finish, silence_eq_request, bind_apply, request]
      rcases Host.silence emulator.host with ⟨stopped, host⟩
      cases stopped with
      | ok _ => exact ⟨_, rfl⟩
      | error error => exact ⟨_, rfl⟩
  | error failure =>
      rw [finish, silence_eq_request, bind_apply, request]
      rcases Host.silence emulator.host with ⟨stopped, host⟩
      cases stopped with
      | ok _ => exact ⟨_, rfl⟩
      | error error => exact ⟨_, rfl⟩

/-! ## The frame that ends a run -/

/-- Of the frames from here on, this one is the first that does not go to its end. -/
structure LastFrame (emulator : Emulator η) (count : Nat) : Prop where
  before : ∀ earlier < count, (emulator.afterFrames earlier).Completes
  ends : ¬(emulator.afterFrames count).Completes

theorem LastFrame.next (last : emulator.LastFrame (count + 1)) :
    (frame emulator).2.LastFrame count where
  before earlier inside := by
    rw [← afterFrames_succ]
    exact last.before (earlier + 1) (Nat.succ_lt_succ inside)
  ends := by
    rw [← afterFrames_succ]
    exact last.ends

theorem untilDone_of_completes (completes : emulator.Completes) :
    untilDone (limit + 1) emulator = untilDone limit (frame emulator).2 := by
  obtain ⟨control, completed, stays⟩ := completes
  rw [untilDone]
  generalize frame emulator = ended at completed ⊢
  obtain ⟨outcome, after⟩ := ended
  obtain rfl : outcome = .ok control := completed
  cases control with
  | quit => exact absurd rfl stays
  | proceed | togglePause | screenshot => rfl

theorem runFrames_of_completes (completes : emulator.Completes) :
    runFrames (limit + 1) emulator = runFrames limit (frame emulator).2 := by
  obtain ⟨control, completed, stays⟩ := completes
  rw [runFrames, bind_apply]
  generalize frame emulator = ended at completed ⊢
  obtain ⟨outcome, after⟩ := ended
  obtain rfl : outcome = .ok control := completed
  cases control with
  | quit => exact absurd rfl stays
  | proceed | togglePause | screenshot => rfl

/-- A frame that does not go to its end fails, or the user leaves. -/
theorem frame_of_not_completes (ends : ¬emulator.Completes) :
    (∃ after, frame emulator = (.ok .quit, after)) ∨
      ∃ failure after, frame emulator = (.error failure, after) := by
  rw [Completes] at ends
  generalize frame emulator = ended at ends ⊢
  obtain ⟨failure | control, after⟩ := ended
  · exact .inr ⟨failure, after, rfl⟩
  · by_cases leaves : control = .quit
    · exact .inl ⟨after, by rw [leaves]⟩
    · exact absurd ⟨control, rfl, leaves⟩ ends

theorem untilDone_of_not_completes (ends : ¬emulator.Completes) :
    untilDone (limit + 1) emulator =
      some ((frame emulator).1.map fun _ => (), (frame emulator).2) := by
  rw [untilDone]
  obtain ⟨after, ended⟩ | ⟨failure, after, ended⟩ := frame_of_not_completes ends
  · rw [ended]
    rfl
  · rw [ended]
    rfl

theorem runFrames_of_not_completes (ends : ¬emulator.Completes) :
    runFrames (limit + 1) emulator = frame emulator := by
  rw [runFrames, bind_apply]
  obtain ⟨after, ended⟩ | ⟨failure, after, ended⟩ := frame_of_not_completes ends
  · rw [ended]
    rfl
  · rw [ended]

/-- The limit that the last frame just keeps to will do. -/
theorem untilDone_succ_of_lastFrame (last : emulator.LastFrame count) :
    untilDone (count + 1) emulator =
      some ((frame (emulator.afterFrames count)).1.map fun _ => (),
        (frame (emulator.afterFrames count)).2) := by
  induction count generalizing emulator with
  | zero => exact untilDone_of_not_completes last.ends
  | succ count ih =>
      have completes : emulator.Completes := last.before 0 count.succ_pos
      rw [untilDone_of_completes completes, afterFrames_succ]
      exact ih last.next

theorem untilDone_of_lastFrame (last : emulator.LastFrame count) (enough : count < limit) :
    untilDone limit emulator =
      some ((frame (emulator.afterFrames count)).1.map fun _ => (),
        (frame (emulator.afterFrames count)).2) := by
  obtain ⟨more, rfl⟩ := Nat.exists_eq_add_of_le enough
  exact untilDone_add (untilDone_succ_of_lastFrame last) more

/-- A bounded run that reaches the last frame is that frame. -/
theorem runFrames_of_lastFrame (last : emulator.LastFrame count) (enough : count < limit) :
    runFrames limit emulator = frame (emulator.afterFrames count) := by
  obtain ⟨more, rfl⟩ := Nat.exists_eq_add_of_lt enough
  clear enough
  induction count generalizing emulator with
  | zero => exact runFrames_of_not_completes last.ends
  | succ count ih =>
      have completes : emulator.Completes := last.before 0 count.succ_pos
      rw [runFrames_of_completes completes, afterFrames_succ, Nat.succ_add]
      exact ih last.next

end Runs

/-! ## Runs -/

theorem Companions.lastFrame_iff [Host ζ] [Host η] {related : Emulator ζ → Emulator η → Prop}
    (companions : Companions related) {first : Emulator ζ} {second : Emulator η}
    (holds : related first second) (count : Nat) :
    first.LastFrame count ↔ second.LastFrame count := by
  have same : ∀ time, (first.afterFrames time).Completes ↔ (second.afterFrames time).Completes := by
    intro time
    rw [Completes, Completes, (companions.frame _ _ (companions.afterFrames holds time)).1]
  constructor
  · rintro ⟨before, ends⟩
    exact ⟨fun earlier inside => (same earlier).1 (before earlier inside), ends ∘ (same count).2⟩
  · rintro ⟨before, ends⟩
    exact ⟨fun earlier inside => (same earlier).2 (before earlier inside), ends ∘ (same count).1⟩

section Runs

variable [Host η] {emulator : Emulator η} {count limit : Nat}

/-- A run gives what its last frame gave and leaves what it left, but for the tone. -/
theorem run_of_lastFrame (last : emulator.LastFrame count) (enough : count < limit) :
    let ended := frame (emulator.afterFrames count)
    let closing := Host.silence ended.2.host
    ∃ journal, run limit emulator =
      some (behindStop closing.1 (ended.1.map fun _ => ()),
        { ended.2 with host := closing.2, journal }) := by
  intro ended closing
  -- A run announces itself before its first frame, but only in the journal.
  have announced : SameButJournal emulator emulator.announce := ⟨_, rfl⟩
  have found := untilDone_of_lastFrame
    ((companions_sameButJournal.lastFrame_iff announced count).1 last) enough
  obtain ⟨result, journal, behind⟩ := companions_sameButJournal.frame _ _
    (companions_sameButJournal.afterFrames announced count)
  rw [← result, behind] at found
  obtain ⟨journal', finished⟩ := finish_eq (ended.1.map fun _ => ()) { ended.2 with journal }
  refine ⟨journal', ?_⟩
  rw [run, found]
  exact congrArg some finished

/-- The requests made in a run, newest first. -/
def runCalls (emulator : Emulator η) (limit : Nat) : Option (List Call) :=
  (run limit emulator.recorded).map fun ended => ended.2.host.calls

/-- The request that ends a run: to stop the tone, where it sounds. -/
def closingCalls (host : η) : List Call :=
  if Host.isBeeping host then [.stop (Host.stop host).1.isOk] else []

theorem calls_silence (host : Recorded η) :
    (Host.silence host).2.calls = closingCalls host.inner ++ host.calls := by
  cases sounding : Host.isBeeping host.inner with
  | true =>
      have sounding' : Host.isBeeping host = true := sounding
      rw [Host.silence_of_sounding sounding', closingCalls, if_pos sounding]
      show (host.request Host.stop .stop).2.calls = _
      rw [Recorded.request]
      rcases Host.stop host.inner with ⟨stopped, inner⟩
      cases stopped with
      | ok _ => rfl
      | error error => rfl
  | false =>
      have silent : Host.isBeeping host = false := sounding
      rw [Host.silence_of_silent silent, closingCalls, sounding]
      rfl

theorem runCalls_of_lastFrame (last : emulator.LastFrame count) (enough : count < limit) :
    emulator.runCalls limit =
      some (closingCalls (emulator.afterFrames (count + 1)).host ++ emulator.calls (count + 1)) := by
  have inside : (emulator.recorded.afterFrames (count + 1)).host.inner =
      (emulator.afterFrames (count + 1)).host :=
    congrArg Emulator.host (emulator.inner_afterFrames_recorded (count + 1))
  have recorded : emulator.recorded.LastFrame count :=
    ((companions_of_wraps Recorded.wraps_inner).lastFrame_iff rfl count).2 last
  obtain ⟨journal, ended⟩ := run_of_lastFrame recorded enough
  rw [runCalls, ended, ← inside]
  exact congrArg some (calls_silence _)

/-- A run asks of its host what the frames ask one by one up to the first that does not go
to its end, and then to stop the tone where it sounds.  It leaves what that frame left,
and unless this last stop fails it gives what that frame gave.  No tone sounds behind it
if none was left to stop, or if this stop ended it. -/
theorem run_agrees_with_frames (emulator : Emulator η) (last : emulator.LastFrame count)
    (enough : count < limit) :
    let given := (frame (emulator.afterFrames count)).1
    let behind := emulator.afterFrames (count + 1)
    ∃ outcome after, run limit emulator = some (outcome, after) ∧
      emulator.runCalls limit =
        some (closingCalls behind.host ++ emulator.calls (count + 1)) ∧
      after.machine = behind.machine ∧ after.paused = behind.paused ∧
      after.frames = behind.frames ∧
      ((Host.isBeeping behind.host = true → (Host.stop behind.host).1 = .ok ()) →
        (given = .ok .quit → outcome = .ok ()) ∧
          ∀ failure, given = .error failure → outcome = .error failure) ∧
      (Host.isBeeping after.host = false ↔
        Host.isBeeping behind.host = false ∨
          Host.isBeeping (Host.stop behind.host).2 = false) ∧
      ∀ error, Host.isBeeping behind.host = true → (Host.stop behind.host).1 = .error error →
        outcome = .error (.host error) := by
  intro given behind
  obtain ⟨journal, ended⟩ := run_of_lastFrame last enough
  refine ⟨behindStop (Host.silence behind.host).1 (given.map fun _ => ()), _, ended,
    runCalls_of_lastFrame last enough, rfl, rfl, rfl, ?_, Host.isBeeping_silence behind.host, ?_⟩
  · intro met
    have closed : (Host.silence behind.host).1 = .ok () := by
      cases sounding : Host.isBeeping behind.host with
      | true =>
          rw [Host.silence_of_sounding sounding]
          exact met sounding
      | false => rw [Host.silence_of_silent sounding]
    constructor
    · intro left
      rw [closed, left]
      rfl
    · intro failure failed
      rw [closed, failed]
      rfl
  · intro error sounding refused
    rw [Host.silence_of_sounding sounding, refused]
    rfl

end Runs

end Emulator

/-- A host whose second poll fails. -/
def brokenScript : Scripted where
  cues := [{}, { failure? := some (.custom "no keys") }]
  quitFrom := 2
  draws := ⟨[], 0⟩
  beeps := ⟨[], 0⟩
  stops := ⟨[], 0⟩
  album := Album.empty "" none

/-- The frame that fails leaves the tone sounding, and the run stops it. -/
theorem run_agrees_with_frames_broken :
    let loaded := ((Emulator.start { stepsPerFrame := 4 } (RandomStream.cycle #[])
      brokenScript).load soundingProgram).2
    loaded.LastFrame 1 ∧ Host.isBeeping (loaded.afterFrames 2).host = true ∧
      ∃ after, Emulator.run 9 loaded = some (.error (.host (.custom "no keys")), after) ∧
        loaded.runCalls 9 = some (.stop true :: loaded.calls 2) ∧
        after.machine.pc = (loaded.afterFrames 2).machine.pc ∧
        Host.isBeeping after.host = false := by
  generalize made : ((Emulator.start { stepsPerFrame := 4 } (RandomStream.cycle #[])
    brokenScript).load soundingProgram).2 = loaded
  have facts : (∀ time < 1, (loaded.afterFrames time).Completes) ∧
      ¬(loaded.afterFrames 1).Completes ∧
      Host.isBeeping (loaded.afterFrames 2).host = true ∧
      (Host.stop (loaded.afterFrames 2).host).1 = .ok () ∧
      Host.isBeeping (Host.stop (loaded.afterFrames 2).host).2 = false ∧
      (Emulator.frame (loaded.afterFrames 1)).1 = .error (.host (.custom "no keys")) := by
    rw [← made]
    decide +kernel
  obtain ⟨before, ends, sounding, stopped, hushed, failed⟩ := facts
  have last : loaded.LastFrame 1 := ⟨before, ends⟩
  obtain ⟨outcome, after, ended, calls, machine, _, _, met, silent, _⟩ :=
    Emulator.run_agrees_with_frames loaded last (show 1 < 9 by decide)
  obtain ⟨_, same⟩ := met fun _ => stopped
  refine ⟨last, sounding, after, ?_, ?_, congrArg Machine.pc machine, silent.2 (.inr hushed)⟩
  · rw [ended, same _ failed]
  · rw [calls, Emulator.closingCalls, if_pos sounding, stopped]
    rfl

end Chip8
