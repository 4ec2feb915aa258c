import Chip8.Proofs.Emulator.Pause
import Chip8.Proofs.Emulator.Run

/-!
# The tone behind the last frame

A frame in which the user leaves ends behind its poll, and the tone goes on as the frame
before left it.  A run stops it then, and so leaves silence wherever it succeeds.  A bounded
run does not: where the user leaves, it leaves the tone sounding if the sound timer still
runs, unless they left at once or in a pause (`tone_behind_quit`, `not_silent_behind_quit`).
-/

namespace Chip8

open Chip8.Action

namespace Emulator

variable {η : Type} [Host η] {emulator after : Emulator η} {count limit : Nat}

/-! ## The frame in which the user leaves -/

omit [Host η] in
theorem ends_trivially {α : Type} (action : Action η α) (emulator : Emulator η) :
    action.Ends emulator (fun _ _ => True) (fun _ _ => True) := by
  rw [Ends]
  split <;> trivial

/-- Only a poll brings the wish to leave. -/
theorem answer_of_left (left : (frame emulator).1 = .ok .quit) :
    emulator.answer = .ok .quit := by
  have ends : frame.Ends emulator (fun control _ => control = .quit → emulator.answer = .ok .quit)
      (fun _ _ => True) := by
    refine frame_rule (fun _ _ _ => trivial) (fun _ answered _ => answered) ?_
    intro control journal _ stays
    exact finishFrame_rule (fun _ => True) (fun _ => True) (fun _ => True) (fun _ => True)
      (ends_trivially _ _) (fun _ _ _ => ends_trivially _ _) (fun _ _ _ => ends_trivially _ _)
      (fun _ _ => ends_trivially _ _) (fun _ _ => ends_trivially _ _)
      fun _ _ leaves => absurd leaves stays
  exact ends.of_result left rfl

/-- The frame in which the user leaves ends behind its poll. -/
theorem frame_of_left (left : (frame emulator).1 = .ok .quit) :
    (frame emulator).2.machine = emulator.polledMachine ∧
      (frame emulator).2.host = emulator.polledHost ∧
      (frame emulator).2.paused = emulator.paused := by
  have answered := answer_of_left left
  have ends : frame.Ends emulator
      (fun _ after => after.machine = emulator.polledMachine ∧
        after.host = emulator.polledHost ∧ after.paused = emulator.paused)
      (fun _ _ => True) := by
    refine frame_rule (fun _ _ _ => trivial) (fun _ _ => ⟨rfl, rfl, rfl⟩) ?_
    intro control journal wish stays
    rw [answered] at wish
    cases wish
    exact absurd rfl stays
  exact ends.of_result left

theorem LastFrame.prior (completes : emulator.Completes)
    (last : (frame emulator).2.LastFrame count) : emulator.LastFrame (count + 1) where
  before earlier inside := by
    cases earlier with
    | zero => exact completes
    | succ earlier =>
        rw [afterFrames_succ]
        exact last.before earlier (Nat.lt_of_succ_lt_succ inside)
  ends := by
    rw [afterFrames_succ]
    exact last.ends

/-- A bounded run that the user leaves ends with the frame in which they do. -/
theorem lastFrame_of_runFrames (ended : runFrames limit emulator = (.ok .quit, after)) :
    ∃ count < limit, emulator.LastFrame count ∧
      frame (emulator.afterFrames count) = (.ok .quit, after) := by
  induction limit generalizing emulator with
  | zero => cases ended
  | succ limit ih =>
      by_cases completes : emulator.Completes
      · rw [runFrames_of_completes completes] at ended
        obtain ⟨count, inside, last, left⟩ := ih ended
        rw [← afterFrames_succ] at left
        exact ⟨count + 1, Nat.succ_lt_succ inside, .prior completes last, left⟩
      · rw [runFrames_of_not_completes completes] at ended
        exact ⟨0, limit.succ_pos, ⟨nofun, completes⟩, ended⟩

/-! ## Runs that the user leaves -/

/-- A run that succeeds leaves silence. -/
theorem silent_of_run (law : Host.KeepsTone η)
    (ended : run limit emulator = some (.ok (), after)) : Host.isBeeping after.host = false := by
  obtain ⟨⟨outcome, last⟩, _, finished⟩ := Option.map_eq_some_iff.1 ended
  obtain ⟨journal, closed⟩ := finish_eq outcome last
  change finish outcome last = (.ok (), after) at finished
  rw [closed, Prod.mk.injEq] at finished
  obtain ⟨succeeded, rfl⟩ := finished
  show Host.isBeeping (Host.silence last.host).2 = false
  rw [Host.isBeeping_silence]
  cases sounding : Host.isBeeping last.host with
  | false => exact .inl rfl
  | true =>
      rw [Host.silence_of_sounding sounding] at succeeded
      rcases stopped : Host.stop last.host with ⟨_ | _, host⟩
      · rw [stopped] at succeeded
        cases succeeded
      · exact .inr (law.ended stopped)

/-- No tone sounds in a pause if no pause broke off. -/
theorem silent_in_pause (law : Host.KeepsTone η)
    (begun : emulator.paused = true → Host.isBeeping emulator.host = false)
    (whole : ∀ earlier < count, ¬(emulator.afterFrames earlier).BreaksOff) :
    (emulator.afterFrames count).paused = true →
      Host.isBeeping (emulator.afterFrames count).host = false := by
  induction count with
  | zero => exact begun
  | succ count ih =>
      have silent := ih fun earlier inside => whole earlier (Nat.lt_succ_of_lt inside)
      exact frame_silent_of_paused law silent (whole count count.lt_succ_self)

/-- Behind a run that succeeds no tone sounds.  Behind a bounded run that the user leaves
the tone is as the frame before left it: silent in a pause that did not break off, and as
the sound timer wants it where the program runs. -/
theorem tone_behind_quit (law : Host.KeepsTone η) (emulator : Emulator η) :
    (∀ limit after, run limit emulator = some (.ok (), after) →
        Host.isBeeping after.host = false) ∧
      ∀ limit after, runFrames limit emulator = (.ok .quit, after) →
        ∃ count < limit, emulator.LastFrame count ∧
          Host.isBeeping after.host = Host.isBeeping (emulator.afterFrames count).host ∧
          (0 < count → after.paused = false →
            Host.isBeeping after.host = after.machine.toneDue) ∧
          ((emulator.paused = true → Host.isBeeping emulator.host = false) →
            (∀ earlier < count, ¬(emulator.afterFrames earlier).BreaksOff) →
            after.paused = true → Host.isBeeping after.host = false) := by
  refine ⟨fun limit after => silent_of_run law, ?_⟩
  intro limit after ended
  obtain ⟨count, inside, last, left⟩ := lastFrame_of_runFrames ended
  obtain ⟨machine, host, paused⟩ := frame_of_left (congrArg Prod.fst left)
  rw [left] at machine host paused
  have sounding : Host.isBeeping after.host = Host.isBeeping (emulator.afterFrames count).host :=
    (congrArg Host.isBeeping host).trans (law.poll _ _)
  refine ⟨count, inside, last, sounding, ?_, ?_⟩
  · intro some running
    obtain ⟨before, rfl⟩ := Nat.exists_eq_succ_of_ne_zero (Nat.ne_of_gt some)
    obtain ⟨control, completed, stays⟩ := last.before before before.lt_succ_self
    have tuned := (frame_tuned law (emulator.afterFrames before)).of_result completed stays
      (paused.symm.trans running)
    rw [sounding, machine]
    exact tuned
  · intro begun whole held
    exact sounding.trans (silent_in_pause law begun whole (paused.symm.trans held))

end Emulator

/-- A user who leaves in the second frame. -/
def leavingScript : Scripted where
  cues := [{}, { control := .quit }]
  quitFrom := 2
  draws := ⟨[], 0⟩
  beeps := ⟨[], 0⟩
  stops := ⟨[], 0⟩
  album := Album.empty "" none

/-- The tone sounds behind the bounded run, and not behind the run. -/
theorem tone_behind_quit_leaving :
    let loaded := ((Emulator.start { stepsPerFrame := 2 } (RandomStream.cycle #[])
      leavingScript).load hummingProgram).2
    (∃ after, Emulator.runFrames 5 loaded = (.ok .quit, after) ∧
        Host.isBeeping after.host = true) ∧
      ∃ after, Emulator.run 5 loaded = some (.ok (), after) ∧
        Host.isBeeping after.host = false := by
  generalize made : ((Emulator.start { stepsPerFrame := 2 } (RandomStream.cycle #[])
    leavingScript).load hummingProgram).2 = loaded
  have facts : (Emulator.runFrames 5 loaded).1 = .ok .quit ∧
      (Emulator.runFrames 5 loaded).2.paused = false ∧
      (Emulator.runFrames 5 loaded).2.machine.toneDue = true ∧
      (loaded.afterFrames 0).Completes ∧
      (Emulator.run 5 loaded).map (fun ended => ended.1) = some (.ok ()) := by
    rw [← made]
    decide +kernel
  obtain ⟨left, running, due, completes, finished⟩ := facts
  obtain ⟨silent, leaving⟩ := Emulator.tone_behind_quit Scripted.keepsTone loaded
  obtain ⟨count, _, last, _, sounding, _⟩ := leaving 5 _ (Prod.ext left rfl)
  have some : 0 < count := by
    refine Nat.pos_of_ne_zero ?_
    rintro rfl
    exact last.ends completes
  obtain ⟨⟨outcome, after⟩, ended, same⟩ := Option.map_eq_some_iff.1 finished
  obtain rfl : outcome = .ok () := same
  exact ⟨⟨_, Prod.ext left rfl, (sounding some running).trans due⟩, after, ended,
    silent 5 after ended⟩

/-- So leaving does not silence a host that does all it is asked to. -/
theorem not_silent_behind_quit :
    ¬∀ (settings : Settings) (elsewhere : RandomStream) (host : Scripted) (source : ByteSource)
      (limit : Nat), host.draws.failing = [] → host.beeps.failing = [] →
        host.stops.failing = [] →
        let ended := Emulator.runFrames limit ((Emulator.start settings elsewhere host).load source).2
        ended.1 = .ok .quit → Host.isBeeping ended.2.host = false := by
  intro always
  have silent := always { stepsPerFrame := 2 } (RandomStream.cycle #[]) leavingScript
    hummingProgram 5 rfl rfl rfl
  generalize made : Emulator.runFrames 5 ((Emulator.start { stepsPerFrame := 2 }
    (RandomStream.cycle #[]) leavingScript).load hummingProgram).2 = ended at silent
  have facts : ended.1 = .ok .quit ∧ Host.isBeeping ended.2.host = true := by
    rw [← made]
    decide +kernel
  obtain ⟨left, sounding⟩ := facts
  exact Bool.false_ne_true ((silent left).symm.trans sounding)

end Chip8
