import Chip8.Emulator.Run
import Chip8.Proofs.Emulator.Action
import Chip8.Proofs.Emulator.Plain

/-!
# Rules for frames

How each action of a frame ends, put together from what the host may answer.  A
rule has one premise for each way through the action, and its premises tell the
emulator that is left behind; the journal in it may be any, since nothing reads
it.  So a fact about frames needs no more than the premises, and never the text of
an action: `finishFrame_rule` and `frame_rule`.

A failed frame leaves an emulator that can run another one.  `afterFrames` is the
emulator behind a number of frames, whatever came of each.
-/

namespace Chip8.Emulator

open Chip8.Action

variable {η : Type}

/-! ## Histories of frames -/

/-- The emulator with programs loaded one after another, refused ones included. -/
def loadAll (emulator : Emulator η) (sources : List ByteSource) : Emulator η :=
  sources.foldl (fun emulator source => (emulator.load source).2) emulator

theorem paused_loadAll (emulator : Emulator η) (sources : List ByteSource) :
    (emulator.loadAll sources).paused = emulator.paused := by
  induction sources generalizing emulator with
  | nil => rfl
  | cons source rest ih => exact ih (emulator.load source).2

variable [Host η]

/-- The emulator behind a number of frames, failed ones included. -/
def afterFrames (emulator : Emulator η) : (count : Nat) → Emulator η
  | 0 => emulator
  | count + 1 => (frame (emulator.afterFrames count)).2

theorem afterFrames_add (emulator : Emulator η) (count more : Nat) :
    emulator.afterFrames (count + more) = (emulator.afterFrames count).afterFrames more := by
  induction more with
  | zero => rfl
  | succ more ih => exact congrArg (fun behind => (frame behind).2) ih

theorem afterFrames_succ (emulator : Emulator η) (count : Nat) :
    emulator.afterFrames (count + 1) = (frame emulator).2.afterFrames count := by
  rw [Nat.add_comm, afterFrames_add]
  rfl

/-- What every frame keeps, every history of frames keeps. -/
theorem afterFrames_induction (Kept : Emulator η → Prop)
    (frame : ∀ emulator, Kept emulator → Kept (frame emulator).2)
    {emulator : Emulator η} (start : Kept emulator) (count : Nat) :
    Kept (emulator.afterFrames count) := by
  induction count with
  | zero => exact start
  | succ count ih => exact frame _ ih

/-- The next frame goes to its end: it does not fail, and the user does not leave. -/
def Completes (emulator : Emulator η) : Prop :=
  ∃ control, (frame emulator).1 = .ok control ∧ control ≠ .quit

instance (emulator : Emulator η) : Decidable emulator.Completes :=
  match ended : (frame emulator).1 with
  | .ok control =>
      if leaves : control = .quit then
        .isFalse fun ⟨_, same, stays⟩ =>
          stays ((Except.ok.inj (ended.symm.trans same)).symm.trans leaves)
      else
        .isTrue ⟨control, ended, leaves⟩
  | .error _ => .isFalse fun ⟨_, same, _⟩ => nomatch ended.symm.trans same

/-- What the next frame is told by its poll. -/
def answer (emulator : Emulator η) : Except IoError Control :=
  (Host.poll emulator.machine.keypad emulator.host).answer

/-- The machine that the next frame steps, if it gets that far. -/
def polledMachine (emulator : Emulator η) : Machine :=
  { emulator.machine with keypad := (Host.poll emulator.machine.keypad emulator.host).keypad }

/-- The host behind the poll of the next frame. -/
def polledHost (emulator : Emulator η) : η :=
  (Host.poll emulator.machine.keypad emulator.host).host

/-! ## The tone and the screen -/

section Rules

variable {emulator : Emulator η}

section Units

variable {good : Unit → Emulator η → Prop} {bad : Failure → Emulator η → Prop}

/-- A tone is stopped only where one sounds. -/
theorem silence_rule
    (silent : Host.isBeeping emulator.host = false → good () emulator)
    (sounding : Host.isBeeping emulator.host = true →
      (request Host.stop).Ends emulator good bad) :
    silence.Ends emulator good bad := by
  rw [silence]
  exact .read_bind (.when sounding silent)

theorem showScreen_rule
    (shown : ∀ host, Host.draw emulator.machine.screen emulator.host = (.ok (), host) →
      good () { emulator with host })
    (refused : ∀ error host,
      Host.draw emulator.machine.screen emulator.host = (.error error, host) →
        bad (.host error) { emulator with host }) :
    showScreen.Ends emulator good bad := by
  have ends : (request (Host.draw emulator.machine.screen)).Ends emulator good bad :=
    .asked shown refused
  exact ends

/-- A pause stops the tone first, and is shown only then. -/
theorem togglePause_rule (quiet : Emulator η → Prop)
    (ended : ∀ journal, emulator.paused = true →
      quiet { emulator with paused := false, journal })
    (begun : ∀ journal, emulator.paused = false →
      silence.Ends { emulator with paused := true, journal } (fun _ => quiet) bad)
    (shown : ∀ after, quiet after →
      showScreen.Ends { after with host := Host.showPaused (!emulator.paused) after.host }
        good bad) :
    togglePause.Ends emulator good bad := by
  rw [togglePause]
  refine .update_bind (.read_bind (.note_bind ?_))
  have quieted : (when (!emulator.paused) silence).Ends
      { emulator with
        paused := !emulator.paused
        journal := .paused (!emulator.paused) :: emulator.journal } (fun _ => quiet) bad := by
    cases paused : emulator.paused with
    | true => exact .when nofun fun _ => ended _ paused
    | false => exact .when (fun _ => begun _ paused) nofun
  refine quieted.bind ?_
  intro _ after holds
  exact .update_bind (shown after holds)

/-- Keeping a picture never fails the frame. -/
theorem respond_rule {control : Control}
    (ignored : control ≠ .togglePause → control ≠ .screenshot → good () emulator)
    (toggled : control = .togglePause → togglePause.Ends emulator good bad)
    (kept : ∀ journal, control = .screenshot →
      good () { emulator with
        host := (Host.save emulator.machine.screen emulator.host).2
        journal }) :
    (respond control).Ends emulator good bad := by
  cases control with
  | proceed | quit => exact .pure (ignored nofun nofun)
  | togglePause => exact toggled rfl
  | screenshot =>
      rw [Ends, respond, bind_apply, keepScreen]
      rcases saved : Host.save emulator.machine.screen emulator.host with ⟨outcome, host⟩
      rw [saved] at kept
      cases outcome with
      | ok path => exact kept _ rfl
      | error error => exact kept _ rfl

/-- The tone is stopped behind a fault, and where none is due behind the steps. -/
theorem compute_rule
    (due : ∀ machine journal,
      emulator.machine.steps emulator.stepsPerFrame = (none, machine) →
        machine.toneDue = true → good () { emulator with machine, journal })
    (spent : ∀ machine journal,
      emulator.machine.steps emulator.stepsPerFrame = (none, machine) →
        machine.toneDue = false → silence.Ends { emulator with machine, journal } good bad)
    (faulted : ∀ fault machine journal,
      emulator.machine.steps emulator.stepsPerFrame = (some fault, machine) →
        silence.Ends { emulator with machine, journal } (fun _ => bad (.fault fault)) bad) :
    compute.Ends emulator good bad := by
  have stepped := emulator.machine.batch_eq_steps emulator.stepsPerFrame
  rw [Ends, compute, bind_apply, runBatch]
  generalize emulator.machine.batch emulator.stepsPerFrame = batch at stepped ⊢
  obtain ⟨machine, steps, fault?, notices⟩ := batch
  cases fault? with
  | none =>
      refine Ends.read_bind (.when ?_ ?_)
      · intro silent
        exact spent machine _ stepped.symm (by simpa using silent)
      · intro sounding
        exact due machine _ stepped.symm (by simpa using sounding)
  | some fault =>
      refine Ends.note_bind ((faulted fault machine _ stepped.symm).bind ?_)
      intro _ after holds
      exact .fail holds

theorem present_rule
    (clear : emulator.machine.redraw = false → good () emulator)
    (shown : ∀ host, emulator.machine.redraw = true →
      Host.draw emulator.machine.screen emulator.host = (.ok (), host) →
        good () { emulator with host, machine := emulator.machine.clearRedraw })
    (refused : ∀ error host, emulator.machine.redraw = true →
      Host.draw emulator.machine.screen emulator.host = (.error error, host) →
        bad (.host error) { emulator with host }) :
    present.Ends emulator good bad := by
  rw [present]
  refine .read_bind (.when ?_ clear)
  intro redraw
  have drawn : showScreen.Ends emulator
      (fun _ after => good () { after with machine := after.machine.clearRedraw }) bad :=
    showScreen_rule (fun host => shown host redraw) fun error host => refused error host redraw
  refine drawn.bind ?_
  intro _ after holds
  exact .update holds

/-- The tone is begun before the tick and stopped behind it. -/
theorem keepTime_rule (begun : Emulator η → Prop)
    (kept : (emulator.machine.toneDue = true → Host.isBeeping emulator.host = true) →
      begun emulator)
    (began : emulator.machine.toneDue = true → Host.isBeeping emulator.host = false →
      (request Host.beep).Ends emulator (fun _ => begun) bad)
    (ticked : ∀ after, begun after → after.machine.sound ≠ 1 →
      good () { after with machine := after.machine.tick.2 })
    (ended : ∀ after, begun after → after.machine.sound = 1 →
      (request Host.stop).Ends { after with machine := after.machine.tick.2 } good bad) :
    keepTime.Ends emulator good bad := by
  rw [keepTime]
  refine .read_bind ?_
  have first : (when (emulator.machine.toneDue && !Host.isBeeping emulator.host)
      (request Host.beep)).Ends emulator (fun _ => begun) bad := by
    refine .when ?_ ?_
    · intro needed
      obtain ⟨due, silent⟩ := Bool.and_eq_true_iff.mp needed
      exact began due (by simpa using silent)
    · intro needless
      exact kept (by simpa using needless)
  refine first.bind ?_
  intro _ after holds
  rw [Ends, bind_apply, tick, Machine.tick]
  by_cases last : after.machine.sound = 1
  · rw [if_pos last]
    exact ended after holds last
  · rw [if_neg last]
    exact ticked after holds last

end Units

/-! ## Whole frames -/

variable {good : Control → Emulator η → Prop} {bad : Failure → Emulator η → Prop}

/-- What follows the poll in a frame.  `heard` holds behind the wish of the user,
`computed` behind the steps, `shown` behind the screen and `done` at the end. -/
theorem finishFrame_rule {control : Control} (heard computed shown done : Emulator η → Prop)
    (responded : (respond control).Ends emulator (fun _ => heard) bad)
    (paused : ∀ after, heard after → after.paused = true →
      present.Ends after (fun _ => done) bad)
    (stepped : ∀ after, heard after → after.paused = false →
      compute.Ends after (fun _ => computed) bad)
    (presented : ∀ after, computed after → present.Ends after (fun _ => shown) bad)
    (kept : ∀ after, shown after → keepTime.Ends after (fun _ => done) bad)
    (counted : ∀ after, done after → good control { after with frames := after.frames + 1 }) :
    (finishFrame control).Ends emulator good bad := by
  rw [finishFrame]
  refine responded.bind ?_
  intro _ after holds
  refine .read_bind ?_
  have count : ∀ last, done last →
      ((update fun emulator => { emulator with frames := emulator.frames + 1 }) >>=
        fun _ => Pure.pure control : Action η Control).Ends last good bad := by
    intro last holds
    exact .update_bind (.pure (counted last holds))
  cases pause : after.paused with
  | true =>
      refine .passed_bind ((paused after holds pause).bind ?_)
      intro _ last holds
      exact .passed_bind (count last holds)
  | false =>
      refine .taken_bind ((stepped after holds pause).bind ?_)
      intro _ after holds
      refine (presented after holds).bind ?_
      intro _ after holds
      refine .taken_bind ((kept after holds).bind ?_)
      intro _ last holds
      exact count last holds

/-- A frame ends behind its poll where that fails or the user leaves. -/
theorem frame_rule
    (failed : ∀ error journal, emulator.answer = .error error →
      bad (.host error)
        { emulator with machine := emulator.polledMachine, host := emulator.polledHost, journal })
    (left : ∀ journal, emulator.answer = .ok .quit →
      good .quit
        { emulator with machine := emulator.polledMachine, host := emulator.polledHost, journal })
    (stayed : ∀ control journal, emulator.answer = .ok control → control ≠ .quit →
      (finishFrame control).Ends
        { emulator with machine := emulator.polledMachine, host := emulator.polledHost, journal }
        good bad) :
    frame.Ends emulator good bad := by
  rw [Ends, frame, bind_apply, poll]
  simp only [answer, polledMachine, polledHost] at failed left stayed
  generalize Host.poll emulator.machine.keypad emulator.host = polled at failed left stayed ⊢
  obtain ⟨answered, keypad, notices, host⟩ := polled
  cases answered with
  | error error => exact failed error _ rfl
  | ok control =>
      cases control with
      | quit => exact left _ rfl
      | proceed | togglePause | screenshot => exact stayed _ _ rfl (by decide)

end Rules

end Chip8.Emulator
