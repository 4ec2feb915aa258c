import Chip8.Proofs.Emulator.Run

/-!
# Faults and the stops behind them

A step that fails ends its frame (`faulting?`), and the emulator stops the tone before it
tells of the fault.  A run stops the tone once more.  Each of the two stops passes its own
failure on in the place of the fault, so the caller is told of the fault just where both of
them are needless or succeed: `fault_told`.  A program that fails while the tone sounds
around a host that cannot stop it is reported as a failure of the host:
`not_fault_told`.
-/

namespace Chip8

open Chip8.Action

namespace Emulator

variable {η : Type} [Host η]

/-- The fault that ends the steps of the next frame, and the host at that time, if the frame
gets to its steps and one of them fails. -/
def faulting? (emulator : Emulator η) : Option (Fault × η) :=
  match poll emulator with
  | (.error _, _) | (.ok .quit, _) => none
  | (.ok control, polled) =>
      match respond control polled with
      | (.error _, _) => none
      | (.ok (), heard) =>
          if heard.paused then none
          else (heard.machine.steps heard.stepsPerFrame).1.map fun fault => (fault, heard.host)

section Frames

variable {emulator : Emulator η} {fault : Fault} {host : η}

theorem exists_of_faulting? (faults : emulator.faulting? = some (fault, host)) :
    ∃ control polled heard, poll emulator = (.ok control, polled) ∧ control ≠ .quit ∧
      respond control polled = (.ok (), heard) ∧ heard.paused = false ∧ heard.host = host ∧
      ∃ machine, heard.machine.steps heard.stepsPerFrame = (some fault, machine) := by
  rw [faulting?] at faults
  split at faults
  case h_1 => cases faults
  case h_2 => cases faults
  case h_3 control polled stays asked =>
    split at faults
    case h_1 => cases faults
    case h_2 heard responded =>
      split at faults
      case isTrue => cases faults
      case isFalse awake =>
        rcases stepped : heard.machine.steps heard.stepsPerFrame with ⟨fault?, machine⟩
        rw [stepped] at faults
        obtain ⟨_, rfl, same⟩ := Option.map_eq_some_iff.1 faults
        cases same
        exact ⟨control, polled, heard, asked, stays, responded, Bool.eq_false_iff.2 awake,
          rfl, machine, stepped⟩

theorem silence_ends_as_host (emulator : Emulator η) :
    silence.Ends emulator
      (fun _ after => Host.silence emulator.host = (.ok (), after.host))
      (fun failure after => ∃ error, failure = .host error ∧
        Host.silence emulator.host = (.error error, after.host)) := by
  rw [silence_eq_request]
  exact .asked (fun _ asked => asked) fun error _ asked => ⟨error, rfl, asked⟩

/-- The steps of a frame fail with the fault, or with the failure of the stop behind it. -/
theorem compute_of_faulted {machine : Machine}
    (stepped : emulator.machine.steps emulator.stepsPerFrame = (some fault, machine)) :
    compute.Ends emulator (fun _ _ => False) (fun failure after =>
      (behindStop (Host.silence emulator.host).1 (.error (.fault fault)) :
        Except Failure Control) = .error failure ∧
      after.host = (Host.silence emulator.host).2) := by
  refine compute_rule ?_ ?_ ?_
  · intro machine journal through
    rw [stepped] at through
    cases through
  · intro machine journal through
    rw [stepped] at through
    cases through
  · intro fault machine journal failed
    rw [stepped] at failed
    cases failed
    refine (silence_ends_as_host _).imp ?_ ?_
    · intro _ after stopped
      change Host.silence emulator.host = _ at stopped
      rw [stopped]
      exact ⟨rfl, rfl⟩
    · rintro _ after ⟨error, rfl, stopped⟩
      change Host.silence emulator.host = _ at stopped
      rw [stopped]
      exact ⟨rfl, rfl⟩

theorem finishFrame_of_faulted {control : Control} {polled heard : Emulator η} {machine : Machine}
    (responded : respond control polled = (.ok (), heard)) (awake : heard.paused = false)
    (stepped : heard.machine.steps heard.stepsPerFrame = (some fault, machine)) :
    (finishFrame control polled).1 = behindStop (Host.silence heard.host).1 (.error (.fault fault)) ∧
      (finishFrame control polled).2.host = (Host.silence heard.host).2 := by
  have ends : (finishFrame control).Ends polled (fun _ _ => False) (fun failure after =>
      (behindStop (Host.silence heard.host).1 (.error (.fault fault)) :
        Except Failure Control) = .error failure ∧ after.host = (Host.silence heard.host).2) := by
    refine finishFrame_rule (· = heard) (fun _ => False) (fun _ => False) (fun _ => False)
      (.of_ok responded rfl) ?_ ?_ (fun _ => False.elim) (fun _ => False.elim) (fun _ => False.elim)
    · rintro _ rfl paused
      rw [awake] at paused
      cases paused
    · rintro _ rfl _
      exact compute_of_faulted stepped
  exact (ends.weaken fun _ _ => False.elim).eq

/-- A frame whose steps fail gives the fault, unless the stop behind it fails. -/
theorem frame_of_faulting (faults : emulator.faulting? = some (fault, host)) :
    (frame emulator).1 = behindStop (Host.silence host).1 (.error (.fault fault)) ∧
      (frame emulator).2.host = (Host.silence host).2 := by
  obtain ⟨control, polled, heard, asked, stays, responded, awake, rfl, machine, stepped⟩ :=
    exists_of_faulting? faults
  have same : frame emulator = finishFrame control polled := by
    rw [frame, bind_apply, asked]
    cases control with
    | quit => exact absurd rfl stays
    | proceed | togglePause | screenshot => rfl
  rw [same]
  exact finishFrame_of_faulted responded awake stepped

theorem not_completes_of_faulting (faults : emulator.faulting? = some (fault, host)) :
    ¬emulator.Completes := by
  rintro ⟨control, completed, _⟩
  rw [(frame_of_faulting faults).1] at completed
  cases stopped : (Host.silence host).1 <;> rw [stopped] at completed <;> cases completed

/-- Where a step fails in a frame, the frame and every bounded run that reaches it give the
fault, unless the stop of the tone behind the fault fails: then they give its failure.  A
run that reaches the frame stops the tone once more, and the failure of this second stop
takes the place of either. -/
theorem fault_told (emulator : Emulator η) {count : Nat}
    (before : ∀ earlier < count, (emulator.afterFrames earlier).Completes)
    (faults : (emulator.afterFrames count).faulting? = some (fault, host)) :
    let first := Host.silence host
    let second := Host.silence first.2
    (frame (emulator.afterFrames count)).1 = behindStop first.1 (.error (.fault fault)) ∧
      ∀ limit, count < limit →
        (runFrames limit emulator).1 = behindStop first.1 (.error (.fault fault)) ∧
        ∃ after, run limit emulator =
          some (behindStop second.1 (behindStop first.1 (.error (.fault fault))), after) := by
  intro first second
  obtain ⟨told, behind⟩ := frame_of_faulting faults
  have last : emulator.LastFrame count := ⟨before, not_completes_of_faulting faults⟩
  refine ⟨told, fun limit enough => ⟨?_, ?_⟩⟩
  · rw [runFrames_of_lastFrame last enough]
    exact told
  · obtain ⟨journal, ended⟩ := run_of_lastFrame last enough
    rw [told, behind] at ended
    refine ⟨_, ended.trans (congrArg some (Prod.ext ?_ rfl))⟩
    show behindStop second.1 (Except.map _ (behindStop first.1 _)) = _
    rcases first.1 with error | _
    · rfl
    · rfl

end Frames

end Emulator

/-- A host whose first stop of the tone fails. -/
def jammedScript : Scripted where
  cues := []
  quitFrom := 20
  draws := ⟨[], 0⟩
  beeps := ⟨[], 0⟩
  stops := ⟨[0], 0⟩
  album := Album.empty "" none

/-- A program that starts the tone and then fails. -/
def failingProgram : ByteSource := ByteSource.ofList [0x60, 0x05, 0xF0, 0x18, 0xFF, 0xFF]

/-- The second frame fails in a step, and its stop takes the place of the fault.  The stop
that ends the run succeeds, and does not bring the fault back. -/
theorem fault_told_jammed :
    let loaded := ((Emulator.start { stepsPerFrame := 2 } (RandomStream.cycle #[])
      jammedScript).load failingProgram).2
    let failed := Failure.host (.custom "stop failed")
    (∃ host, (loaded.afterFrames 1).faulting? = some (.unknownOpcode 0xFFFF 0x204, host)) ∧
      (Emulator.frame (loaded.afterFrames 1)).1 = .error failed ∧
      (Emulator.runFrames 2 loaded).1 = .error failed ∧
      ∃ after, Emulator.run 2 loaded = some (.error failed, after) := by
  intro loaded failed
  generalize made : loaded = emulator
  have facts : (∀ time < 1, (emulator.afterFrames time).Completes) ∧
      (emulator.afterFrames 1).faulting?.map (fun ended =>
        (ended.1, (Host.silence ended.2).1, (Host.silence (Host.silence ended.2).2).1)) =
      some (.unknownOpcode 0xFFFF 0x204, .error (.custom "stop failed"), .ok ()) := by
    rw [← made]
    decide +kernel
  obtain ⟨before, ended⟩ := facts
  obtain ⟨⟨fault, host⟩, faults, same⟩ := Option.map_eq_some_iff.1 ended
  obtain ⟨rfl, first, second⟩ : fault = _ ∧ (Host.silence host).1 = _ ∧
      (Host.silence (Host.silence host).2).1 = _ := by
    simpa only [Prod.mk.injEq] using same
  obtain ⟨told, runs⟩ := Emulator.fault_told emulator before faults
  obtain ⟨bounded, after, run⟩ := runs 2 (by decide)
  rw [first] at told bounded run
  rw [second] at run
  exact ⟨⟨host, faults⟩, told, bounded, after, run⟩

/-- So a fault can be kept from the caller. -/
theorem not_fault_told :
    ¬∀ (settings : Settings) (elsewhere : RandomStream) (host : Scripted) (source : ByteSource)
      (count : Nat) (fault : Fault) (around : Scripted),
      let emulator := (((Emulator.start settings elsewhere host).load source).2).afterFrames count
      emulator.faulting? = some (fault, around) →
        (Emulator.frame emulator).1 = .error (.fault fault) := by
  intro always
  have told := always { stepsPerFrame := 2 } (RandomStream.cycle #[]) jammedScript
    failingProgram 1
  generalize made : (((Emulator.start { stepsPerFrame := 2 } (RandomStream.cycle #[])
    jammedScript).load failingProgram).2).afterFrames 1 = emulator at told
  have facts : emulator.faulting?.isSome = true ∧
      (Emulator.frame emulator).1 = .error (.host (.custom "stop failed")) := by
    rw [← made]
    decide +kernel
  obtain ⟨faults, failed⟩ := facts
  obtain ⟨⟨fault, around⟩, faults⟩ := Option.isSome_iff_exists.1 faults
  have replaced := failed.symm.trans (told fault around faults)
  cases replaced

end Chip8
