import Chip8.Proofs.Emulator.Picture
import Chip8.Proofs.Emulator.Tone

/-!
# How far a pause has come

A pause shows in three places: the emulator is paused, the host was told so, and the
tone is silent.  They change one after another, and a stop of the tone that fails ends
the frame between the first change and the others.  The emulator is then halfway into
the pause (`Stage.halfway`), and no frame takes it from there but one that the user
ends the pause with.

Behind every frame, whatever failed in it, the three places agree unless the last wish
for a pause broke off in this way: `pause_agrees_iff`.  The frames behind it go to their
ends and leave a paused emulator whose tone sounds: `not_pause_agrees_of_completes`.
-/

namespace Chip8

open Chip8.Action

variable {ζ η : Type}

/-- What the host was told last of a pause, with the requests from the newest on. -/
def Call.toldPaused : (calls : List Call) → Bool
  | [] => false
  | .showPaused paused :: _ => paused
  | _ :: earlier => toldPaused earlier
termination_by structural calls => calls

theorem Recorded.toldPaused_of_request {α : Type} {host after : Recorded η}
    {ask : η → Except IoError α × η} {call : Bool → Call} {outcome : Except IoError α}
    (other : ∀ met calls, Call.toldPaused (call met :: calls) = Call.toldPaused calls)
    (asked : host.request ask call = (outcome, after)) :
    Call.toldPaused after.calls = Call.toldPaused host.calls :=
  (congrArg Call.toldPaused (Recorded.calls_of_request asked)).trans (other _ _)

namespace Emulator

/-! ## Stages -/

/-- How far a pause has come. -/
inductive Stage where
  | running
  | held
  /-- The stop of the tone failed, and nothing behind it was done. -/
  | halfway
  deriving DecidableEq

namespace Stage

def paused : Stage → Bool
  | .running => false
  | .held | .halfway => true

def told : Stage → Bool
  | .held => true
  | .running | .halfway => false

end Stage

section Wishes

variable [Host η]

/-- The next frame begins or ends a pause. -/
def Toggles (emulator : Emulator η) : Prop := emulator.answer = .ok .togglePause

instance (emulator : Emulator η) : Decidable emulator.Toggles :=
  inferInstanceAs (Decidable (_ = _))

/-- The next frame begins a pause and fails to stop the tone. -/
def BreaksOff (emulator : Emulator η) : Prop :=
  emulator.Toggles ∧ emulator.paused = false ∧ Host.isBeeping emulator.polledHost = true ∧
    (Host.stop emulator.polledHost).1.isOk = false

instance (emulator : Emulator η) : Decidable emulator.BreaksOff :=
  inferInstanceAs (Decidable (_ ∧ _ ∧ _ ∧ _))

/-- The stage behind the next frame. -/
def nextStage (emulator : Emulator η) (stage : Stage) : Stage :=
  if emulator.Toggles then
    if emulator.paused then .running
    else if emulator.BreaksOff then .halfway
    else .held
  else
    stage

/-- The stage behind a number of frames, from a running program on. -/
def stage (emulator : Emulator η) : (count : Nat) → Stage
  | 0 => .running
  | count + 1 => (emulator.afterFrames count).nextStage (emulator.stage count)

/-- The last wish to begin or end a pause was to begin one, and it broke off. -/
def Interrupted (emulator : Emulator η) (count : Nat) : Prop :=
  ∃ time < count, (emulator.afterFrames time).BreaksOff ∧
    ∀ later < count, time < later → ¬(emulator.afterFrames later).Toggles

variable {emulator : Emulator η} {stage : Stage}

theorem nextStage_of_not_toggles (goesOn : ¬emulator.Toggles) :
    emulator.nextStage stage = stage :=
  if_neg goesOn

theorem nextStage_of_answer {answer : Except IoError Control} (answered : emulator.answer = answer)
    (goesOn : answer ≠ .ok .togglePause) : emulator.nextStage stage = stage :=
  nextStage_of_not_toggles fun toggles => goesOn (answered.symm.trans toggles)

theorem nextStage_of_paused (toggles : emulator.Toggles) (paused : emulator.paused = true) :
    emulator.nextStage stage = .running := by
  rw [nextStage, if_pos toggles, if_pos paused]

theorem nextStage_of_breaksOff (breaksOff : emulator.BreaksOff) :
    emulator.nextStage stage = .halfway := by
  have running := Bool.eq_false_iff.mp breaksOff.2.1
  rw [nextStage, if_pos breaksOff.1, if_neg running, if_pos breaksOff]

theorem nextStage_of_whole (toggles : emulator.Toggles) (running : emulator.paused = false)
    (whole : ¬emulator.BreaksOff) : emulator.nextStage stage = .held := by
  rw [nextStage, if_pos toggles, if_neg (Bool.eq_false_iff.mp running), if_neg whole]

theorem nextStage_eq_halfway_iff :
    emulator.nextStage stage = .halfway ↔
      emulator.BreaksOff ∨ ¬emulator.Toggles ∧ stage = .halfway := by
  by_cases toggles : emulator.Toggles
  · cases paused : emulator.paused with
    | true =>
        rw [nextStage_of_paused toggles paused]
        simp [toggles, BreaksOff, paused]
    | false =>
        by_cases breaksOff : emulator.BreaksOff
        · simp [nextStage_of_breaksOff breaksOff, breaksOff]
        · simp [nextStage_of_whole toggles paused breaksOff, breaksOff, toggles]
  · rw [nextStage_of_not_toggles toggles]
    simp [toggles, BreaksOff]

theorem not_interrupted_zero (emulator : Emulator η) : ¬emulator.Interrupted 0 :=
  fun ⟨_, early, _⟩ => Nat.not_lt_zero _ early

theorem interrupted_succ_iff (emulator : Emulator η) (count : Nat) :
    emulator.Interrupted (count + 1) ↔ (emulator.afterFrames count).BreaksOff ∨
      ¬(emulator.afterFrames count).Toggles ∧ emulator.Interrupted count := by
  constructor
  · rintro ⟨time, early, breaksOff, quiet⟩
    obtain earlier | rfl := Nat.lt_succ_iff_lt_or_eq.mp early
    · refine .inr ⟨quiet count count.lt_succ_self earlier, time, earlier, breaksOff, ?_⟩
      intro later inside
      exact quiet later (Nat.lt_succ_of_lt inside)
    · exact .inl breaksOff
  · rintro (breaksOff | ⟨goesOn, time, early, breaksOff, quiet⟩)
    · exact ⟨count, count.lt_succ_self, breaksOff, fun later inside behind => by omega⟩
    · refine ⟨time, Nat.lt_succ_of_lt early, breaksOff, ?_⟩
      intro later inside behind
      obtain earlier | rfl := Nat.lt_succ_iff_lt_or_eq.mp inside
      · exact quiet later earlier behind
      · exact goesOn

theorem stage_eq_halfway_iff (emulator : Emulator η) (count : Nat) :
    emulator.stage count = .halfway ↔ emulator.Interrupted count := by
  induction count with
  | zero => exact iff_of_false Stage.noConfusion emulator.not_interrupted_zero
  | succ count ih => rw [stage, nextStage_eq_halfway_iff, interrupted_succ_iff, ih]

variable [Host ζ] {inner : ζ → η} (wraps : Host.Wraps inner)

include wraps

theorem toggles_mapHost (emulator : Emulator ζ) :
    (emulator.mapHost inner).Toggles ↔ emulator.Toggles := by
  rw [Toggles, answer_mapHost wraps]
  rfl

theorem breaksOff_mapHost (emulator : Emulator ζ) :
    (emulator.mapHost inner).BreaksOff ↔ emulator.BreaksOff := by
  rw [BreaksOff, toggles_mapHost wraps, polledHost_mapHost wraps, wraps.isBeeping, wraps.stop]
  rfl

theorem nextStage_mapHost (emulator : Emulator ζ) (stage : Stage) :
    (emulator.mapHost inner).nextStage stage = emulator.nextStage stage := by
  simp only [nextStage, toggles_mapHost wraps, breaksOff_mapHost wraps]
  rfl

theorem stage_mapHost (emulator : Emulator ζ) (count : Nat) :
    (emulator.mapHost inner).stage count = emulator.stage count := by
  induction count with
  | zero => rfl
  | succ count ih =>
      rw [stage, stage, ih, ← mapHost_afterFrames wraps, nextStage_mapHost wraps]

end Wishes

/-! ## Frames -/

/-- An emulator at a stage: whether it is paused, what its host was told, and in a pause
whether the tone sounds. -/
structure Stands [Host η] (stage : Stage) (emulator : Emulator (Recorded η)) : Prop where
  paused : emulator.paused = stage.paused
  told : Call.toldPaused emulator.host.calls = stage.told
  sounding : stage.paused = true → Host.isBeeping emulator.host = !stage.told

section Frames

variable [Host η] {emulator after : Emulator (Recorded η)} {stage : Stage}

theorem Stands.of_same (stands : Stands stage emulator) (paused : after.paused = emulator.paused)
    (told : Call.toldPaused after.host.calls = Call.toldPaused emulator.host.calls)
    (sounding : Host.isBeeping after.host = Host.isBeeping emulator.host) :
    Stands stage after where
  paused := paused.trans stands.paused
  told := told.trans stands.told
  sounding held := sounding.trans (stands.sounding held)

/-- While the program runs, the tone may do what it will. -/
theorem Stands.of_running (stands : Stands .running emulator)
    (paused : after.paused = emulator.paused)
    (told : Call.toldPaused after.host.calls = Call.toldPaused emulator.host.calls) :
    Stands .running after where
  paused := paused.trans stands.paused
  told := told.trans stands.told
  sounding := nofun

theorem Stands.eq_running (stands : Stands stage emulator) (running : emulator.paused = false) :
    stage = .running := by
  rw [stands.paused] at running
  cases stage with
  | running => rfl
  | held | halfway => cases running

/-- A request about the tone, asked for while the program runs. -/
theorem request_running {ask : η → Except IoError Unit × η} {call : Bool → Call}
    (other : ∀ met calls, Call.toldPaused (call met :: calls) = Call.toldPaused calls)
    (stands : Stands .running emulator) :
    (request fun host : Recorded η => host.request ask call).Ends emulator
      (fun _ => Stands .running) (fun _ => Stands .running) := by
  refine Recorded.request_ends fun met host calls => stands.of_running rfl ?_
  exact (congrArg Call.toldPaused calls).trans (other met _)

theorem silence_running (stands : Stands .running emulator) :
    silence.Ends emulator (fun _ => Stands .running) (fun _ => Stands .running) :=
  silence_rule (fun _ => stands) fun _ => request_running (fun _ _ => rfl) stands

theorem compute_running (stands : Stands .running emulator) :
    compute.Ends emulator (fun _ => Stands .running) (fun _ => Stands .running) := by
  have stepped : ∀ machine journal, Stands .running { emulator with machine, journal } :=
    fun _ _ => stands.of_running rfl rfl
  exact compute_rule (fun machine journal _ _ => stepped machine journal)
    (fun machine journal _ _ => silence_running (stepped machine journal))
    (fun _ machine journal _ => silence_running (stepped machine journal))

theorem keepTime_running (stands : Stands .running emulator) :
    keepTime.Ends emulator (fun _ => Stands .running) (fun _ => Stands .running) := by
  refine keepTime_rule (Stands .running) (fun _ => stands)
    (fun _ _ => request_running (fun _ _ => rfl) stands) ?_ ?_
  · intro after stands _
    exact stands.of_running rfl rfl
  · intro after stands _
    have ticked : Stands .running { after with machine := after.machine.tick.2 } :=
      stands.of_running rfl rfl
    exact request_running (fun _ _ => rfl) ticked

variable (law : Host.KeepsTone (Recorded η))

include law

/-- Showing a screen moves no pause. -/
theorem draw_stands (stands : Stands stage emulator) {outcome : Except IoError Unit}
    {host : Recorded η}
    (drawn : Host.draw emulator.machine.screen emulator.host = (outcome, host)) :
    Stands stage { emulator with host } := by
  have sounding := law.draw emulator.machine.screen emulator.host
  rw [drawn] at sounding
  exact stands.of_same rfl (Recorded.toldPaused_of_request (fun _ _ => rfl) drawn) sounding

theorem showScreen_stands (stands : Stands stage emulator) :
    showScreen.Ends emulator (fun _ => Stands stage) (fun _ => Stands stage) :=
  showScreen_rule (fun _ => draw_stands law stands) fun _ _ => draw_stands law stands

theorem present_stands (stands : Stands stage emulator) :
    present.Ends emulator (fun _ => Stands stage) (fun _ => Stands stage) := by
  refine present_rule (fun _ => stands) ?_ fun _ _ _ => draw_stands law stands
  intro host _ drawn
  exact (draw_stands law stands drawn).of_same rfl rfl rfl

theorem keepScreen_stands (stands : Stands stage emulator) (journal : List Notice) :
    Stands stage { emulator with
      host := (Host.save emulator.machine.screen emulator.host).2
      journal } := by
  have sounding := law.save emulator.machine.screen emulator.host
  rcases saved : Host.save emulator.machine.screen emulator.host with ⟨outcome, host⟩
  rw [saved] at sounding
  exact stands.of_same rfl (Recorded.toldPaused_of_request (fun _ _ => rfl) saved) sounding

/-- The end of a pause leaves nothing of it. -/
theorem togglePause_of_paused (paused : emulator.paused = true) :
    togglePause.Ends emulator (fun _ => Stands .running) (fun _ => Stands .running) := by
  refine togglePause_rule (fun after => after.paused = false) (fun _ _ => rfl) ?_ ?_
  · intro journal running
    rw [paused] at running
    cases running
  · intro after running
    have told : Stands .running
        { after with host := Host.showPaused (!emulator.paused) after.host } := by
      refine ⟨running, ?_, nofun⟩
      rw [paused]
      rfl
    exact showScreen_stands law told

theorem togglePause_of_whole (running : emulator.paused = false)
    (stops : Host.isBeeping emulator.host = true → (Host.stop emulator.host).1.isOk = true) :
    togglePause.Ends emulator (fun _ => Stands .held) (fun _ => Stands .held) := by
  refine togglePause_rule
    (fun after => after.paused = true ∧ Host.isBeeping after.host = false) ?_ ?_ ?_
  · intro journal paused
    rw [running] at paused
    cases paused
  · intro journal _
    refine silence_rule (fun silent => ⟨rfl, silent⟩) fun sounding => .asked ?_ ?_
    · intro host asked
      exact ⟨rfl, law.ended asked⟩
    · intro error host refused
      have met := stops sounding
      rw [refused] at met
      cases met
  · rintro after ⟨paused, silent⟩
    have told : Stands .held
        { after with host := Host.showPaused (!emulator.paused) after.host } := by
      refine ⟨paused, ?_, fun _ => (law.showPaused _ after.host).trans silent⟩
      rw [running]
      rfl
    exact showScreen_stands law told

/-- A pause that breaks off ends the frame before the host is told. -/
theorem togglePause_of_refused (stands : Stands .running emulator)
    (sounding : Host.isBeeping emulator.host = true)
    (refused : (Host.stop emulator.host).1.isOk = false) :
    togglePause.Ends emulator (fun _ _ => False) (fun _ => Stands .halfway) := by
  refine togglePause_rule (fun _ => False) ?_ ?_ (fun _ => False.elim)
  · intro journal paused
    rw [stands.paused] at paused
    cases paused
  · intro journal _
    refine silence_rule ?_ fun _ => .asked ?_ ?_
    · intro silent
      rw [sounding] at silent
      cases silent
    · intro host asked
      rw [asked] at refused
      cases refused
    · intro error host asked
      refine ⟨rfl, ?_, fun _ => (law.notEnded asked).trans sounding⟩
      exact (Recorded.toldPaused_of_request (fun _ _ => rfl) asked).trans stands.told

/-- What follows the wish of the user in a frame moves no pause. -/
theorem finishFrame_stands {control : Control}
    (responded : (respond control).Ends emulator (fun _ => Stands stage) fun _ => Stands stage) :
    (finishFrame control).Ends emulator (fun _ => Stands stage) (fun _ => Stands stage) := by
  refine finishFrame_rule (Stands stage) (fun after => stage = .running ∧ Stands stage after)
    (fun after => stage = .running ∧ Stands stage after) (Stands stage) responded
    (fun _ stands _ => present_stands law stands) ?_ ?_ ?_ ?_
  · intro after stands awake
    cases stands.eq_running awake
    exact (compute_running stands).weaken fun _ _ stands => ⟨rfl, stands⟩
  · rintro after ⟨rfl, stands⟩
    exact (present_stands law stands).weaken fun _ _ stands => ⟨rfl, stands⟩
  · rintro after ⟨rfl, stands⟩
    exact keepTime_running stands
  · intro after stands
    exact stands.of_same rfl rfl rfl

/-- Every frame takes the pause to its next stage, whatever fails in it. -/
theorem frame_stands (stands : Stands stage emulator) :
    frame.Ends emulator (fun _ => Stands (emulator.nextStage stage))
      (fun _ => Stands (emulator.nextStage stage)) := by
  have polled : ∀ journal, Stands stage { emulator with
      machine := emulator.polledMachine, host := emulator.polledHost, journal } :=
    fun _ => stands.of_same rfl rfl (law.poll emulator.machine.keypad emulator.host)
  refine frame_rule ?_ ?_ ?_
  · intro error journal answered
    rw [nextStage_of_answer answered nofun]
    exact polled journal
  · intro journal answered
    rw [nextStage_of_answer answered nofun]
    exact polled journal
  · intro control journal answered _
    refine finishFrame_stands law (respond_rule ?_ ?_ ?_)
    · intro goesOn _
      rw [nextStage_of_answer answered fun same => goesOn (Except.ok.inj same)]
      exact polled journal
    · rintro rfl
      by_cases paused : emulator.paused = true
      · rw [nextStage_of_paused answered paused]
        exact togglePause_of_paused law paused
      have running := Bool.eq_false_iff.mpr paused
      cases stands.eq_running running
      by_cases breaksOff : emulator.BreaksOff
      · rw [nextStage_of_breaksOff breaksOff]
        obtain ⟨_, _, sounding, refused⟩ := breaksOff
        exact (togglePause_of_refused law (polled journal) sounding refused).weaken
          fun _ _ => False.elim
      · rw [nextStage_of_whole answered running breaksOff]
        refine togglePause_of_whole law running fun sounding => ?_
        by_contra refused
        exact breaksOff ⟨answered, running, sounding, Bool.eq_false_iff.mpr refused⟩
    · rintro journal' rfl
      rw [nextStage_of_answer answered nofun]
      exact keepScreen_stands law (polled journal) journal'

theorem stands_afterFrames (stands : Stands .running emulator) (count : Nat) :
    Stands (emulator.stage count) (emulator.afterFrames count) := by
  induction count with
  | zero => exact stands
  | succ count ih => exact (frame_stands law ih).behind

end Frames

section Histories

variable [Host η]

/-- The stage tells of any emulator whether it is paused, what its host was told, and in a
pause whether the tone sounds. -/
theorem stage_tells (law : Host.KeepsTone η) {emulator : Emulator η}
    (running : emulator.paused = false) (count : Nat) :
    (emulator.afterFrames count).paused = (emulator.stage count).paused ∧
      Call.toldPaused (emulator.calls count) = (emulator.stage count).told ∧
      ((emulator.stage count).paused = true →
        Host.isBeeping (emulator.afterFrames count).host = !(emulator.stage count).told) := by
  have begun : Stands .running emulator.recorded := ⟨running, rfl, nofun⟩
  have stands := stands_afterFrames (law.of_wraps Recorded.wraps_inner) begun count
  have stage : emulator.stage count = emulator.recorded.stage count :=
    stage_mapHost Recorded.wraps_inner emulator.recorded count
  rw [← emulator.inner_afterFrames_recorded count, stage]
  exact ⟨stands.paused, stands.told, stands.sounding⟩

/-- No tone sounds in a pause that did not break off. -/
theorem frame_silent_of_paused (law : Host.KeepsTone η) {emulator : Emulator η}
    (silent : emulator.paused = true → Host.isBeeping emulator.host = false)
    (whole : ¬emulator.BreaksOff) (paused : (frame emulator).2.paused = true) :
    Host.isBeeping (frame emulator).2.host = false := by
  -- The record begins as if the host had been told of the pause, if there is one.
  have begun : ∃ calls stage, stage ≠ .halfway ∧
      Stands stage (emulator.mapHost fun host => Recorded.mk host calls) := by
    cases held : emulator.paused with
    | true => exact ⟨[.showPaused true], .held, nofun, held, rfl, fun _ => silent held⟩
    | false => exact ⟨[], .running, nofun, held, rfl, nofun⟩
  obtain ⟨calls, stage, certain, stands⟩ := begun
  generalize outer : emulator.mapHost (fun host => Recorded.mk host calls) = recorded at stands
  have inner : recorded.mapHost Recorded.inner = emulator := by
    rw [← outer]
    rfl
  have same := frame_wraps Recorded.wraps_inner recorded
  rw [inner] at same
  have stands := (frame_stands (law.of_wraps Recorded.wraps_inner) stands).behind
  have whole : recorded.nextStage stage ≠ .halfway := by
    rw [ne_eq, nextStage_eq_halfway_iff, ← breaksOff_mapHost Recorded.wraps_inner, inner]
    rintro (breaksOff | ⟨_, halfway⟩)
    · exact whole breaksOff
    · exact certain halfway
  rw [same] at paused ⊢
  generalize recorded.nextStage stage = next at stands whole
  cases next with
  | running => exact absurd (stands.paused.symm.trans paused) nofun
  | held => exact stands.sounding rfl
  | halfway => exact absurd rfl whole

/-- Behind every frame, failed ones included, the host knows whether the program is
paused, and no tone sounds in a pause, unless the pause broke off when it began.  Then
the emulator is paused, the host does not know, and the tone sounds. -/
theorem pause_agrees_iff (law : Host.KeepsTone η) (settings : Settings)
    (elsewhere : RandomStream) (host : η) (sources : List ByteSource) (count : Nat) :
    let fresh := (start settings elsewhere host).loadAll sources
    let after := fresh.afterFrames count
    let told := Call.toldPaused (fresh.calls count)
    (told = after.paused ∧ (after.paused = true → Host.isBeeping after.host = false) ↔
        ¬fresh.Interrupted count) ∧
      (fresh.Interrupted count →
        after.paused = true ∧ told = false ∧ Host.isBeeping after.host = true) := by
  intro fresh after told
  have running : fresh.paused = false := paused_loadAll _ sources
  obtain ⟨paused, known, sounding⟩ := stage_tells law running count
  rw [← stage_eq_halfway_iff, paused, show told = _ from known]
  cases stage : fresh.stage count with
  | running => exact ⟨iff_of_true ⟨rfl, nofun⟩ nofun, nofun⟩
  | held =>
      rw [stage] at sounding
      exact ⟨iff_of_true ⟨rfl, sounding⟩ nofun, nofun⟩
  | halfway =>
      rw [stage] at sounding
      exact ⟨iff_of_false (fun agrees => nomatch agrees.1) fun whole => whole rfl,
        fun _ => ⟨rfl, rfl, sounding rfl⟩⟩

end Histories

end Emulator

/-- A host whose first stop of the tone fails, and a user who pauses in the second frame. -/
def stuckScript : Scripted where
  cues := [{}, { control := .togglePause }, {}]
  quitFrom := 3
  draws := ⟨[], 0⟩
  beeps := ⟨[], 0⟩
  stops := ⟨[0], 0⟩
  album := Album.empty "" none

/-- A program that starts the tone and then waits. -/
def hummingProgram : ByteSource := ByteSource.ofList [0x60, 0x05, 0xF0, 0x18, 0x12, 0x04]

/-- The second frame breaks the pause off, and the third goes to its end without mending
it. -/
theorem pause_agrees_iff_stuck :
    let fresh := (Emulator.start { stepsPerFrame := 2 } (RandomStream.cycle #[])
      stuckScript).loadAll [hummingProgram]
    (fresh.afterFrames 1).BreaksOff ∧ (fresh.afterFrames 2).Completes ∧
      (fresh.afterFrames 3).paused = true ∧ Call.toldPaused (fresh.calls 3) = false ∧
      Host.isBeeping (fresh.afterFrames 3).host = true := by
  have law := Emulator.pause_agrees_iff Scripted.keepsTone { stepsPerFrame := 2 }
    (RandomStream.cycle #[]) stuckScript [hummingProgram] 3
  generalize made : (Emulator.start { stepsPerFrame := 2 } (RandomStream.cycle #[])
    stuckScript).loadAll [hummingProgram] = fresh at law ⊢
  have facts : (fresh.afterFrames 1).BreaksOff ∧ ¬(fresh.afterFrames 2).Toggles ∧
      (fresh.afterFrames 2).Completes := by
    rw [← made]
    decide +kernel
  obtain ⟨breaksOff, goesOn, completes⟩ := facts
  have interrupted : fresh.Interrupted 3 := by
    refine ⟨1, by decide, breaksOff, fun later inside behind => ?_⟩
    obtain rfl : later = 2 := by omega
    exact goesOn
  exact ⟨breaksOff, completes, law.2 interrupted⟩

/-- So a frame that goes to its end can leave the three places apart. -/
theorem not_pause_agrees_of_completes :
    ¬∀ (settings : Settings) (elsewhere : RandomStream) (host : Scripted)
      (sources : List ByteSource) (count : Nat),
      let fresh := (Emulator.start settings elsewhere host).loadAll sources
      let after := fresh.afterFrames (count + 1)
      (fresh.afterFrames count).Completes →
        Call.toldPaused (fresh.calls (count + 1)) = after.paused ∧
          (after.paused = true → Host.isBeeping after.host = false) := by
  intro always
  have agrees := always { stepsPerFrame := 2 } (RandomStream.cycle #[]) stuckScript
    [hummingProgram] 2
  generalize made : (Emulator.start { stepsPerFrame := 2 } (RandomStream.cycle #[])
    stuckScript).loadAll [hummingProgram] = fresh at agrees
  have facts : (fresh.afterFrames 2).Completes ∧
      Call.toldPaused (fresh.calls 3) ≠ (fresh.afterFrames 3).paused := by
    rw [← made]
    decide +kernel
  obtain ⟨completes, apart⟩ := facts
  exact apart (agrees completes).1

end Chip8
