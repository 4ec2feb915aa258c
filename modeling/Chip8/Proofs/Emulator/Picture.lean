import Chip8.Host.Scripted
import Chip8.Proofs.Emulator.Wrapped
import Chip8.Proofs.Machine.Screen

/-!
# No picture is lost

Where nothing is left to be shown, the screen that was shown last is the screen of
the machine (`Faithful`).  The flag that keeps this true is raised by the two
instructions that draw, and taken down only behind a screen that was shown; so every
frame keeps it, whatever fails in it, and a frame that goes to its end leaves nothing
to be shown.  A frame that has nothing to show and draws nothing shows nothing:
`picture_never_lost`.
-/

namespace Chip8

open Chip8.Action

namespace Call

/-- Whether a request was to show a screen. -/
def isDraw : Call → Bool
  | .draw _ _ => true
  | _ => false

/-- The requests to show a screen. -/
def draws (calls : List Call) : List Call := calls.filter isDraw

/-- The screen that was shown last, with the requests from the newest on. -/
def shown : (calls : List Call) → Framebuffer
  | [] => Framebuffer.blank
  | .draw frame true :: _ => frame
  | _ :: earlier => shown earlier
termination_by structural calls => calls

theorem shown_draws (calls : List Call) : shown (draws calls) = shown calls := by
  induction calls with
  | nil => rfl
  | cons call earlier ih =>
      cases call with
      | draw frame met =>
          cases met with
          | true => rfl
          | false => exact ih
      | poll _ | showPaused _ | beep _ | stop _ | save _ _ => exact ih

end Call

namespace Emulator

variable {η : Type}

section Fresh

variable (emulator : Emulator η)

theorem sameScreen_load (source : ByteSource) :
    emulator.machine.SameScreen (emulator.load source).2.machine := by
  have same : emulator.machine.SameScreen (emulator.machine.loadFrom source).2.1 := by
    rw [Machine.loadFrom]
    split <;> exact .refl _
  exact same

theorem sameScreen_loadAll (sources : List ByteSource) :
    emulator.machine.SameScreen (emulator.loadAll sources).machine := by
  induction sources generalizing emulator with
  | nil => exact .refl _
  | cons source rest ih => exact (sameScreen_load emulator source).trans (ih _)

end Fresh

/-- Nothing was drawn on the screen, and no screen was shown or refused. -/
def Undrawn (before after : Emulator (Recorded η)) : Prop :=
  before.machine.SameScreen after.machine ∧
    Call.draws after.host.calls = Call.draws before.host.calls

/-- Where nothing is left to be shown, the screen is the one shown last. -/
def Faithful (emulator : Emulator (Recorded η)) : Prop :=
  emulator.machine.redraw = false → Call.shown emulator.host.calls = emulator.machine.screen

/-- Nothing is left to be shown. -/
def Presented (emulator : Emulator (Recorded η)) : Prop :=
  emulator.machine.redraw = false ∧ Call.shown emulator.host.calls = emulator.machine.screen

section Relations

variable {first second third : Emulator (Recorded η)}

theorem Undrawn.refl (emulator : Emulator (Recorded η)) : Undrawn emulator emulator :=
  ⟨.refl _, rfl⟩

theorem Undrawn.trans (before : Undrawn first second) (after : Undrawn second third) :
    Undrawn first third :=
  ⟨before.1.trans after.1, after.2.trans before.2⟩

theorem Undrawn.shown (undrawn : Undrawn first second) :
    Call.shown second.host.calls = Call.shown first.host.calls := by
  rw [← Call.shown_draws, undrawn.2, Call.shown_draws]

theorem Faithful.of_undrawn (faithful : Faithful first) (undrawn : Undrawn first second) :
    Faithful second := by
  intro clear
  rw [undrawn.shown, undrawn.1.1]
  exact faithful (undrawn.1.2.symm.trans clear)

theorem Presented.of_undrawn (presented : Presented first) (undrawn : Undrawn first second) :
    Presented second := by
  refine ⟨undrawn.1.2.trans presented.1, ?_⟩
  rw [undrawn.shown, undrawn.1.1]
  exact presented.2

theorem Presented.faithful (presented : Presented first) : Faithful first :=
  fun _ => presented.2

/-- Behind an emulator that drew nothing, an action that draws nothing has drawn nothing. -/
theorem Undrawn.ends {α : Type} {action : Action (Recorded η) α} (undrawn : Undrawn first second)
    (ends : action.Ends second (fun _ => Undrawn second) fun _ => Undrawn second) :
    action.Ends second (fun _ => Undrawn first) (fun _ => Undrawn first) :=
  ends.imp (fun _ _ => undrawn.trans) fun _ _ => undrawn.trans

theorem Faithful.ends {α : Type} {action : Action (Recorded η) α} (faithful : Faithful first)
    (ends : action.Ends first (fun _ => Undrawn first) fun _ => Undrawn first) :
    action.Ends first (fun _ => Faithful) (fun _ => Faithful) :=
  ends.imp (fun _ _ => faithful.of_undrawn) fun _ _ => faithful.of_undrawn

end Relations

variable [Host η] {emulator : Emulator (Recorded η)}

/-! ## Actions that show nothing -/

omit [Host η] in
theorem request_undrawn {ask : η → Except IoError Unit × η} {call : Bool → Call}
    (other : ∀ met, (call met).isDraw = false) :
    (request fun host : Recorded η => host.request ask call).Ends emulator
      (fun _ => Undrawn emulator) (fun _ => Undrawn emulator) := by
  refine Recorded.request_ends fun met host calls => ⟨.refl _, ?_⟩
  change Call.draws host.calls = _
  rw [calls, Call.draws, List.filter_cons_of_neg (by simp [other])]
  rfl

theorem silence_undrawn :
    silence.Ends emulator (fun _ => Undrawn emulator) (fun _ => Undrawn emulator) :=
  silence_rule (fun _ => .refl emulator) fun _ => request_undrawn fun _ => rfl

theorem keepTime_undrawn :
    keepTime.Ends emulator (fun _ => Undrawn emulator) (fun _ => Undrawn emulator) := by
  refine keepTime_rule (Undrawn emulator) (fun _ => .refl emulator)
    (fun _ _ => request_undrawn fun _ => rfl) ?_ ?_
  · intro after undrawn _
    exact undrawn.trans ⟨⟨rfl, rfl⟩, rfl⟩
  · intro after undrawn _
    have ticked : Undrawn emulator { after with machine := after.machine.tick.2 } :=
      undrawn.trans ⟨⟨rfl, rfl⟩, rfl⟩
    exact ticked.ends (request_undrawn fun _ => rfl)

theorem present_undrawn (clear : emulator.machine.redraw = false) :
    present.Ends emulator (fun _ => Undrawn emulator) (fun _ => Undrawn emulator) := by
  refine present_rule (fun _ => .refl emulator) ?_ ?_
  · intro host redraw
    rw [redraw] at clear
    cases clear
  · intro error host redraw
    rw [redraw] at clear
    cases clear

/-- Steps that execute no drawing instruction draw nothing. -/
theorem compute_undrawn (still : ∀ time < emulator.stepsPerFrame, ∀ machine,
      emulator.machine.steps time = (none, machine) → ¬machine.AtDrawing) :
    compute.Ends emulator (fun _ => Undrawn emulator) (fun _ => Undrawn emulator) := by
  have same := Machine.sameScreen_steps still
  have stepped : ∀ {fault? : Option Fault} {machine : Machine} (journal : List Notice),
      emulator.machine.steps emulator.stepsPerFrame = (fault?, machine) →
        Undrawn emulator { emulator with machine, journal } := by
    intro fault? machine journal stepped
    rw [stepped] at same
    exact ⟨same, rfl⟩
  exact compute_rule (fun _ journal ended _ => stepped journal ended)
    (fun _ journal ended _ => (stepped journal ended).ends silence_undrawn)
    (fun _ _ journal ended => (stepped journal ended).ends silence_undrawn)

theorem keepScreen_undrawn (journal : List Notice) :
    Undrawn emulator { emulator with
      host := (Host.save emulator.machine.screen emulator.host).2
      journal } := by
  refine ⟨.refl _, ?_⟩
  rcases saved : Host.save emulator.machine.screen emulator.host with ⟨outcome, host⟩
  exact (congrArg Call.draws (Recorded.calls_of_request saved)).trans rfl

theorem poll_undrawn (journal : List Notice) :
    Undrawn emulator
      { emulator with machine := emulator.polledMachine, host := emulator.polledHost, journal } :=
  ⟨⟨rfl, rfl⟩, rfl⟩

/-! ## Frames -/

theorem showScreen_ends_presented :
    showScreen.Ends emulator
      (fun _ after => after.machine = emulator.machine ∧
        Call.shown after.host.calls = emulator.machine.screen)
      (fun _ after => after.machine = emulator.machine ∧
        Call.shown after.host.calls = Call.shown emulator.host.calls) := by
  refine showScreen_rule ?_ ?_
  · intro host drawn
    exact ⟨rfl, congrArg Call.shown (Recorded.calls_of_request drawn)⟩
  · intro error host refused
    exact ⟨rfl, (congrArg Call.shown (Recorded.calls_of_request refused)).trans rfl⟩

theorem togglePause_faithful (faithful : Faithful emulator) :
    togglePause.Ends emulator (fun _ => Faithful) (fun _ => Faithful) := by
  refine togglePause_rule Faithful (fun _ _ => faithful) ?_ ?_
  · intro journal _
    have paused : Faithful { emulator with paused := true, journal } := faithful
    exact paused.ends silence_undrawn
  · intro after faithful
    refine showScreen_ends_presented.imp ?_ ?_
    · rintro _ last ⟨same, shown⟩ _
      rw [shown, same]
    · rintro _ last ⟨same, shown⟩ clear
      rw [shown, same]
      exact faithful (by rwa [same] at clear)

theorem respond_faithful (control : Control) (faithful : Faithful emulator) :
    (respond control).Ends emulator (fun _ => Faithful) (fun _ => Faithful) := by
  refine respond_rule (fun _ _ => faithful) (fun _ => togglePause_faithful faithful) ?_
  intro journal _
  exact faithful.of_undrawn (keepScreen_undrawn journal)

omit [Host η] in
theorem faithful_of_steps (faithful : Faithful emulator) {fault? : Option Fault}
    {machine : Machine}
    (stepped : emulator.machine.steps emulator.stepsPerFrame = (fault?, machine))
    (journal : List Notice) : Faithful { emulator with machine, journal } := by
  have drawn := emulator.machine.redraw_or_sameScreen_steps emulator.stepsPerFrame
  rw [stepped] at drawn
  intro clear
  obtain redraw | same := drawn
  · rw [redraw] at clear
    cases clear
  · exact faithful.of_undrawn ⟨same, rfl⟩ clear

theorem compute_faithful (faithful : Faithful emulator) :
    compute.Ends emulator (fun _ => Faithful) (fun _ => Faithful) := by
  refine compute_rule ?_ ?_ ?_
  · intro machine journal stepped _
    exact faithful_of_steps faithful stepped journal
  · intro machine journal stepped _
    exact (faithful_of_steps faithful stepped journal).ends silence_undrawn
  · intro fault machine journal stepped
    exact (faithful_of_steps faithful stepped journal).ends silence_undrawn

/-- The flag is taken down only behind a screen that was shown. -/
theorem present_presented (faithful : Faithful emulator) :
    present.Ends emulator (fun _ => Presented) (fun _ => Faithful) := by
  refine present_rule ?_ ?_ ?_
  · intro clear
    exact ⟨clear, faithful clear⟩
  · intro host _ drawn
    exact ⟨rfl, congrArg Call.shown (Recorded.calls_of_request drawn)⟩
  · intro error host redraw _ clear
    rw [redraw] at clear
    cases clear

theorem frame_faithful (faithful : Faithful emulator) :
    frame.Ends emulator
      (fun control after => Faithful after ∧ (control ≠ .quit → after.machine.redraw = false))
      (fun _ => Faithful) := by
  refine frame_rule ?_ ?_ ?_
  · intro error journal _
    exact faithful.of_undrawn (poll_undrawn journal)
  · intro journal _
    exact ⟨faithful.of_undrawn (poll_undrawn journal), fun stays => absurd rfl stays⟩
  · intro control journal _ _
    refine finishFrame_rule Faithful Faithful Presented Presented
      (respond_faithful control (faithful.of_undrawn (poll_undrawn journal)))
      (fun _ faithful _ => present_presented faithful)
      (fun _ faithful _ => compute_faithful faithful)
      (fun _ faithful => present_presented faithful) ?_ ?_
    · intro after presented
      exact keepTime_undrawn.imp (fun _ _ => presented.of_undrawn)
        fun _ _ undrawn => (presented.of_undrawn undrawn).faithful
    · intro after presented
      exact ⟨presented.faithful, fun _ => presented.1⟩

/-- Unless it fails before, the next frame executes the instruction at which this
machine stands. -/
def Executes {ζ : Type} [Host ζ] (emulator : Emulator ζ) (machine : Machine) : Prop :=
  ∃ control, emulator.answer = .ok control ∧ control ≠ .quit ∧
    (emulator.paused ^^ decide (control = .togglePause)) = false ∧
    ∃ time < emulator.stepsPerFrame, emulator.polledMachine.steps time = (none, machine)

/-- A frame that has nothing to show and draws nothing shows nothing. -/
theorem frame_undrawn (goesOn : emulator.answer ≠ .ok .togglePause)
    (clear : emulator.machine.redraw = false)
    (still : ∀ machine, emulator.Executes machine → ¬machine.AtDrawing) :
    frame.Ends emulator (fun _ => Undrawn emulator) (fun _ => Undrawn emulator) := by
  refine frame_rule (fun _ journal _ => poll_undrawn journal)
    (fun journal _ => poll_undrawn journal) ?_
  intro control journal answered stays
  have plain : control ≠ .togglePause := by
    rintro rfl
    exact goesOn answered
  have presented : ∀ after, Undrawn emulator after →
      present.Ends after (fun _ => Undrawn emulator) (fun _ => Undrawn emulator) := by
    intro after undrawn
    exact undrawn.ends (present_undrawn (undrawn.1.2.trans clear))
  refine finishFrame_rule
    (fun after => Undrawn emulator after ∧ after.machine = emulator.polledMachine ∧
      after.stepsPerFrame = emulator.stepsPerFrame ∧ after.paused = emulator.paused)
    (Undrawn emulator) (Undrawn emulator) (Undrawn emulator)
    ?_ (fun after heard _ => presented after heard.1) ?_ presented ?_ (fun _ undrawn => undrawn)
  · refine respond_rule ?_ (fun toggles => absurd toggles plain) ?_
    · intro _ _
      exact ⟨poll_undrawn journal, rfl, rfl, rfl⟩
    · intro journal' _
      exact ⟨(poll_undrawn journal).trans (keepScreen_undrawn journal'), rfl, rfl, rfl⟩
  · -- The instructions that this frame executes are the ones that the premise is about.
    rintro after ⟨undrawn, machine, steps, paused⟩ running
    refine undrawn.ends (compute_undrawn fun time inside during reached => ?_)
    rw [steps] at inside
    rw [machine] at reached
    rw [paused] at running
    refine still during ⟨control, answered, stays, ?_, time, inside, reached⟩
    rw [running, decide_eq_false plain]
    rfl
  · intro after undrawn
    exact undrawn.ends keepTime_undrawn

/-! ## Histories of frames -/

theorem faithful_afterFrames (faithful : Faithful emulator) (count : Nat) :
    Faithful (emulator.afterFrames count) :=
  afterFrames_induction Faithful
    (fun _ faithful => Ends.behind
      ((frame_faithful faithful).weaken fun _ _ holds => holds.1)) faithful count

/-- The emulator from its first frame on, whatever fails.  Behind a frame that leaves
nothing to be shown, the screen shown last is the screen of the machine; and a frame
that goes to its end leaves nothing to be shown.  A frame shows no screen where it
finds nothing to show, begins and ends no pause, and executes neither `00E0` nor
`DXYN`. -/
theorem picture_never_lost (settings : Settings) (elsewhere : RandomStream) (host : η)
    (sources : List ByteSource) (count : Nat) :
    let fresh := (start settings elsewhere host).loadAll sources
    let before := fresh.afterFrames count
    let after := fresh.afterFrames (count + 1)
    let shown := Call.shown (fresh.calls (count + 1))
    (after.machine.redraw = false → shown = after.machine.screen) ∧
      (before.Completes → after.machine.redraw = false ∧ shown = after.machine.screen) ∧
      (before.answer ≠ .ok .togglePause → before.machine.redraw = false →
        (∀ machine, before.Executes machine → ¬machine.AtDrawing) →
        ∀ call ∈ before.calls 1, call.isDraw = false) := by
  intro fresh before after shown
  have blank : Faithful fresh.recorded := by
    intro _
    exact ((start settings elsewhere host).sameScreen_loadAll sources).1.symm
  have faithful := faithful_afterFrames blank
  have machine : (fresh.recorded.afterFrames (count + 1)).machine = after.machine :=
    congrArg Emulator.machine (fresh.inner_afterFrames_recorded (count + 1))
  have kept : after.machine.redraw = false → shown = after.machine.screen := by
    rw [← machine]
    exact faithful (count + 1)
  refine ⟨kept, ?_, ?_⟩
  · rintro ⟨control, completed, stays⟩
    have recorded := (fresh.frame_recorded count).symm.trans completed
    have clear : after.machine.redraw = false := by
      rw [← machine]
      exact ((frame_faithful (faithful count)).of_result recorded).2 stays
    exact ⟨clear, kept clear⟩
  · intro goesOn clear still
    have undrawn : Undrawn before.recorded (frame before.recorded).2 :=
      (frame_undrawn goesOn clear still).behind
    intro call made
    exact Bool.eq_false_iff.mpr (List.filter_eq_nil_iff.mp undrawn.2 call made)

end Emulator

/-- A host whose first two requests to show a screen fail. -/
def blindScript : Scripted where
  cues := [{}, { control := .togglePause }, {}, { control := .togglePause }]
  quitFrom := 4
  draws := ⟨[0, 1], 0⟩
  beeps := ⟨[], 0⟩
  stops := ⟨[], 0⟩
  album := Album.empty "" none

/-- A program that draws a zero and then waits. -/
def drawingProgram : ByteSource := ByteSource.ofList [0xD0, 0x05, 0x12, 0x02]

/-- The zero is drawn in the first frame, and shown in the third. -/
theorem picture_never_lost_blind :
    let fresh := (Emulator.start { stepsPerFrame := 2 } (RandomStream.cycle #[])
      blindScript).loadAll [drawingProgram]
    (fresh.afterFrames 2).machine.redraw = true ∧ (fresh.afterFrames 2).Completes ∧
      (fresh.afterFrames 3).machine.screen.litCount = 14 ∧
      Call.shown (fresh.calls 3) = (fresh.afterFrames 3).machine.screen := by
  have law := Emulator.picture_never_lost { stepsPerFrame := 2 } (RandomStream.cycle #[])
    blindScript [drawingProgram] 2
  generalize made : (Emulator.start { stepsPerFrame := 2 } (RandomStream.cycle #[])
    blindScript).loadAll [drawingProgram] = fresh at law ⊢
  have facts : (fresh.afterFrames 2).machine.redraw = true ∧ (fresh.afterFrames 2).Completes ∧
      (fresh.afterFrames 3).machine.screen.litCount = 14 := by
    rw [← made]
    decide +kernel
  obtain ⟨drawn, completes, lit⟩ := facts
  obtain ⟨_, shown, _⟩ := law
  exact ⟨drawn, completes, lit, (shown completes).2⟩

end Chip8
