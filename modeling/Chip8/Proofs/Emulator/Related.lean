import Chip8.Proofs.Emulator.Frame

/-!
# Related emulators

Two emulators may differ in what no frame looks at: one may stand around a host that
keeps a record beside the other's, or have been told to report other things before.
Actions agree under such a relation if they give the same result and leave emulators
that are related again (`Action.Agrees`).

Where the single requests to the host agree, and a machine or a report that is put into
both emulators leaves them related, whole frames agree, failures included:
`Companions.frame`.  The report that stands in front of an emulator is such a
difference (`companions_sameButJournal`), so nothing that an emulator does depends on
what was reported before.
-/

namespace Chip8

variable {ζ η α β : Type}

namespace Action

/-- From related emulators both actions give the same result, and leave related ones. -/
def Agrees (related : Emulator ζ → Emulator η → Prop) (left : Action ζ α) (right : Action η α) :
    Prop :=
  ∀ first second, related first second →
    (left first).1 = (right second).1 ∧ related (left first).2 (right second).2

section Rules

variable {related : Emulator ζ → Emulator η → Prop}

theorem Agrees.pure (result : α) :
    Agrees related (Pure.pure result : Action ζ α) (Pure.pure result : Action η α) :=
  fun _ _ holds => ⟨rfl, holds⟩

theorem Agrees.fail (failure : Failure) :
    Agrees related (fail failure : Action ζ α) (fail failure : Action η α) :=
  fun _ _ holds => ⟨rfl, holds⟩

theorem Agrees.read {look : Emulator ζ → α} {look' : Emulator η → α}
    (same : ∀ first second, related first second → look first = look' second) :
    Agrees related (read look) (read look') :=
  fun first second holds => ⟨congrArg Except.ok (same first second holds), holds⟩

theorem Agrees.update {change : Emulator ζ → Emulator ζ} {change' : Emulator η → Emulator η}
    (kept : ∀ first second, related first second → related (change first) (change' second)) :
    Agrees related (update change) (update change') :=
  fun first second holds => ⟨rfl, kept first second holds⟩

theorem Agrees.bind {left : Action ζ α} {right : Action η α} {leftNext : α → Action ζ β}
    {rightNext : α → Action η β} (begun : Agrees related left right)
    (rest : ∀ result, Agrees related (leftNext result) (rightNext result)) :
    Agrees related (left >>= leftNext) (right >>= rightNext) := by
  intro first second holds
  obtain ⟨same, next⟩ := begun first second holds
  rw [bind_apply, bind_apply]
  generalize left first = ended at same next ⊢
  generalize right second = ended' at same next ⊢
  obtain ⟨outcome, first'⟩ := ended
  obtain ⟨outcome', second'⟩ := ended'
  obtain rfl : outcome = outcome' := same
  cases outcome with
  | ok result => exact rest result first' second' next
  | error failure => exact ⟨rfl, next⟩

theorem Agrees.when {left : Action ζ Unit} {right : Action η Unit} (condition : Bool)
    (taken : Agrees related left right) :
    Agrees related (when condition left) (when condition right) := by
  cases condition with
  | true => exact taken
  | false => exact .pure ()

end Rules

end Action

namespace Emulator

open Chip8.Action

/-! ## Frames -/

/-- The relation keeps all that a frame looks at, and every request keeps the relation. -/
structure Companions [Host ζ] [Host η] (related : Emulator ζ → Emulator η → Prop) : Prop where
  machine : ∀ first second, related first second → first.machine = second.machine
  stepsPerFrame :
    ∀ first second, related first second → first.stepsPerFrame = second.stepsPerFrame
  paused : ∀ first second, related first second → first.paused = second.paused
  isBeeping :
    ∀ first second, related first second → Host.isBeeping first.host = Host.isBeeping second.host
  withMachine : ∀ first second, related first second → ∀ machine,
    related (first.withMachine machine) (second.withMachine machine)
  withPaused : ∀ first second, related first second → ∀ paused,
    related { first with paused } { second with paused }
  counted : ∀ first second, related first second →
    related { first with frames := first.frames + 1 } { second with frames := second.frames + 1 }
  reported : ∀ first second, related first second → ∀ notices,
    related { first with journal := notices ++ first.journal }
      { second with journal := notices ++ second.journal }
  poll : Agrees related poll poll
  showScreen : Agrees related showScreen showScreen
  keepScreen : Agrees related keepScreen keepScreen
  showPaused : ∀ first second, related first second → ∀ paused,
    related { first with host := Host.showPaused paused first.host }
      { second with host := Host.showPaused paused second.host }
  beep : Agrees related (request Host.beep) (request Host.beep)
  stop : Agrees related (request Host.stop) (request Host.stop)

namespace Companions

variable [Host ζ] [Host η] {related : Emulator ζ → Emulator η → Prop}
  (companions : Companions related)

include companions

theorem note (notice : Notice) : Agrees related (note notice) (note notice) :=
  .update fun first second holds => companions.reported first second holds [notice]

theorem silence : Agrees related silence silence :=
  .bind (.read companions.isBeeping) fun sounding => .when sounding companions.stop

theorem togglePause : Agrees related togglePause togglePause := by
  refine .bind (.update fun first second holds => ?_) fun _ => ?_
  · rw [companions.paused first second holds]
    exact companions.withPaused first second holds (!second.paused)
  refine .bind (.read companions.paused) fun paused => .bind (companions.note _) fun _ => ?_
  refine .bind (.when paused companions.silence) fun _ => ?_
  exact .bind (.update fun first second holds => companions.showPaused first second holds paused)
    fun _ => companions.showScreen

theorem respond (control : Control) : Agrees related (respond control) (respond control) := by
  cases control with
  | proceed | quit => exact .pure ()
  | togglePause => exact companions.togglePause
  | screenshot =>
      refine .bind companions.keepScreen fun kept => ?_
      cases kept with
      | ok path => exact .pure ()
      | error error => exact companions.note _

theorem runBatch : Agrees related runBatch runBatch := by
  intro first second holds
  have same : first.machine.batch first.stepsPerFrame =
      second.machine.batch second.stepsPerFrame := by
    rw [companions.machine first second holds, companions.stepsPerFrame first second holds]
  rw [Emulator.runBatch, Emulator.runBatch, same]
  generalize second.machine.batch second.stepsPerFrame = batch
  have stepped := companions.withMachine first second holds batch.machine
  exact ⟨rfl, companions.reported _ _ stepped batch.notices⟩

theorem compute : Agrees related compute compute := by
  refine .bind companions.runBatch fun fault? => ?_
  cases fault? with
  | some fault =>
      exact .bind (companions.note _) fun _ => .bind companions.silence fun _ => .fail _
  | none =>
      refine .bind (.read fun first second holds => ?_) fun due => .when _ companions.silence
      rw [companions.machine first second holds]

theorem present : Agrees related present present := by
  refine .bind (.read fun first second holds => ?_) fun redraw => .when redraw ?_
  · rw [companions.machine first second holds]
  refine .bind companions.showScreen fun _ => .update fun first second holds => ?_
  rw [companions.machine first second holds]
  exact companions.withMachine first second holds second.machine.clearRedraw

theorem keepTime : Agrees related keepTime keepTime := by
  refine .bind (.read fun first second holds => ?_) fun needed => ?_
  · rw [companions.machine first second holds, companions.isBeeping first second holds]
  refine .bind (.when needed companions.beep) fun _ => .bind ?_ fun event => ?_
  · intro first second holds
    rw [tick, tick, companions.machine first second holds]
    exact ⟨rfl, companions.withMachine first second holds second.machine.tick.2⟩
  · cases event with
    | none => exact .pure ()
    | some event =>
        cases event with
        | stop => exact companions.stop

theorem finishFrame (control : Control) :
    Agrees related (finishFrame control) (finishFrame control) :=
  .bind (companions.respond control) fun _ => .bind (.read companions.paused) fun paused =>
    .bind (.when (!paused) companions.compute) fun _ => .bind companions.present fun _ =>
      .bind (.when (!paused) companions.keepTime) fun _ =>
        .bind (.update companions.counted) fun _ => .pure control

theorem frame : Agrees related frame frame := by
  refine .bind companions.poll fun control => ?_
  cases control with
  | quit => exact .pure Control.quit
  | proceed | togglePause | screenshot => exact companions.finishFrame _

theorem afterFrames {first : Emulator ζ} {second : Emulator η} (holds : related first second)
    (count : Nat) : related (first.afterFrames count) (second.afterFrames count) := by
  induction count with
  | zero => exact holds
  | succ count ih => exact (companions.frame _ _ ih).2

end Companions

/-! ## What was reported before -/

/-- The emulators differ at most in what they reported. -/
def SameButJournal (first second : Emulator η) : Prop :=
  ∃ journal, second = { first with journal }

theorem sameButJournal_request (ask : η → Except IoError Unit × η) :
    Agrees SameButJournal (request ask) (request ask) := by
  rintro first _ ⟨journal, rfl⟩
  rw [request, request]
  rcases ask first.host with ⟨outcome, host⟩
  cases outcome with
  | ok _ => exact ⟨rfl, journal, rfl⟩
  | error error => exact ⟨rfl, journal, rfl⟩

/-- No frame looks at what was reported before. -/
theorem companions_sameButJournal [Host η] :
    Companions (SameButJournal : Emulator η → Emulator η → Prop) where
  machine := by rintro first _ ⟨journal, rfl⟩; rfl
  stepsPerFrame := by rintro first _ ⟨journal, rfl⟩; rfl
  paused := by rintro first _ ⟨journal, rfl⟩; rfl
  isBeeping := by rintro first _ ⟨journal, rfl⟩; rfl
  withMachine := by rintro first _ ⟨journal, rfl⟩ machine; exact ⟨journal, rfl⟩
  withPaused := by rintro first _ ⟨journal, rfl⟩ paused; exact ⟨journal, rfl⟩
  counted := by rintro first _ ⟨journal, rfl⟩; exact ⟨journal, rfl⟩
  reported := by rintro first _ ⟨journal, rfl⟩ notices; exact ⟨notices ++ journal, rfl⟩
  poll := by
    rintro first _ ⟨journal, rfl⟩
    rw [poll, poll]
    rcases Host.poll first.machine.keypad first.host with ⟨answer, keypad, notices, host⟩
    cases answer with
    | ok control => exact ⟨rfl, _, rfl⟩
    | error error => exact ⟨rfl, _, rfl⟩
  showScreen := by
    rintro first _ ⟨journal, rfl⟩
    exact sameButJournal_request (Host.draw first.machine.screen) first _ ⟨journal, rfl⟩
  keepScreen := by
    rintro first _ ⟨journal, rfl⟩
    rw [keepScreen, keepScreen]
    rcases Host.save first.machine.screen first.host with ⟨outcome, host⟩
    cases outcome with
    | ok path => exact ⟨rfl, _, rfl⟩
    | error error => exact ⟨rfl, _, rfl⟩
  showPaused := by rintro first _ ⟨journal, rfl⟩ paused; exact ⟨journal, rfl⟩
  beep := sameButJournal_request Host.beep
  stop := sameButJournal_request Host.stop

end Emulator

end Chip8
