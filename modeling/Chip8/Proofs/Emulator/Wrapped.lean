import Chip8.Host.Recorded
import Chip8.Proofs.Emulator.Related

/-!
# Wrapped hosts

A host may stand inside another one that passes every request on to it and keeps
something beside it, such as a record of the requests.  An emulator cannot tell the
two apart: with what stands beside the inner host forgotten, a frame around the
outer one is the frame around the inner one, failures included (`frame_wraps`), and
so is every history of frames (`mapHost_afterFrames`).

So the requests that an emulator makes can be read off a recorded host:
`Emulator.calls`.
-/

namespace Chip8

open Chip8.Action

variable {ζ η α : Type}

/-- A poll with the host behind it seen from elsewhere. -/
def Polled.map (inner : ζ → η) (polled : Polled ζ) : Polled η :=
  ⟨polled.answer, polled.keypad, polled.notices, inner polled.host⟩

/-- The outer hosts pass every request on to the inner ones. -/
structure Host.Wraps [Host ζ] [Host η] (inner : ζ → η) : Prop where
  poll : ∀ keypad host, Host.poll keypad (inner host) = (Host.poll keypad host).map inner
  draw : ∀ frame host, Host.draw frame (inner host) = (Host.draw frame host).map id inner
  showPaused : ∀ paused host,
    Host.showPaused paused (inner host) = inner (Host.showPaused paused host)
  beep : ∀ host, Host.beep (inner host) = (Host.beep host).map id inner
  stop : ∀ host, Host.stop (inner host) = (Host.stop host).map id inner
  isBeeping : ∀ host, Host.isBeeping (inner host) = Host.isBeeping host
  save : ∀ frame host, Host.save frame (inner host) = (Host.save frame host).map id inner

/-- The emulator with its host seen from elsewhere. -/
def Emulator.mapHost (inner : ζ → η) (emulator : Emulator ζ) : Emulator η :=
  { machine := emulator.machine
    host := inner emulator.host
    stepsPerFrame := emulator.stepsPerFrame
    frameRate := emulator.frameRate
    paused := emulator.paused
    frames := emulator.frames
    journal := emulator.journal }

/-! ## Actions around both hosts -/

namespace Action

/-- The two actions do the same as far as the inner host shows it. -/
def Wraps (inner : ζ → η) (outer : Action ζ α) (action : Action η α) : Prop :=
  ∀ emulator, action (emulator.mapHost inner) = (outer emulator).map id (Emulator.mapHost inner)

section Rules

variable {inner : ζ → η}

theorem Wraps.request {ask : η → Except IoError Unit × η} {ask' : ζ → Except IoError Unit × ζ}
    (same : ∀ host, ask (inner host) = (ask' host).map id inner) :
    Wraps inner (request ask') (request ask) := by
  intro emulator
  have asked : ask (emulator.mapHost inner).host = (ask' emulator.host).map id inner :=
    same emulator.host
  rw [Action.request, Action.request, asked]
  rcases ask' emulator.host with ⟨outcome, host⟩
  cases outcome with
  | ok _ => rfl
  | error error => rfl

theorem Wraps.agrees {outer : Action ζ α} {action : Action η α} (wraps : Wraps inner outer action) :
    Agrees (fun first second => second = first.mapHost inner) outer action := by
  rintro first _ rfl
  rw [wraps first]
  exact ⟨rfl, rfl⟩

theorem Wraps.of_agrees {outer : Action ζ α} {action : Action η α}
    (agrees : Agrees (fun first second => second = first.mapHost inner) outer action) :
    Wraps inner outer action := by
  intro emulator
  obtain ⟨same, behind⟩ := agrees emulator _ rfl
  exact Prod.ext same.symm behind

/-- An action ends around the inner host as it does around the outer one. -/
theorem Wraps.ends {outer : Action ζ α} {action : Action η α} (wraps : Wraps inner outer action)
    {emulator : Emulator ζ} {good : α → Emulator η → Prop} {bad : Failure → Emulator η → Prop}
    (ends : outer.Ends emulator (fun result after => good result (after.mapHost inner))
      fun failure after => bad failure (after.mapHost inner)) :
    action.Ends (emulator.mapHost inner) good bad := by
  obtain ⟨result, after, ended, holds⟩ | ⟨failure, after, ended, holds⟩ := ends.cases
  · refine .of_ok ?_ holds
    rw [wraps, ended]
    rfl
  · refine .of_error ?_ holds
    rw [wraps, ended]
    rfl

end Rules

end Action

/-! ## Frames around both hosts -/

namespace Emulator

variable [Host ζ] [Host η] {inner : ζ → η} (wraps : Host.Wraps inner)

include wraps

theorem poll_wraps : Wraps inner poll poll := by
  intro emulator
  have asked : Host.poll (emulator.mapHost inner).machine.keypad (emulator.mapHost inner).host =
      (Host.poll emulator.machine.keypad emulator.host).map inner := wraps.poll _ _
  rw [poll, poll, asked]
  rcases Host.poll emulator.machine.keypad emulator.host with ⟨answer, keypad, notices, host⟩
  cases answer with
  | ok control => rfl
  | error error => rfl

theorem showScreen_wraps : Wraps inner showScreen showScreen :=
  fun emulator => Wraps.request (wraps.draw emulator.machine.screen) emulator

theorem keepScreen_wraps : Wraps inner keepScreen keepScreen := by
  intro emulator
  have asked : Host.save (emulator.mapHost inner).machine.screen (emulator.mapHost inner).host =
      (Host.save emulator.machine.screen emulator.host).map id inner := wraps.save _ _
  rw [keepScreen, keepScreen, asked]
  rcases Host.save emulator.machine.screen emulator.host with ⟨outcome, host⟩
  cases outcome with
  | ok path => rfl
  | error error => rfl

/-- The emulators around the outer and the inner host keep company. -/
theorem companions_of_wraps :
    Companions fun (outer : Emulator ζ) emulator => emulator = outer.mapHost inner where
  machine := by rintro outer _ rfl; rfl
  stepsPerFrame := by rintro outer _ rfl; rfl
  paused := by rintro outer _ rfl; rfl
  isBeeping := by rintro outer _ rfl; exact (wraps.isBeeping outer.host).symm
  withMachine := by rintro outer _ rfl machine; rfl
  withPaused := by rintro outer _ rfl paused; rfl
  counted := by rintro outer _ rfl; rfl
  reported := by rintro outer _ rfl notices; rfl
  poll := (poll_wraps wraps).agrees
  showScreen := (showScreen_wraps wraps).agrees
  keepScreen := (keepScreen_wraps wraps).agrees
  showPaused := by
    rintro outer _ rfl paused
    rw [mapHost, mapHost, wraps.showPaused]
  beep := (Wraps.request wraps.beep).agrees
  stop := (Wraps.request wraps.stop).agrees

theorem frame_wraps : Wraps inner frame frame :=
  .of_agrees (companions_of_wraps wraps).frame

theorem answer_mapHost (emulator : Emulator ζ) :
    (emulator.mapHost inner).answer = emulator.answer :=
  congrArg Polled.answer (wraps.poll emulator.machine.keypad emulator.host)

theorem polledHost_mapHost (emulator : Emulator ζ) :
    (emulator.mapHost inner).polledHost = inner emulator.polledHost :=
  congrArg Polled.host (wraps.poll emulator.machine.keypad emulator.host)

theorem mapHost_afterFrames (emulator : Emulator ζ) (count : Nat) :
    (emulator.afterFrames count).mapHost inner = (emulator.mapHost inner).afterFrames count :=
  ((companions_of_wraps wraps).afterFrames rfl count).symm

end Emulator

/-! ## Recorded hosts -/

theorem Recorded.inner_request (host : Recorded η) (ask : η → Except IoError α × η)
    (call : Bool → Call) : (host.request ask call).map id inner = ask host.inner := by
  rw [request]
  rcases ask host.inner with ⟨outcome, inner⟩
  cases outcome with
  | ok result => rfl
  | error error => rfl

theorem Recorded.calls_of_request {host after : Recorded η}
    {ask : η → Except IoError α × η} {call : Bool → Call} {outcome : Except IoError α}
    (asked : host.request ask call = (outcome, after)) :
    after.calls = call outcome.isOk :: host.calls := by
  rw [request] at asked
  split at asked <;> cases asked <;> rfl

/-- What holds of the record behind a request holds whether it succeeded or not. -/
theorem Recorded.request_ends {emulator : Emulator (Recorded η)} {ask : η → Except IoError Unit × η}
    {call : Bool → Call} {holds : Emulator (Recorded η) → Prop}
    (kept : ∀ met host, host.calls = call met :: emulator.host.calls → holds { emulator with host }) :
    (Action.request fun host : Recorded η => host.request ask call).Ends emulator
      (fun _ => holds) (fun _ => holds) :=
  .asked (fun host asked => kept true host (calls_of_request asked))
    fun _ host asked => kept false host (calls_of_request asked)

variable [Host η]

/-- A record is only kept. -/
theorem Recorded.wraps_inner : Host.Wraps (inner : Recorded η → η) where
  poll _ _ := rfl
  draw _ host := (inner_request host _ _).symm
  showPaused _ _ := rfl
  beep host := (inner_request host _ _).symm
  stop host := (inner_request host _ _).symm
  isBeeping _ := rfl
  save _ host := (inner_request host _ _).symm

namespace Emulator

/-- The emulator with a record kept of its requests from here on. -/
def recorded (emulator : Emulator η) : Emulator (Recorded η) := emulator.mapHost Recorded.start

/-- The requests made in a number of frames, newest first. -/
def calls (emulator : Emulator η) (count : Nat) : List Call :=
  (emulator.recorded.afterFrames count).host.calls

theorem inner_afterFrames_recorded (emulator : Emulator η) (count : Nat) :
    (emulator.recorded.afterFrames count).mapHost Recorded.inner = emulator.afterFrames count :=
  mapHost_afterFrames Recorded.wraps_inner emulator.recorded count

/-- A record changes no result. -/
theorem frame_recorded (emulator : Emulator η) (count : Nat) :
    (frame (emulator.afterFrames count)).1 =
      (frame (emulator.recorded.afterFrames count)).1 := by
  rw [← inner_afterFrames_recorded]
  exact congrArg Prod.fst (frame_wraps Recorded.wraps_inner _)

end Emulator

end Chip8
