import Chip8.Proofs.Emulator.Refinement
import Chip8.Proofs.Emulator.Wrapped
import Mathlib.Data.List.Chain

/-!
# The tone follows the sound timer

A sink sounds from a start that succeeds to a stop that succeeds (`Host.KeepsTone`).
Around such a sink an emulator never starts a tone that sounds and never stops one
that does not, in whatever state a frame begins and whatever fails in it.  A frame that
goes to its end leaves the tone sounding just where the sound timer runs, unless it
leaves the program paused: `tone_follows_timer`.

The one stop that is not guarded stands behind the tick that takes the timer to zero.
It is in order since the tone was started in front of the tick, if it did not sound
before: `keepTime_orderly`.
-/

namespace Chip8

open Chip8.Action

variable {ζ η : Type}

/-- The sink sounds from a start that succeeds to a stop that succeeds, and nothing
else changes that. -/
structure Host.KeepsTone (η : Type) [Host η] : Prop where
  poll : ∀ keypad (host : η), Host.isBeeping (Host.poll keypad host).host = Host.isBeeping host
  draw : ∀ frame (host : η), Host.isBeeping (Host.draw frame host).2 = Host.isBeeping host
  showPaused : ∀ paused (host : η),
    Host.isBeeping (Host.showPaused paused host) = Host.isBeeping host
  save : ∀ frame (host : η), Host.isBeeping (Host.save frame host).2 = Host.isBeeping host
  begun : ∀ {host after : η}, Host.beep host = (.ok (), after) → Host.isBeeping after = true
  notBegun : ∀ {host after : η} {error}, Host.beep host = (.error error, after) →
    Host.isBeeping after = Host.isBeeping host
  ended : ∀ {host after : η}, Host.stop host = (.ok (), after) → Host.isBeeping after = false
  notEnded : ∀ {host after : η} {error}, Host.stop host = (.error error, after) →
    Host.isBeeping after = Host.isBeeping host

/-- A host around such a sink is such a sink. -/
theorem Host.KeepsTone.of_wraps [Host ζ] [Host η] {inner : ζ → η} (law : Host.KeepsTone η)
    (wraps : Host.Wraps inner) : Host.KeepsTone ζ where
  poll keypad host := by
    have same := law.poll keypad (inner host)
    rw [wraps.poll, wraps.isBeeping] at same
    exact (wraps.isBeeping _).symm.trans same
  draw frame host := by
    have same := law.draw frame (inner host)
    rw [wraps.draw, wraps.isBeeping] at same
    exact (wraps.isBeeping _).symm.trans same
  showPaused paused host := by
    have same := law.showPaused paused (inner host)
    rwa [wraps.showPaused, wraps.isBeeping, wraps.isBeeping] at same
  save frame host := by
    have same := law.save frame (inner host)
    rw [wraps.save, wraps.isBeeping] at same
    exact (wraps.isBeeping _).symm.trans same
  begun {host after} asked := by
    have asked' : Host.beep (inner host) = (.ok (), inner after) := by
      rw [wraps.beep, asked]
      rfl
    exact (wraps.isBeeping after).symm.trans (law.begun asked')
  notBegun {host after error} asked := by
    have asked' : Host.beep (inner host) = (.error error, inner after) := by
      rw [wraps.beep, asked]
      rfl
    have same := law.notBegun asked'
    rwa [wraps.isBeeping, wraps.isBeeping] at same
  ended {host after} asked := by
    have asked' : Host.stop (inner host) = (.ok (), inner after) := by
      rw [wraps.stop, asked]
      rfl
    exact (wraps.isBeeping after).symm.trans (law.ended asked')
  notEnded {host after error} asked := by
    have asked' : Host.stop (inner host) = (.error error, inner after) := by
      rw [wraps.stop, asked]
      rfl
    have same := law.notEnded asked'
    rwa [wraps.isBeeping, wraps.isBeeping] at same

/-! ## Overheard hosts -/

/-- A request about the tone. -/
structure ToneRequest where
  /-- Whether it was to start the tone, and not to stop it. -/
  starts : Bool
  /-- Whether the tone sounded when it was made. -/
  sounding : Bool
  /-- Whether it succeeded. -/
  met : Bool

/-- A host with a record of the requests about its tone, newest first. -/
structure Overheard (η : Type) where
  inner : η
  requests : List ToneRequest

namespace Overheard

variable [Host η]

/-- A host with nothing recorded. -/
def start (inner : η) : Overheard η := ⟨inner, []⟩

/-- A request about the tone that is recorded. -/
def ask (host : Overheard η) (starts : Bool) (request : η → Except IoError Unit × η) :
    Except IoError Unit × Overheard η :=
  match request host.inner with
  | (outcome, inner) =>
      (outcome, ⟨inner, ⟨starts, Host.isBeeping host.inner, outcome.isOk⟩ :: host.requests⟩)

instance : Host (Overheard η) where
  poll keypad host := (Host.poll keypad host.inner).map fun inner => { host with inner }
  draw frame host := (Host.draw frame host.inner).map id fun inner => { host with inner }
  showPaused paused host := { host with inner := Host.showPaused paused host.inner }
  beep host := host.ask true Host.beep
  stop host := host.ask false Host.stop
  isBeeping host := Host.isBeeping host.inner
  save frame host := (Host.save frame host.inner).map id fun inner => { host with inner }

theorem wraps_inner : Host.Wraps (inner : Overheard η → η) where
  poll _ _ := rfl
  draw _ _ := rfl
  showPaused _ _ := rfl
  beep _ := rfl
  stop _ := rfl
  isBeeping _ := rfl
  save _ _ := rfl

theorem requests_of_ask {host after : Overheard η} {starts : Bool}
    {request : η → Except IoError Unit × η} {outcome : Except IoError Unit}
    (asked : host.ask starts request = (outcome, after)) :
    after.requests = ⟨starts, Host.isBeeping host, outcome.isOk⟩ :: host.requests := by
  cases asked
  rfl

end Overheard

/-- What became of a tone, oldest first: whether it sounded at first, and then every
start and stop that succeeded. -/
def ToneRequest.changes (before : Bool) (requests : List ToneRequest) : List Bool :=
  before :: ((requests.filter ToneRequest.met).map ToneRequest.starts).reverse

theorem ToneRequest.changes_cons (before : Bool) (request : ToneRequest)
    (earlier : List ToneRequest) :
    changes before (request :: earlier) =
      if request.met then changes before earlier ++ [request.starts]
      else changes before earlier := by
  rw [changes, List.filter_cons]
  split
  · rw [List.map_cons, List.reverse_cons, ← List.cons_append, changes]
  · rfl

/-! ## Requests in order -/

/-- Every tone was started in silence and stopped while it sounded.  So the starts and
stops that succeeded took turns, and the last of them tells whether the tone sounds. -/
structure Overheard.Orderly [Host η] (before : Bool) (host : Overheard η) : Prop where
  timely : ∀ request ∈ host.requests, request.sounding = !request.starts
  takesTurns : (ToneRequest.changes before host.requests).IsChain (· ≠ ·)
  last : (ToneRequest.changes before host.requests).getLast? = some (Host.isBeeping host)

namespace Overheard.Orderly

variable [Host η] {before : Bool} {host after : Overheard η}

theorem start (host : η) : Orderly (Host.isBeeping host) (Overheard.start host) where
  timely _ among := absurd among List.not_mem_nil
  takesTurns := .singleton _
  last := rfl

/-- Nothing but a request about the tone disturbs the order. -/
theorem of_same (orderly : Orderly before host) (requests : after.requests = host.requests)
    (sounding : Host.isBeeping after = Host.isBeeping host) : Orderly before after where
  timely := requests ▸ orderly.timely
  takesTurns := requests ▸ orderly.takesTurns
  last := by rw [requests, sounding, orderly.last]

/-- A start in silence and a stop of a tone that sounds are in order, whether they
succeed or not. -/
theorem of_ask (orderly : Orderly before host) {starts : Bool}
    {request : η → Except IoError Unit × η} {outcome : Except IoError Unit}
    (asked : host.ask starts request = (outcome, after))
    (timely : Host.isBeeping host = !starts)
    (sounding : Host.isBeeping after =
      if outcome.isOk then starts else Host.isBeeping host) :
    Orderly before after := by
  have requests := requests_of_ask asked
  constructor
  · intro request among
    rw [requests] at among
    obtain rfl | earlier := List.mem_cons.mp among
    · exact timely
    · exact orderly.timely request earlier
  · rw [requests, ToneRequest.changes_cons]
    split
    · refine List.isChain_append.mpr ⟨orderly.takesTurns, .singleton _, ?_⟩
      intro previous isLast next isNext
      rw [orderly.last, Option.mem_some_iff] at isLast
      cases isNext
      rw [← isLast, timely]
      simp
    · exact orderly.takesTurns
  · rw [requests, ToneRequest.changes_cons, sounding]
    split
    · exact List.getLast?_concat
    · exact orderly.last

variable (law : Host.KeepsTone (Overheard η))

include law

theorem beep (orderly : Orderly before host) (silent : Host.isBeeping host = false)
    {outcome : Except IoError Unit} (asked : Host.beep host = (outcome, after)) :
    Orderly before after := by
  refine orderly.of_ask asked silent ?_
  cases outcome with
  | ok _ => exact law.begun asked
  | error error => exact law.notBegun asked

theorem stop (orderly : Orderly before host) (sounding : Host.isBeeping host = true)
    {outcome : Except IoError Unit} (asked : Host.stop host = (outcome, after)) :
    Orderly before after := by
  refine orderly.of_ask asked sounding ?_
  cases outcome with
  | ok _ => exact law.ended asked
  | error error => exact law.notEnded asked

end Overheard.Orderly

namespace Machine

theorem toneDue_tick {machine : Machine} (goesOn : machine.sound ≠ 1) :
    machine.tick.2.toneDue = machine.toneDue := by
  rw [toneDue, toneDue, tick]
  by_cases spent : machine.sound = 0
  · simp [spent]
  · have lower : machine.sound - 1 ≠ 0 := fun zero => goesOn (UInt8.sub_eq_iff_eq_add.mp zero)
    rw [bne_iff_ne.mpr spent]
    simpa [spent] using lower

theorem toneDue_of_last {machine : Machine} (last : machine.sound = 1) :
    machine.toneDue = true ∧ machine.tick.2.toneDue = false := by
  rw [toneDue, toneDue, tick, last]
  exact ⟨rfl, rfl⟩

end Machine

/-! ## Frames -/

namespace Emulator

open Overheard

variable [Host η] {before : Bool} {emulator : Emulator (Overheard η)}

/-- The requests about the tone made in a number of frames, newest first. -/
def toneRequests (emulator : Emulator η) (count : Nat) : List ToneRequest :=
  ((emulator.mapHost Overheard.start).afterFrames count).host.requests

/-- A frame that fails leaves the requests in order, and no tone behind a fault. -/
def Failed (before : Bool) (failure : Failure) (after : Emulator (Overheard η)) : Prop :=
  Orderly before after.host ∧
    ∀ fault, failure = .fault fault → Host.isBeeping after.host = false

/-- The tone sounds where it is due, and nowhere else. -/
def Tuned (before : Bool) (emulator : Emulator (Overheard η)) : Prop :=
  Orderly before emulator.host ∧ Host.isBeeping emulator.host = emulator.machine.toneDue

theorem Failed.refused {error : IoError} (orderly : Orderly before emulator.host) :
    Failed before (.host error) emulator :=
  ⟨orderly, nofun⟩

variable (law : Host.KeepsTone (Overheard η))

include law

theorem silence_orderly (orderly : Orderly before emulator.host) :
    silence.Ends emulator
      (fun _ after => Orderly before after.host ∧ Host.isBeeping after.host = false)
      (Failed before) := by
  refine silence_rule (fun silent => ⟨orderly, silent⟩) fun sounding => .asked ?_ ?_
  · intro host asked
    exact ⟨orderly.stop law sounding asked, law.ended asked⟩
  · intro error host asked
    exact .refused (orderly.stop law sounding asked)

theorem draw_orderly (orderly : Orderly before emulator.host) {outcome : Except IoError Unit}
    {host : Overheard η}
    (drawn : Host.draw emulator.machine.screen emulator.host = (outcome, host)) :
    Orderly before host ∧ Host.isBeeping host = Host.isBeeping emulator.host := by
  have sounding := law.draw emulator.machine.screen emulator.host
  rw [drawn] at sounding
  refine ⟨orderly.of_same ?_ sounding, sounding⟩
  cases drawn
  rfl

theorem showScreen_orderly (orderly : Orderly before emulator.host) :
    showScreen.Ends emulator (fun _ after => Orderly before after.host) (Failed before) :=
  showScreen_rule (fun _ drawn => (draw_orderly law orderly drawn).1)
    fun _ _ refused => .refused (draw_orderly law orderly refused).1

theorem togglePause_orderly (orderly : Orderly before emulator.host) :
    togglePause.Ends emulator (fun _ after => Orderly before after.host) (Failed before) := by
  refine togglePause_rule (fun after => Orderly before after.host) (fun _ _ => orderly) ?_ ?_
  · intro journal _
    have paused : Orderly before { emulator with paused := true, journal }.host := orderly
    exact (silence_orderly law paused).weaken fun _ _ => And.left
  · intro after orderly
    have shown : Orderly before
        { after with host := Host.showPaused (!emulator.paused) after.host }.host :=
      orderly.of_same rfl (law.showPaused _ after.host)
    exact showScreen_orderly law shown

theorem respond_orderly (control : Control) (orderly : Orderly before emulator.host) :
    (respond control).Ends emulator (fun _ after => Orderly before after.host)
      (Failed before) := by
  refine respond_rule (fun _ _ => orderly) (fun _ => togglePause_orderly law orderly) ?_
  intro journal _
  exact orderly.of_same rfl (law.save emulator.machine.screen emulator.host)

/-- Behind the steps no tone sounds that is not due. -/
theorem compute_orderly (orderly : Orderly before emulator.host) :
    compute.Ends emulator
      (fun _ after => Orderly before after.host ∧
        (after.machine.toneDue = false → Host.isBeeping after.host = false))
      (Failed before) := by
  refine compute_rule ?_ ?_ ?_
  · intro machine journal _ due
    refine ⟨orderly, fun spent => ?_⟩
    rw [due] at spent
    cases spent
  · intro machine journal _ _
    have stepped : Orderly before { emulator with machine, journal }.host := orderly
    exact (silence_orderly law stepped).weaken fun _ _ holds => ⟨holds.1, fun _ => holds.2⟩
  · intro fault machine journal _
    have stepped : Orderly before { emulator with machine, journal }.host := orderly
    exact (silence_orderly law stepped).weaken fun _ _ holds => ⟨holds.1, fun _ _ => holds.2⟩

/-- The stop behind the last tick is asked of a tone that sounds. -/
theorem keepTime_orderly (orderly : Orderly before emulator.host)
    (none : emulator.machine.toneDue = false → Host.isBeeping emulator.host = false) :
    keepTime.Ends emulator (fun _ => Tuned before) (Failed before) := by
  refine keepTime_rule (Tuned before) ?_ ?_ ?_ ?_
  · intro enough
    refine ⟨orderly, ?_⟩
    cases due : emulator.machine.toneDue with
    | true => exact enough due
    | false => exact none due
  · intro due silent
    refine .asked ?_ ?_
    · intro host asked
      exact ⟨orderly.beep law silent asked, (law.begun asked).trans due.symm⟩
    · intro error host asked
      exact .refused (orderly.beep law silent asked)
  · rintro after ⟨orderly, sounding⟩ goesOn
    exact ⟨orderly, sounding.trans (Machine.toneDue_tick goesOn).symm⟩
  · rintro after ⟨orderly, sounding⟩ last
    obtain ⟨due, spent⟩ := Machine.toneDue_of_last last
    refine .asked ?_ ?_
    · intro host asked
      exact ⟨orderly.stop law (sounding.trans due) asked, (law.ended asked).trans spent.symm⟩
    · intro error host asked
      exact .refused (orderly.stop law (sounding.trans due) asked)

theorem frame_orderly (orderly : Orderly before emulator.host) :
    frame.Ends emulator
      (fun control after => Orderly before after.host ∧ (control ≠ .quit →
        after.paused = false → Host.isBeeping after.host = after.machine.toneDue))
      (Failed before) := by
  have polled : Orderly before emulator.polledHost :=
    orderly.of_same rfl (law.poll emulator.machine.keypad emulator.host)
  refine frame_rule (fun _ _ _ => .refused polled)
    (fun _ _ => ⟨polled, fun stays => absurd rfl stays⟩) ?_
  intro control journal _ _
  have begun : Orderly before { emulator with
    machine := emulator.polledMachine, host := emulator.polledHost, journal }.host := polled
  refine finishFrame_rule (fun after => Orderly before after.host)
    (fun after => Orderly before after.host ∧
      (after.machine.toneDue = false → Host.isBeeping after.host = false))
    (fun after => Orderly before after.host ∧
      (after.machine.toneDue = false → Host.isBeeping after.host = false))
    (fun after => Orderly before after.host ∧
      (after.paused = false → Host.isBeeping after.host = after.machine.toneDue))
    (respond_orderly law control begun) ?_ (fun _ orderly _ => compute_orderly law orderly) ?_ ?_
    (fun _ holds => ⟨holds.1, fun _ => holds.2⟩)
  · intro after orderly paused
    have awake : after.paused = false → False := by
      rw [paused]
      exact nofun
    refine present_rule (fun _ => ⟨orderly, fun running => (awake running).elim⟩) ?_ ?_
    · intro host _ drawn
      exact ⟨(draw_orderly law orderly drawn).1, fun running => (awake running).elim⟩
    · intro error host _ refused
      exact .refused (draw_orderly law orderly refused).1
  · rintro after ⟨orderly, none⟩
    refine present_rule (fun _ => ⟨orderly, none⟩) ?_ ?_
    · intro host _ drawn
      obtain ⟨orderly, same⟩ := draw_orderly law orderly drawn
      exact ⟨orderly, fun spent => same.trans (none spent)⟩
    · intro error host _ refused
      exact .refused (draw_orderly law orderly refused).1
  · rintro after ⟨orderly, none⟩
    exact (keepTime_orderly law orderly none).weaken fun _ _ holds => ⟨holds.1, fun _ => holds.2⟩

theorem orderly_afterFrames (orderly : Orderly before emulator.host) (count : Nat) :
    Orderly before (emulator.afterFrames count).host :=
  afterFrames_induction (fun after => Orderly before after.host)
    (fun _ orderly => Ends.behind
      ((frame_orderly law orderly).imp (fun _ _ => And.left) fun _ _ => And.left)) orderly count

omit law in
/-- Around any such sink a frame that goes to its end brings the tone in line with the
timer, and a fault leaves silence. -/
theorem frame_tuned (law : Host.KeepsTone η) (emulator : Emulator η) :
    frame.Ends emulator
      (fun control after => control ≠ .quit → after.paused = false →
        Host.isBeeping after.host = after.machine.toneDue)
      (fun failure after => ∀ fault, failure = .fault fault →
        Host.isBeeping after.host = false) := by
  have start : Orderly (Host.isBeeping emulator.host)
      (emulator.mapHost Overheard.start).host := Orderly.start emulator.host
  have ends := frame_orderly (law.of_wraps Overheard.wraps_inner) start
  exact (frame_wraps Overheard.wraps_inner).ends
    (ends.imp (fun _ _ => And.right) fun _ _ => And.right)

omit law in
/-- In whatever state a frame begins and whatever fails in it, each start is asked for
in silence and each stop while the tone sounds.  A frame that goes to its end and
leaves the program running leaves the tone sounding just where the sound timer runs.
Over any number of frames the starts and stops that succeed take turns, the first
being a start where the tone was silent. -/
theorem tone_follows_timer (law : Host.KeepsTone η) (emulator : Emulator η) :
    (∀ request ∈ emulator.toneRequests 1, request.sounding = !request.starts) ∧
      (emulator.Completes → (frame emulator).2.paused = false →
        Host.isBeeping (frame emulator).2.host = (frame emulator).2.machine.toneDue) ∧
      ∀ count, (ToneRequest.changes (Host.isBeeping emulator.host)
        (emulator.toneRequests count)).IsChain (· ≠ ·) := by
  have start : Orderly (Host.isBeeping emulator.host)
      (emulator.mapHost Overheard.start).host := Orderly.start emulator.host
  have orderly := orderly_afterFrames (law.of_wraps Overheard.wraps_inner) start
  refine ⟨(orderly 1).timely, ?_, fun count => (orderly count).takesTurns⟩
  rintro ⟨control, completed, stays⟩
  exact (frame_tuned law emulator).of_result completed stays

end Emulator

/-! ## Scripted hosts -/

theorem Scripted.keepsTone : Host.KeepsTone Scripted where
  poll _ _ := rfl
  draw _ _ := rfl
  showPaused _ _ := rfl
  save _ _ := rfl
  begun {host after} asked := by
    change host.beep = _ at asked
    rw [Scripted.beep] at asked
    split at asked <;> cases asked
    rfl
  notBegun {host after error} asked := by
    change host.beep = _ at asked
    rw [Scripted.beep] at asked
    split at asked <;> cases asked
    rfl
  ended {host after} asked := by
    change host.stop = _ at asked
    rw [Scripted.stop] at asked
    split at asked <;> cases asked
    rfl
  notEnded {host after error} asked := by
    change host.stop = _ at asked
    rw [Scripted.stop] at asked
    split at asked <;> cases asked
    rfl

/-- A host whose first start and first stop of the tone fail. -/
def hoarseScript : Scripted where
  cues := [{}, {}, { control := .togglePause }, { control := .togglePause }]
  quitFrom := 20
  draws := ⟨[], 0⟩
  beeps := ⟨[0], 0⟩
  stops := ⟨[0], 0⟩
  album := Album.empty "" none

/-- The second frame starts the tone that the first one could not start.  The pause
behind it fails to stop the tone, and the end of the timer, four frames later, stops it. -/
theorem tone_follows_timer_hoarse :
    let second := ((Emulator.start { stepsPerFrame := 4 } (RandomStream.cycle #[])
      hoarseScript).load soundingProgram).2.afterFrames 1
    second.Completes ∧ (Emulator.frame second).2.machine.toneDue = true ∧
      Host.isBeeping (Emulator.frame second).2.host = true ∧
      (ToneRequest.changes (Host.isBeeping second.host) (second.toneRequests 7)).IsChain
        (· ≠ ·) := by
  generalize made : ((Emulator.start { stepsPerFrame := 4 } (RandomStream.cycle #[])
    hoarseScript).load soundingProgram).2.afterFrames 1 = second
  have facts : second.Completes ∧ (Emulator.frame second).2.paused = false ∧
      (Emulator.frame second).2.machine.toneDue = true := by
    rw [← made]
    decide +kernel
  obtain ⟨completes, running, due⟩ := facts
  obtain ⟨_, sounds, turns⟩ := Emulator.tone_follows_timer Scripted.keepsTone second
  exact ⟨completes, due, (sounds completes running).trans due, turns 7⟩

end Chip8
