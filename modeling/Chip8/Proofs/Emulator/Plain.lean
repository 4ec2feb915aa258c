import Chip8.Emulator.Basic

/-!
# The plain loop

An emulator reduced to what a program can notice: a machine that is polled, runs
a number of steps, ticks once, and starts over.  There is no screen to show and no
tone to keep, so nothing can fail but a step.

A loop over a list of polls ends behind the last poll, at the first one at which
the user leaves, or at the first step that fails.  It tells which polls it
handled, and the laws below count them.
-/

namespace Chip8

/-- A poll: how it changes the keypad, and what the user wants. -/
structure Poll where
  keys : Keypad → Keypad
  control : Control

/-- At most `count` steps, up to the first that fails, with its fault. -/
def Machine.steps (machine : Machine) : (count : Nat) → Option Fault × Machine
  | 0 => (none, machine)
  | count + 1 =>
      match machine.step with
      | (.ok (), after) => after.steps count
      | (.error fault, after) => (some fault, after)

/-- A batch is just that. -/
theorem Machine.batch_eq_steps (machine : Machine) (limit : Nat) :
    ((machine.batch limit).fault?, (machine.batch limit).machine) = machine.steps limit := by
  suffices general : ∀ taken notices,
      let batch := batchFrom (fun _ => false) machine taken notices limit
      (batch.fault?, batch.machine) = machine.steps limit from general 0 []
  induction limit generalizing machine with
  | zero =>
      intro taken notices
      rfl
  | succ limit ih =>
      intro taken notices
      rw [batchFrom, steps]
      simp only [Bool.false_eq_true, if_false]
      obtain ⟨outcome, after⟩ := machine.step
      cases outcome with
      | ok _ => exact ih after (taken + 1) (machine.stepNotices ++ notices)
      | error fault => rfl

/-- An emulator without host and journal. -/
structure Plain where
  machine : Machine
  stepsPerFrame : Nat
  paused : Bool
  frames : Nat

namespace Plain

/-! ## The loop -/

/-- What a poll does to the keypad. -/
def polled (plain : Plain) (poll : Poll) : Plain :=
  { plain with machine := { plain.machine with keypad := poll.keys plain.machine.keypad } }

/-- Only one of the wishes matters to the program. -/
def respond (plain : Plain) (control : Control) : Plain :=
  { plain with paused := if control = .togglePause then !plain.paused else plain.paused }

/-- Behind a frame nothing is left to be shown. -/
def complete (plain : Plain) : Plain :=
  { plain with machine := plain.machine.clearRedraw, frames := plain.frames + 1 }

/-- The steps and the tick of a frame, with the fault that ended it.  A fault
leaves out the tick. -/
def compute (plain : Plain) : Option Fault × Plain :=
  match plain.machine.steps plain.stepsPerFrame with
  | (none, machine) => (none, complete { plain with machine := machine.tick.2 })
  | (some fault, machine) => (some fault, { plain with machine })

/-- A frame behind its poll.  A pause leaves out the steps and the tick. -/
def frame (plain : Plain) (control : Control) : Option Fault × Plain :=
  if (plain.respond control).paused then
    (none, (plain.respond control).complete)
  else
    (plain.respond control).compute

/-- How a loop ends. -/
inductive Ending where
  /-- All polls were handled. -/
  | through
  /-- The user left. -/
  | left
  /-- A step failed. -/
  | faulted (cause : Fault)
  deriving DecidableEq

/-- The result that an emulator gives for an ending. -/
def Ending.result : Ending → Except Failure Control
  | .through => .ok .proceed
  | .left => .ok .quit
  | .faulted cause => .error (.fault cause)

/-- What becomes of a loop. -/
structure Outcome where
  last : Plain
  handled : List Poll
  ending : Ending

/-- The outcome of a loop, seen from one poll earlier. -/
def Outcome.behind (outcome : Outcome) (poll : Poll) : Outcome :=
  { outcome with handled := poll :: outcome.handled }

/-- At most one frame a poll. -/
def loop (plain : Plain) : (polls : List Poll) → Outcome
  | [] => ⟨plain, [], .through⟩
  | poll :: rest =>
      if poll.control = .quit then
        ⟨plain.polled poll, [poll], .left⟩
      else
        match (plain.polled poll).frame poll.control with
        | (none, after) => (after.loop rest).behind poll
        | (some fault, after) => ⟨after, [poll], .faulted fault⟩
termination_by structural polls => polls

/-- The plain emulator before the first frame, with the program of a source. -/
def start (settings : Settings) (elsewhere : RandomStream) (source : ByteSource) : Plain :=
  let stream := (settings.seed.map RandomStream.ofSeed).getD elsewhere
  { machine := ((Machine.powerOn stream).loadFrom source).2.1
    stepsPerFrame := settings.stepsPerFrame
    paused := false
    frames := 0 }

/-- The number of frames that a loop completed: all but the one that ended it. -/
def Outcome.completed (outcome : Outcome) : Nat :=
  match outcome.ending with
  | .through => outcome.handled.length
  | .left | .faulted _ => outcome.handled.length - 1

/-- Whether a pause began or ended an odd number of times. -/
def toggled (polls : List Poll) : Bool :=
  polls.countP (fun poll => poll.control = .togglePause) % 2 = 1

/-! ## One turn of the loop -/

theorem loop_of_left {plain : Plain} {poll : Poll} {rest : List Poll}
    (leaves : poll.control = .quit) :
    plain.loop (poll :: rest) = ⟨plain.polled poll, [poll], .left⟩ := by
  rw [loop, if_pos leaves]

theorem loop_of_completed {plain after : Plain} {poll : Poll} {rest : List Poll}
    (stays : poll.control ≠ .quit)
    (ended : (plain.polled poll).frame poll.control = (none, after)) :
    plain.loop (poll :: rest) = (after.loop rest).behind poll := by
  rw [loop, if_neg stays, ended]

theorem loop_of_faulted {plain after : Plain} {poll : Poll} {rest : List Poll} {fault : Fault}
    (stays : poll.control ≠ .quit)
    (ended : (plain.polled poll).frame poll.control = (some fault, after)) :
    plain.loop (poll :: rest) = ⟨after, [poll], .faulted fault⟩ := by
  rw [loop, if_neg stays, ended]

theorem compute_of_stepped {plain : Plain} {machine : Machine}
    (stepped : plain.machine.steps plain.stepsPerFrame = (none, machine)) :
    plain.compute = (none, complete { plain with machine := machine.tick.2 }) := by
  rw [compute, stepped]

theorem compute_of_faulted {plain : Plain} {machine : Machine} {fault : Fault}
    (stepped : plain.machine.steps plain.stepsPerFrame = (some fault, machine)) :
    plain.compute = (some fault, { plain with machine }) := by
  rw [compute, stepped]

theorem frame_completed {plain after : Plain} {control : Control}
    (ended : plain.frame control = (none, after)) :
    after.frames = plain.frames + 1 ∧ after.paused = (plain.respond control).paused ∧
      after.machine.redraw = false := by
  rw [frame, compute] at ended
  split at ended
  case isTrue =>
    cases ended
    exact ⟨rfl, rfl, rfl⟩
  case isFalse =>
    split at ended
    case h_1 machine stepped =>
      cases ended
      exact ⟨rfl, rfl, rfl⟩
    case h_2 => cases ended

theorem frame_faulted {plain after : Plain} {control : Control} {fault : Fault}
    (ended : plain.frame control = (some fault, after)) :
    after.frames = plain.frames ∧ after.paused = (plain.respond control).paused := by
  rw [frame, compute] at ended
  split at ended
  case isTrue => cases ended
  case isFalse =>
    split at ended
    case h_1 => cases ended
    case h_2 fault machine stepped =>
      cases ended
      exact ⟨rfl, rfl⟩

/-! ## What a loop counts -/

/-- A loop that ends early ends behind a poll. -/
theorem handled_ne_nil {plain : Plain} {polls : List Poll}
    (early : (plain.loop polls).ending ≠ .through) : (plain.loop polls).handled ≠ [] := by
  fun_induction loop plain polls with
  | case1 => exact absurd rfl early
  | case2 => exact List.cons_ne_nil _ _
  | case3 => exact List.cons_ne_nil _ _
  | case4 => exact List.cons_ne_nil _ _

theorem completed_behind (outcome : Outcome) (poll : Poll)
    (early : outcome.ending ≠ .through → outcome.handled ≠ []) :
    (outcome.behind poll).completed = outcome.completed + 1 := by
  obtain ⟨last, handled, ending⟩ := outcome
  cases ending with
  | through => rfl
  | left =>
      have one : 0 < handled.length := List.length_pos_iff.mpr (early Ending.noConfusion)
      exact (Nat.sub_add_cancel one).symm
  | faulted cause =>
      have one : 0 < handled.length := List.length_pos_iff.mpr (early Ending.noConfusion)
      exact (Nat.sub_add_cancel one).symm

/-- The frames of a loop are those behind it and those it completed. -/
theorem frames_loop (plain : Plain) (polls : List Poll) :
    (plain.loop polls).last.frames = plain.frames + (plain.loop polls).completed := by
  fun_induction loop plain polls with
  | case1 => rfl
  | case2 => rfl
  | case3 plain poll rest stays after ended ih =>
      have one : after.frames = plain.frames + 1 := (frame_completed ended).1
      rw [completed_behind _ _ handled_ne_nil]
      change (after.loop rest).last.frames = _
      omega
  | case4 plain poll rest stays fault after ended => exact (frame_faulted ended).1

theorem paused_respond (plain : Plain) (control : Control) :
    (plain.respond control).paused = (plain.paused ^^ decide (control = .togglePause)) := by
  rw [respond]
  cases control with
  | togglePause => exact (Bool.xor_true _).symm
  | proceed | screenshot | quit => exact (Bool.xor_false _).symm

theorem toggled_nil : toggled [] = false := rfl

theorem toggled_cons (poll : Poll) (polls : List Poll) :
    toggled (poll :: polls) = (decide (poll.control = .togglePause) ^^ toggled polls) := by
  rw [toggled, toggled, List.countP_cons]
  by_cases wish : poll.control = .togglePause
  · rw [Bool.eq_iff_iff]
    simp only [wish, decide_true, if_true, Bool.true_xor, Bool.not_eq_true', decide_eq_true_eq,
      decide_eq_false_iff_not]
    omega
  · simp [wish]

/-- A loop is paused where it was before, changed by each handled wish for it. -/
theorem paused_loop (plain : Plain) (polls : List Poll) :
    (plain.loop polls).last.paused = (plain.paused ^^ toggled (plain.loop polls).handled) := by
  fun_induction loop plain polls with
  | case1 => exact (Bool.xor_false _).symm
  | case2 plain poll rest leaves =>
      change plain.paused = (_ ^^ toggled [poll])
      rw [toggled_cons, toggled_nil, leaves]
      exact (Bool.xor_false _).symm
  | case3 plain poll rest stays after ended ih =>
      have first : after.paused = (plain.paused ^^ decide (poll.control = .togglePause)) :=
        (frame_completed ended).2.1.trans (paused_respond _ _)
      change (after.loop rest).last.paused = (_ ^^ toggled (poll :: _))
      rw [ih, first, toggled_cons, Bool.xor_assoc]
  | case4 plain poll rest stays fault after ended =>
      have first : after.paused = (plain.paused ^^ decide (poll.control = .togglePause)) :=
        (frame_faulted ended).2.trans (paused_respond _ _)
      change after.paused = (_ ^^ toggled [poll])
      rw [first, toggled_cons, toggled_nil, Bool.xor_false]

theorem handled_prefix (plain : Plain) (polls : List Poll) :
    (plain.loop polls).handled <+: polls := by
  fun_induction loop plain polls with
  | case1 => exact List.prefix_rfl
  | case2 => simp
  | case3 plain poll rest stays after ended ih => exact List.prefix_cons_inj poll |>.mpr ih
  | case4 => simp

theorem handled_of_proceed {plain : Plain} {polls : List Poll}
    (through : (plain.loop polls).ending.result = .ok .proceed) :
    (plain.loop polls).handled = polls := by
  fun_induction loop plain polls with
  | case1 => rfl
  | case2 => cases through
  | case3 plain poll rest stays after ended ih => exact congrArg (poll :: ·) (ih through)
  | case4 => cases through

theorem result_eq_quit_iff (plain : Plain) (polls : List Poll) :
    (plain.loop polls).ending.result = .ok .quit ↔
      ∃ poll ∈ (plain.loop polls).handled, poll.control = .quit := by
  fun_induction loop plain polls with
  | case1 => simp [Ending.result]
  | case2 plain poll rest leaves => simp [leaves, Ending.result]
  | case3 plain poll rest stays after ended ih => simpa [Outcome.behind, stays] using ih
  | case4 plain poll rest stays fault after ended => simp [stays, Ending.result]

theorem redraw_loop {plain : Plain} {polls : List Poll} {control : Control}
    (clear : plain.machine.redraw = false)
    (ended : (plain.loop polls).ending.result = .ok control) :
    (plain.loop polls).last.machine.redraw = false := by
  fun_induction loop plain polls with
  | case1 => exact clear
  | case2 => exact clear
  | case3 plain poll rest stays after framed ih => exact ih (frame_completed framed).2.2 ended
  | case4 => cases ended

theorem redraw_start (settings : Settings) (elsewhere : RandomStream) (source : ByteSource) :
    (start settings elsewhere source).machine.redraw = false := by
  rw [start, Machine.loadFrom]
  split
  case h_1 => rfl
  case h_2 => rfl

end Plain

end Chip8
