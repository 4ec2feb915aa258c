import Chip8.Proofs.Machine.Footprint
import Chip8.Proofs.Machine.Unseen

/-!
# Timers count ticks

A timer goes down by one at each tick until it is at zero, and nothing else moves it but the
instruction that sets it: `FX15` for the delay timer and `FX18` for the sound timer.  So over a
history that never executes this instruction a timer shows what it showed less the number of
ticks.  Both timers are alike in this, and `shown_after` is about both.

The tick that takes the sound timer to zero reports it.  Without `FX18` this is one tick of a
history at most, and it is known which one (`toneEvents_eq`).  In a history of any kind the timer
is at zero behind such a tick, so an `FX18` with a register that is not zero comes before the next
one (`exists_setsTone`).
-/

namespace Chip8

/-- One of the two timers. -/
inductive Timer where
  /-- The delay timer. -/
  | delay
  /-- The sound timer. -/
  | sound
  deriving DecidableEq, Repr

namespace Timer

/-- What a timer shows. -/
def shown : Timer → Machine → UInt8
  | .delay, machine => machine.delay
  | .sound, machine => machine.sound

/-- The opcode is one that sets the timer. -/
def SetBy : Timer → UInt16 → Prop
  | .delay, opcode => Opcode.Transfers opcode 0x15
  | .sound, opcode => Opcode.Transfers opcode 0x18

variable (timer : Timer) {machine : Machine} {operation : Operation}

/-- A tick takes one away, where there is one left. -/
theorem shown_tick (machine : Machine) :
    (timer.shown machine.tick.2).toNat = (timer.shown machine).toNat - 1 := by
  have down (byte : UInt8) : (if byte = 0 then 0 else byte - 1).toNat = byte.toNat - 1 := by
    split
    case isTrue zero => rw [zero]; rfl
    case isFalse left =>
      have positive : byte.toNat ≠ 0 := fun zero => left (UInt8.toNat_inj.1 zero)
      exact UInt8.toNat_sub_of_le _ _ (UInt8.le_iff_toNat_le.2 (Nat.pos_of_ne_zero positive))
  cases timer with
  | delay => exact down machine.delay
  | sound => exact down machine.sound

theorem shown_step (unset : ¬timer.SetBy machine.opcode) :
    timer.shown machine.step.2 = timer.shown machine := by
  have confined := Machine.confined_step machine
  apply Classical.byContradiction
  intro changed
  cases timer with
  | delay => exact unset (confined.delay changed)
  | sound => exact unset (confined.sound changed)

/-- Nothing but a tick and the instructions that set a timer moves it. -/
theorem shown_perform (unticked : operation ≠ .tick)
    (unset : operation = .step → ¬timer.SetBy machine.opcode) :
    timer.shown (machine.perform operation).2 = timer.shown machine := by
  cases operation with
  | step => exact timer.shown_step (unset rfl)
  | tick => exact absurd rfl unticked
  | load image =>
      rw [Machine.perform, Prod.map_snd, Machine.load_others]
      cases timer <;> rfl
  | loadFrom source =>
      rw [Machine.perform, Prod.map_snd, Machine.loadFrom_others]
      cases timer <;> rfl
  | setKey _ _ | releaseAll | setRegister _ _ | clearRedraw => cases timer <;> rfl

/-- A timer that is not set counts the ticks of a history. -/
theorem shown_after {history : List Operation} (unset : machine.Avoids timer.SetBy history) :
    (timer.shown (machine.after history)).toNat =
      (timer.shown machine).toNat - history.count .tick := by
  induction history generalizing machine with
  | nil => rfl
  | cons operation rest ih =>
      obtain ⟨now, later⟩ := unset
      rw [Machine.after_cons, ih later]
      by_cases ticks : operation = .tick
      · subst ticks
        rw [show (machine.perform .tick).2 = machine.tick.2 from rfl, timer.shown_tick, Nat.sub_sub,
          List.count_cons_self, Nat.add_comm 1]
      · rw [timer.shown_perform ticks now, List.count_cons_of_ne ticks]

end Timer

/-- What a tick reported. -/
def Answer.event? : Answer → Option (Option ToneEvent)
  | .ticked event => some event
  | _ => none

namespace Machine

variable {machine : Machine} {operation : Operation}

/-! ## The reports of the ticks -/

theorem perform_tick (machine : Machine) :
    machine.perform .tick =
      (.ticked (if machine.sound = 1 then some .stop else none), machine.tick.2) := rfl

/-- What the ticks of a history report, first to last. -/
def toneEvents (machine : Machine) (history : List Operation) : List (Option ToneEvent) :=
  (machine.answers history).filterMap Answer.event?

theorem event?_perform (unticked : operation ≠ .tick) :
    (machine.perform operation).1.event? = none := by
  cases operation with
  | step =>
      rw [perform_step]
      cases machine.step.1 <;> rfl
  | tick => exact absurd rfl unticked
  | load image =>
      rw [perform, Prod.map_fst]
      cases (machine.load image).1 <;> rfl
  | loadFrom source =>
      rw [perform, Prod.map_fst]
      cases (machine.loadFrom source).1 <;> rfl
  | setKey _ _ | releaseAll | setRegister _ _ | clearRedraw => rfl

/-- Where the sound timer is not set, the tick that takes it to zero is the one that reports. -/
theorem toneEvents_eq {history : List Operation}
    (unset : machine.Avoids Timer.sound.SetBy history) :
    machine.toneEvents history = (List.range (history.count .tick)).map fun k =>
      if k + 1 = machine.sound.toNat then some .stop else none := by
  induction history generalizing machine with
  | nil => rfl
  | cons operation rest ih =>
      obtain ⟨now, later⟩ := unset
      have tail := ih later
      rw [toneEvents, answers]
      by_cases ticks : operation = .tick
      · subst ticks
        have down : machine.tick.2.sound.toNat = machine.sound.toNat - 1 :=
          Timer.sound.shown_tick machine
        have last : machine.sound = 1 ↔ 0 + 1 = machine.sound.toNat := by
          rw [← UInt8.toNat_inj]
          exact eq_comm
        rw [perform_tick] at tail
        rw [perform_tick, List.filterMap_cons_some (by rfl), List.count_cons_self,
          List.range_succ_eq_map, List.map_cons, List.map_map]
        refine congrArg₂ List.cons (if_congr last rfl rfl) (tail.trans ?_)
        refine List.map_congr_left fun k _ => if_congr ?_ rfl rfl
        rw [down]
        omega
      · have kept : (machine.perform operation).2.sound = machine.sound :=
          Timer.sound.shown_perform ticks now
        rw [List.filterMap_cons_none (event?_perform ticks), List.count_cons_of_ne ticks, ← kept]
        exact tail

/-! ## From one report to the next -/

/-- The next instruction is `FX18` with a register that is not zero. -/
def SetsTone (machine : Machine) : Prop :=
  Opcode.Transfers machine.opcode 0x18 ∧ machine.register (Opcode.x machine.opcode) ≠ 0

theorem sound_step_of_setter (sets : Opcode.Transfers machine.opcode 0x18) :
    machine.step.2.sound = machine.register (Opcode.x machine.opcode) := by
  rw [step_of_matches (.setSound (Opcode.x machine.opcode)) ⟨sets, rfl⟩ rfl]
  rfl

/-- From zero the sound timer gets away by such an instruction only. -/
theorem setsTone_of_sound_ne (silent : machine.sound = 0)
    (sounds : (machine.perform operation).2.sound ≠ 0) :
    operation = .step ∧ machine.SetsTone := by
  by_cases ticks : operation = .tick
  · subst ticks
    refine absurd ?_ sounds
    rw [perform_tick]
    exact if_pos silent
  · apply Classical.byContradiction
    intro other
    apply sounds
    by_cases sets : operation = .step ∧ Opcode.Transfers machine.opcode 0x18
    · obtain ⟨rfl, sets⟩ := sets
      apply Classical.byContradiction
      intro given
      exact other ⟨rfl, sets, fun zero => given ((sound_step_of_setter sets).trans zero)⟩
    · rw [← silent]
      exact Timer.sound.shown_perform ticks fun step transfers => sets ⟨step, transfers⟩

theorem exists_setsTone {history : List Operation} (silent : machine.sound = 0)
    (sounds : (machine.after history).sound ≠ 0) :
    ∃ time, history[time]? = some .step ∧ (machine.after (history.take time)).SetsTone := by
  induction history generalizing machine with
  | nil => exact absurd silent sounds
  | cons operation rest ih =>
      by_cases still : (machine.perform operation).2.sound = 0
      · obtain ⟨time, step, sets⟩ := ih still sounds
        exact ⟨time + 1, step, sets⟩
      · obtain ⟨rfl, sets⟩ := setsTone_of_sound_ne silent still
        exact ⟨0, rfl, sets⟩

/-- Only a tick reports, and only where the sound timer has one tick left. -/
theorem of_perform_eq_stop (reports : (machine.perform operation).1 = .ticked (some .stop)) :
    operation = .tick ∧ machine.sound = 1 := by
  by_cases ticks : operation = .tick
  · subst ticks
    refine ⟨rfl, ?_⟩
    apply Classical.byContradiction
    intro other
    rw [perform_tick, if_neg other] at reports
    cases reports
  · have event := congrArg Answer.event? reports
    rw [event?_perform ticks] at event
    cases event

theorem of_answers_eq_stop {history : List Operation} {time : Nat}
    (reports : (machine.answers history)[time]? = some (.ticked (some .stop))) :
    history[time]? = some .tick ∧ (machine.after (history.take time)).sound = 1 := by
  rw [getElem?_answers, Option.map_eq_some_iff] at reports
  obtain ⟨operation, done, reports⟩ := reports
  obtain ⟨rfl, last⟩ := of_perform_eq_stop reports
  exact ⟨done, last⟩

theorem after_take_add (machine : Machine) (history : List Operation) (time more : Nat) :
    machine.after (history.take (time + more)) =
      (machine.after (history.take time)).after ((history.drop time).take more) := by
  rw [List.take_add, after_append]

/-- Behind a tick that reports the sound timer is at zero. -/
theorem sound_of_answers_eq_stop {history : List Operation} {time : Nat}
    (reports : (machine.answers history)[time]? = some (.ticked (some .stop))) :
    (machine.after (history.take (time + 1))).sound = 0 := by
  obtain ⟨ticked, last⟩ := of_answers_eq_stop reports
  have down := Timer.sound.shown_tick (machine.after (history.take time))
  rw [List.take_add_one, ticked, after_append]
  simp only [Timer.shown, last] at down
  exact UInt8.toNat_inj.1 down

/-- Between two ticks that report, an `FX18` with a register that is not zero is executed. -/
theorem setsTone_between_stops {history : List Operation} {first second : Nat}
    (order : first < second)
    (stops : (machine.answers history)[first]? = some (.ticked (some .stop)))
    (stops' : (machine.answers history)[second]? = some (.ticked (some .stop))) :
    ∃ time, first < time ∧ time < second ∧ history[time]? = some .step ∧
      (machine.after (history.take time)).SetsTone := by
  obtain ⟨gap, rfl⟩ := Nat.exists_eq_add_of_le order
  obtain ⟨_, last⟩ := of_answers_eq_stop stops'
  rw [after_take_add] at last
  have sounds : ((machine.after (history.take (first + 1))).after
      ((history.drop (first + 1)).take gap)).sound ≠ 0 := by
    rw [last]
    decide
  obtain ⟨time, step, sets⟩ := exists_setsTone (sound_of_answers_eq_stop stops) sounds
  rw [List.getElem?_take, Option.ite_none_right_eq_some, List.getElem?_drop] at step
  obtain ⟨inside, step⟩ := step
  rw [List.take_take, Nat.min_eq_left (Nat.le_of_lt inside), ← after_take_add] at sets
  exact ⟨first + 1 + time, by omega, by omega, step, sets⟩

/-- Over a history that never executes the instruction that sets it, a timer goes down by the
number of ticks, and stays at zero once it is there.  Of the ticks of such a history the one that
takes the sound timer to zero reports it, and no other tick reports anything.  In a history of any
kind, an `FX18` with a register that is not zero is executed between two ticks that report. -/
theorem timers_count_ticks (machine : Machine) (history : List Operation) :
    let ticks := history.count .tick
    (machine.Avoids (Opcode.Transfers · 0x15) history →
      (machine.after history).delay.toNat = machine.delay.toNat - ticks) ∧
    (machine.Avoids (Opcode.Transfers · 0x18) history →
      (machine.after history).sound.toNat = machine.sound.toNat - ticks ∧
        machine.toneEvents history = (List.range ticks).map fun k =>
          if k + 1 = machine.sound.toNat then some .stop else none) ∧
    ∀ first second, first < second →
      (machine.answers history)[first]? = some (.ticked (some .stop)) →
      (machine.answers history)[second]? = some (.ticked (some .stop)) →
      ∃ time, first < time ∧ time < second ∧ history[time]? = some .step ∧
        (machine.after (history.take time)).SetsTone :=
  ⟨Timer.delay.shown_after, fun unset => ⟨Timer.sound.shown_after unset, toneEvents_eq unset⟩,
    fun _ _ => setsTone_between_stops⟩

/-- A tone of two ticks, with a program that sets the sound timer again once it has run out.  The
delay timer is never set. -/
theorem timers_count_ticks_twice :
    let start := (powerOn (RandomStream.cycle #[])).after
      [.load [0x60, 0x02, 0xF0, 0x18, 0x61, 0x07, 0xF0, 0x18], .step]
    let sounding := (start.perform .step).2
    let unset : List Operation := [.tick, .setKey 3 true, .tick, .step, .tick]
    let again : List Operation := [.step, .tick, .tick, .tick, .step, .step, .tick, .tick]
    (sounding.after unset).sound.toNat = 2 - 3 ∧
      sounding.toneEvents unset = [none, some .stop, none] ∧
      (start.after again).delay.toNat = start.delay.toNat - 5 ∧
      ∃ time, 2 < time ∧ time < 7 ∧ again[time]? = some .step ∧
        (start.after (again.take time)).SetsTone := by
  intro start sounding unset again
  have facts : sounding.Avoids (Opcode.Transfers · 0x18) unset ∧ sounding.sound = 2 ∧
      start.Avoids (Opcode.Transfers · 0x15) again ∧
      (start.answers again)[2]? = some (.ticked (some .stop)) ∧
      (start.answers again)[7]? = some (.ticked (some .stop)) := by
    decide +kernel
  obtain ⟨untouched, two, undelayed, stops, stops'⟩ := facts
  obtain ⟨_, tone, _⟩ := timers_count_ticks sounding unset
  obtain ⟨delay, _, between⟩ := timers_count_ticks start again
  obtain ⟨left, events⟩ := tone untouched
  rw [two] at left events
  exact ⟨left, events, delay undelayed, between 2 7 (by decide) stops stops'⟩

end Machine

end Chip8
