import Chip8.Proofs.CallStack
import Chip8.Proofs.Machine.Step

/-!
# Calls and returns

Only two things that can be done to a machine have an effect on its call stack: a
step on a call, which pushes the address of the next instruction, and a step on a
return, which pops the address that it goes to.  `StackMove` lists the three
cases and `stackMove` says that there is no other.

Over a whole history the slots and the depth then behave as a list of at most
sixteen return addresses (`returns`).  In particular a call is matched by the
first return that brings the depth back to where it was, whatever was called and
returned from in between, and however many stale addresses the calls in between
left behind: `call_stack_discipline`.
-/

namespace Chip8.Machine

/-! ## What an operation does to the stack -/

section Frame

variable (machine : Machine)

theorem stack_skipIf (condition : Bool) : (machine.skipIf condition).stack = machine.stack := by
  rw [skipIf]
  split <;> rfl

theorem stack_setFlag? (flag? : Option UInt8) : (machine.setFlag? flag?).stack = machine.stack := by
  cases flag? <;> rfl

theorem stack_awaitKey (x : Register) : (machine.awaitKey x).stack = machine.stack := by
  rw [awaitKey]
  split <;> rfl

/-- No instruction but a call and a return has an effect on the stack. -/
theorem stack_apply (instruction : Instruction) :
    (machine.apply instruction).stack = machine.stack := by
  cases instruction with
  | skipByte _ _ _ | skipRegister _ _ _ | skipKey _ _ => exact stack_skipIf machine _
  | arithmetic operation x y => exact stack_setFlag? machine _
  | waitKey x => exact stack_awaitKey machine x
  | _ => rfl

end Frame

/-- What an operation does to the call stack. -/
inductive StackMove (machine : Machine) (operation : Operation) : Prop where
  /-- A call pushes the address of the instruction behind it. -/
  | pushed (step : operation = .step) (atCall : machine.AtCall)
      (pushed : machine.stack.push? (machine.pc + 2) =
        some (machine.perform operation).2.stack)
  /-- A return pops the address that it goes to. -/
  | popped (step : operation = .step) (atReturn : machine.AtReturn)
      (popped : machine.stack.pop? =
        some ((machine.perform operation).2.pc, (machine.perform operation).2.stack))
  /-- Nothing else has an effect, and neither has a call or a return that fails. -/
  | kept (kept : (machine.perform operation).2.stack = machine.stack)
      (full : operation = .step → machine.AtCall → machine.stack.push? (machine.pc + 2) = none)
      (void : operation = .step → machine.AtReturn → machine.stack.pop? = none)

/-- An instruction is of one kind only. -/
theorem not_atCall_and_atReturn {machine : Machine} (atCall : machine.AtCall)
    (atReturn : machine.AtReturn) : False := by
  rw [AtReturn] at atReturn
  rw [AtCall, atReturn] at atCall
  cases atCall

theorem stackMove_step (machine : Machine) : StackMove machine .step := by
  cases move machine with
  | unknown missing moved =>
      refine .kept (by rw [perform_step, moved]) (fun _ atCall => ?_) (fun _ atReturn => ?_)
      · obtain ⟨target, found⟩ := atCall_iff.1 atCall
        rw [missing] at found
        cases found
      · rw [atReturn_iff, missing] at atReturn
        cases atReturn
  | called target stack found pushed moved =>
      exact .pushed rfl (atCall_iff.2 ⟨target, found⟩) (by rw [perform_step, moved, pushed])
  | overflowed target found full moved =>
      have atCall := atCall_iff.2 ⟨target, found⟩
      exact .kept (by rw [perform_step, moved]) (fun _ _ => full)
        (fun _ atReturn => (not_atCall_and_atReturn atCall atReturn).elim)
  | returned address stack found popped moved =>
      exact .popped rfl (atReturn_iff.2 found) (by rw [perform_step, moved, popped])
  | underflowed found void moved =>
      have atReturn := atReturn_iff.2 found
      exact .kept (by rw [perform_step, moved])
        (fun _ atCall => (not_atCall_and_atReturn atCall atReturn).elim) (fun _ _ => void)
  | applied instruction found infallible moved =>
      refine .kept (by rw [perform_step, moved]; exact stack_apply _ _)
        (fun _ atCall => ?_) (fun _ atReturn => ?_)
      · obtain ⟨target, found'⟩ := atCall_iff.1 atCall
        rw [found] at found'
        cases found'
        cases infallible
      · rw [atReturn_iff, found] at atReturn
        cases atReturn
        cases infallible

theorem stackMove (machine : Machine) (operation : Operation) : StackMove machine operation := by
  cases operation with
  | step => exact stackMove_step machine
  | load image => exact .kept (congrArg stack (load_others machine image) :) nofun nofun
  | loadFrom source => exact .kept (congrArg stack (loadFrom_others machine source) :) nofun nofun
  | tick | setKey _ _ | releaseAll | setRegister _ _ | clearRedraw =>
      exact .kept rfl nofun nofun

/-! ## The depth -/

theorem depth_perform {machine : Machine} (bounded : machine.stack.depth ≤ CallStack.capacity)
    (operation : Operation) :
    (machine.perform operation).2.stack.depth ≤ CallStack.capacity := by
  cases stackMove machine operation with
  | pushed step atCall pushed =>
      rw [CallStack.depth_of_push? pushed]
      exact CallStack.room_of_push? pushed
  | popped step atReturn popped =>
      have := CallStack.depth_of_pop? popped
      omega
  | kept kept full void =>
      rw [kept]
      exact bounded

/-- Never more slots are live than there are. -/
theorem depth_after (random : RandomStream) (history : List Operation) :
    ((powerOn random).after history).stack.depth ≤ CallStack.capacity :=
  after_induction (fun machine => machine.stack.depth ≤ CallStack.capacity)
    (fun _ operation bounded => depth_perform bounded operation) (Nat.zero_le _) history

/-! ## The list of return addresses -/

/-- What a step does to a list of return addresses, oldest first: on a call it
puts the address behind the call at the end while there are fewer than sixteen,
on a return it takes the last one away, and otherwise it has no effect. -/
def returnsBehindStep (machine : Machine) (addresses : List UInt16) : List UInt16 :=
  if machine.AtCall then
    if addresses.length < CallStack.capacity then addresses ++ [machine.pc + 2] else addresses
  else if machine.AtReturn then addresses.dropLast
  else addresses

/-- What an operation does to a list of return addresses: only a step has an
effect. -/
def returnsBehind (machine : Machine) (operation : Operation) (addresses : List UInt16) :
    List UInt16 :=
  match operation with
  | .step => machine.returnsBehindStep addresses
  | _ => addresses

/-- What a history does to a list of return addresses. -/
def returns (machine : Machine) (addresses : List UInt16) : (history : List Operation) → List UInt16
  | [] => addresses
  | operation :: rest =>
      (machine.perform operation).2.returns (machine.returnsBehind operation addresses) rest
termination_by structural history => history

/-- The slots and the depth behave as the list. -/
theorem toList_perform {machine : Machine} (bounded : machine.stack.depth ≤ CallStack.capacity)
    (operation : Operation) :
    (machine.perform operation).2.stack.toList =
      machine.returnsBehind operation machine.stack.toList := by
  have long := CallStack.length_toList bounded
  cases stackMove machine operation with
  | pushed step atCall pushed =>
      subst step
      have room := CallStack.room_of_push? pushed
      rw [CallStack.toList_push? pushed, returnsBehind, returnsBehindStep, if_pos atCall, long,
        if_pos room]
  | popped step atReturn popped =>
      subst step
      have noCall : ¬machine.AtCall := fun atCall => not_atCall_and_atReturn atCall atReturn
      rw [returnsBehind, returnsBehindStep, if_neg noCall, if_pos atReturn,
        CallStack.toList_pop? bounded popped, List.dropLast_concat]
  | kept kept full void =>
      rw [kept]
      cases operation with
      | step =>
          rw [returnsBehind, returnsBehindStep]
          split
          case isTrue atCall =>
            have := CallStack.push?_eq_none_iff.1 (full rfl atCall)
            rw [if_neg (by omega)]
          case isFalse =>
            split
            case isTrue atReturn =>
              have := CallStack.pop?_eq_none_iff.1 (void rfl atReturn)
              have none : machine.stack.toList = [] := List.eq_nil_of_length_eq_zero (by omega)
              rw [none, List.dropLast_nil]
            case isFalse => rfl
      | _ => rfl

theorem toList_after {machine : Machine} (bounded : machine.stack.depth ≤ CallStack.capacity)
    (history : List Operation) :
    (machine.after history).stack.toList = machine.returns machine.stack.toList history := by
  induction history generalizing machine with
  | nil => rfl
  | cons operation rest ih =>
      rw [after_cons, returns, ← toList_perform bounded operation]
      exact ih (depth_perform bounded operation)

/-! ## One call and its return -/

/-- While a slot is live, no operation changes the address in it. -/
theorem slot_perform {machine : Machine} {slot : Nat} (live : slot < machine.stack.depth)
    (operation : Operation) :
    (machine.perform operation).2.stack.slots[slot]? = machine.stack.slots[slot]? := by
  cases stackMove machine operation with
  | pushed step atCall pushed => exact CallStack.slot_of_push?_of_lt pushed live
  | popped step atReturn popped => rw [CallStack.slots_of_pop? popped]
  | kept kept full void => rw [kept]

/-- Nor does a history that keeps it live all the time. -/
theorem slot_after {machine : Machine} {slot : Nat} (history : List Operation)
    (live : ∀ time ≤ history.length, slot < (machine.after (history.take time)).stack.depth) :
    (machine.after history).stack.slots[slot]? = machine.stack.slots[slot]? := by
  induction history generalizing machine with
  | nil => rfl
  | cons operation rest ih =>
      have now : slot < machine.stack.depth := live 0 (Nat.zero_le _)
      have later : ∀ time ≤ rest.length,
          slot < ((machine.perform operation).2.after (rest.take time)).stack.depth := by
        intro time inside
        exact live (time + 1) (Nat.succ_le_succ inside)
      rw [after_cons, ih later, slot_perform now]

/-- Only a return makes the depth smaller, and only by one.  It goes to the
address in the slot that it frees. -/
theorem perform_of_depth_le {machine : Machine} {slot : Nat} {address : UInt16}
    (live : slot < machine.stack.depth) (stored : machine.stack.slots[slot]? = some address)
    {operation : Operation} (freed : (machine.perform operation).2.stack.depth ≤ slot) :
    operation = .step ∧ machine.AtReturn ∧
      (machine.perform operation).2.stack.depth = slot ∧
      (machine.perform operation).2.pc = address := by
  cases stackMove machine operation with
  | pushed step atCall pushed =>
      have := CallStack.depth_of_push? pushed
      omega
  | popped step atReturn popped =>
      obtain ⟨above, _, target⟩ := CallStack.eq_of_pop? popped
      have same : (machine.perform operation).2.stack.depth = slot := by omega
      rw [same, stored] at target
      exact ⟨step, atReturn, same, target⟩
  | kept kept full void =>
      rw [kept] at freed
      omega

/-- A call that succeeds is the push of the address behind it. -/
theorem push?_of_call {machine : Machine} (atCall : machine.AtCall)
    (done : (machine.perform .step).1 = .done) :
    machine.stack.push? (machine.pc + 2) = some (machine.perform .step).2.stack := by
  obtain ⟨target, found⟩ := atCall_iff.1 atCall
  rw [perform_step] at done ⊢
  cases pushed : machine.stack.push? (machine.pc + 2) with
  | some stack =>
      rw [step_of_executed found (call_of_room machine.advance target pushed)]
  | none =>
      rw [step_of_failed found (call_of_full machine.advance target pushed)] at done
      cases done

/-- A return goes to the newest address, if there is one. -/
theorem perform_of_return {machine : Machine} (bounded : machine.stack.depth ≤ CallStack.capacity)
    (atReturn : machine.AtReturn) {address : UInt16}
    (newest : machine.stack.toList.getLast? = some address) :
    (machine.perform .step).1 = .done ∧ (machine.perform .step).2.pc = address := by
  have found := atReturn_iff.1 atReturn
  cases popped : machine.stack.pop? with
  | none =>
      have void := CallStack.pop?_eq_none_iff.1 popped
      rw [CallStack.toList, void, List.take_zero] at newest
      cases newest
  | some top =>
      rw [CallStack.toList_pop? bounded popped, List.getLast?_concat] at newest
      cases newest
      rw [perform_step, step_of_executed found (ret_of_live machine.advance popped)]
      exact ⟨rfl, rfl⟩

/-- The call stack from power-on, whatever is done to the machine.  At most
sixteen slots are live, and the live ones hold the list of return addresses that
the calls and returns of the history make; a return goes to the last of them.
From a call on, as long as the depth stays above what it was before the call, the
slot of the call keeps the address behind it.  The first thing that brings the
depth back is a return, and it goes to just this address. -/
theorem call_stack_discipline (random : RandomStream) (history : List Operation) :
    let machine := (powerOn random).after history
    machine.stack.depth ≤ 16 ∧
      machine.stack.toList.length = machine.stack.depth ∧
      machine.stack.toList = (powerOn random).returns [] history ∧
      (machine.AtReturn → ∀ address, machine.stack.toList.getLast? = some address →
        (machine.perform .step).1 = .done ∧ (machine.perform .step).2.pc = address) ∧
      (machine.AtCall → (machine.perform .step).1 = .done → ∀ during : List Operation,
        let called := (machine.perform .step).2
        (∀ time ≤ during.length,
          machine.stack.depth < (called.after (during.take time)).stack.depth) →
        let later := called.after during
        later.stack.slots[machine.stack.depth]? = some (machine.pc + 2) ∧
          ∀ operation, (later.perform operation).2.stack.depth ≤ machine.stack.depth →
            operation = .step ∧ later.AtReturn ∧
              (later.perform operation).2.stack.depth = machine.stack.depth ∧
              (later.perform operation).2.pc = machine.pc + 2) := by
  intro machine
  have bounded := depth_after random history
  refine ⟨bounded, CallStack.length_toList bounded, toList_after (Nat.zero_le _) history,
    fun atReturn address newest => perform_of_return bounded atReturn newest, ?_⟩
  intro atCall done during called above later
  have pushed := push?_of_call atCall done
  have stored : later.stack.slots[machine.stack.depth]? = some (machine.pc + 2) := by
    rw [slot_after during above, CallStack.slot_of_push? pushed]
  have live : machine.stack.depth < later.stack.depth := by
    have last := above during.length (Nat.le_refl _)
    rwa [List.take_length] at last
  exact ⟨stored, fun operation freed => perform_of_depth_le live stored freed⟩

/-- A program that calls a subroutine which calls another one. -/
def nestedCalls : List Operation :=
  [.load [0x22, 0x06, 0x00, 0x00, 0x00, 0x00, 0x22, 0x0A, 0x00, 0xEE, 0x00, 0xEE]]

/-- The inner call and its return leave the address of the outer call in its
slot, and the next step goes back to it. -/
theorem call_stack_discipline_nestedCalls :
    let machine := (powerOn (RandomStream.cycle #[])).after nestedCalls
    let later := (machine.perform .step).2.after [.step, .step]
    machine.AtCall ∧ (machine.perform .step).1 = .done ∧
      later.stack.slots[0]? = some 0x202 ∧ later.AtReturn ∧
      (later.perform .step).2.pc = 0x202 := by
  have discipline := call_stack_discipline (RandomStream.cycle #[]) nestedCalls
  generalize made : (powerOn (RandomStream.cycle #[])).after nestedCalls = machine at discipline ⊢
  have facts : machine.AtCall ∧ (machine.perform .step).1 = .done ∧ machine.stack.depth = 0 ∧
      machine.pc + 2 = 0x202 ∧
      (∀ time ≤ 2, machine.stack.depth <
        ((machine.perform .step).2.after (List.take time [.step, .step])).stack.depth) ∧
      (((machine.perform .step).2.after [.step, .step]).perform .step).2.stack.depth ≤
        machine.stack.depth := by
    rw [← made]
    decide +kernel
  obtain ⟨atCall, done, none, behind, above, freed⟩ := facts
  obtain ⟨_, _, _, _, matched⟩ := discipline
  obtain ⟨stored, returned⟩ := matched atCall done [.step, .step] above
  obtain ⟨_, atReturn, _, target⟩ := returned .step freed
  rw [behind] at stored target
  rw [none] at stored
  exact ⟨atCall, done, stored, atReturn, target⟩

end Chip8.Machine
