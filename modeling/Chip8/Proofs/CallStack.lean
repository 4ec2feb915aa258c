import Chip8.CallStack

/-!
# Pushing and popping, slot by slot

What the two operations of the call stack do to its depth and to each slot.  A
push writes the first slot that is not live and no other; a pop writes none.
-/

namespace Chip8.CallStack

variable {stack after : CallStack} {address : UInt16}

/-! ## When they fail -/

theorem push?_eq_none_iff : stack.push? address = none ↔ capacity ≤ stack.depth := by
  rw [push?]
  split
  case isTrue room => simp [room]
  case isFalse full => simp [Nat.le_of_not_lt full]

theorem pop?_eq_none_iff : stack.pop? = none ↔ stack.depth = 0 := by
  rw [pop?]
  split
  case h_1 void => simp [void]
  case h_2 live => simp [live]

/-! ## A push -/

theorem exists_push? (room : stack.depth < capacity) (address : UInt16) :
    ∃ after, stack.push? address = some after := by
  rw [push?, dif_pos room]
  exact ⟨_, rfl⟩

section Push

variable (pushed : stack.push? address = some after)
include pushed

theorem room_of_push? : stack.depth < capacity := by
  apply Nat.lt_of_not_le
  intro full
  rw [push?_eq_none_iff.2 full] at pushed
  cases pushed

theorem eq_of_push? :
    after.depth = stack.depth + 1 ∧
      ∀ slot, after.slots[slot]? =
        if slot = stack.depth then some address else stack.slots[slot]? := by
  have room := room_of_push? pushed
  rw [push?, dif_pos room] at pushed
  cases pushed
  refine ⟨rfl, fun slot => ?_⟩
  rw [Vector.getElem?_set]
  by_cases same : slot = stack.depth
  · subst same
    simp
  · simp [same, Ne.symm same]

theorem depth_of_push? : after.depth = stack.depth + 1 := (eq_of_push? pushed).1

/-- The new address is in the slot that was the first free one. -/
theorem slot_of_push? : after.slots[stack.depth]? = some address := by
  rw [(eq_of_push? pushed).2, if_pos rfl]

/-- The slots that were live stay as they are. -/
theorem slot_of_push?_of_lt {slot : Nat} (live : slot < stack.depth) :
    after.slots[slot]? = stack.slots[slot]? := by
  rw [(eq_of_push? pushed).2, if_neg (Nat.ne_of_lt live)]

end Push

/-! ## A pop -/

section Pop

variable (popped : stack.pop? = some (address, after))
include popped

theorem eq_of_pop? :
    stack.depth = after.depth + 1 ∧ after.slots = stack.slots ∧
      address = stack.slots[after.depth]?.getD 0 := by
  rw [pop?] at popped
  split at popped
  case h_1 => cases popped
  case h_2 below live =>
    cases popped
    exact ⟨live, rfl, rfl⟩

theorem depth_of_pop? : stack.depth = after.depth + 1 := (eq_of_pop? popped).1

theorem slots_of_pop? : after.slots = stack.slots := (eq_of_pop? popped).2.1

end Pop

/-! ## The live addresses -/

theorem length_toList (bounded : stack.depth ≤ capacity) : stack.toList.length = stack.depth := by
  rw [toList, List.length_take, Vector.length_toList, Nat.min_eq_left bounded]

end Chip8.CallStack
