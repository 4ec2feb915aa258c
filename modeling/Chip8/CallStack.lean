/-!
# The call stack

The stack has sixteen slots for return addresses and a depth.  The slots below
the depth are live.  A slot above it keeps what an earlier call left there, and
nothing reads it before it is written again, so the stack is known by the list
of its live addresses: `toList_push?`, `toList_pop?`.
-/

namespace Chip8

/-- The slots of the call stack and how many of them are live. -/
structure CallStack where
  /-- The slots, the oldest address first. -/
  slots : Vector UInt16 16
  /-- The number of live slots. -/
  depth : Nat
  deriving DecidableEq

namespace CallStack

/-- The number of slots. -/
abbrev capacity : Nat := 16

/-- No live address. -/
def empty : CallStack := ⟨Vector.replicate 16 0, 0⟩

/-- The stack with one more address, unless all slots are live. -/
def push? (stack : CallStack) (address : UInt16) : Option CallStack :=
  if h : stack.depth < capacity then
    some ⟨stack.slots.set stack.depth address, stack.depth + 1⟩
  else
    none

/-- The newest address and the stack without it, unless no slot is live. -/
def pop? (stack : CallStack) : Option (UInt16 × CallStack) :=
  match stack.depth with
  | 0 => none
  | below + 1 => some (stack.slots[below]?.getD 0, ⟨stack.slots, below⟩)

/-- The live addresses, oldest first. -/
def toList (stack : CallStack) : List UInt16 :=
  stack.slots.toList.take stack.depth

theorem toList_push? {stack pushed : CallStack} {address : UInt16}
    (success : stack.push? address = some pushed) :
    pushed.toList = stack.toList ++ [address] := by
  unfold push? at success
  split at success
  case isFalse => cases success
  case isTrue room =>
    cases success
    have long : stack.depth < stack.slots.toList.length := by simpa using room
    simp only [toList, Vector.toList_set, List.take_add_one, List.take_set_of_le (Nat.le_refl _)]
    simp [room]

theorem toList_pop? {stack popped : CallStack} {address : UInt16}
    (bounded : stack.depth ≤ capacity) (success : stack.pop? = some (address, popped)) :
    stack.toList = popped.toList ++ [address] := by
  unfold pop? at success
  split at success
  case h_1 => cases success
  case h_2 below depth =>
    cases success
    have long : below < 16 := by simp only [capacity] at bounded; omega
    simp [toList, depth, List.take_add_one, long]

end CallStack

end Chip8
