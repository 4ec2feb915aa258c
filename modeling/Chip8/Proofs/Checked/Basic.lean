import Mathlib.Algebra.Group.Nat.Defs

/-!
# Checks

Reading an array at a position and computing in a number of a fixed width can go wrong.  Here
each such operation checks its operands where it is done, and ends everything with a `Mishap`
if they are not fit for it.

Positions and sizes are numbers of the width of a machine word.  They are checked against the
least width that a word may have, which is 16 bits.  What passes there passes for wider words.
-/

namespace Chip8

/-- What a check may find. -/
inductive Mishap where
  /-- An array of this size has no such position. -/
  | outOfRange (position size : Nat)
  /-- A sum or a product is too large for its width. -/
  | overflow
  /-- A difference is less than zero. -/
  | underflow
  /-- A number is shifted by its width or more. -/
  | overwide
  deriving DecidableEq, Repr

/-- A computation that a check may end. -/
abbrev Checked := Except Mishap

namespace Checked

section Computation

variable {α β γ : Type}

@[simp] theorem ok_bind (result : α) (next : α → Checked β) :
    ((.ok result : Checked α) >>= next) = next result := rfl

@[simp] theorem pure_eq_ok (result : α) : (pure result : Checked α) = .ok result := rfl

/-- A loop does what a loop without checks does, if each turn of it does. -/
theorem foldlM_ok {turn : β → α → Checked β} {next : γ → α → γ} {image : γ → β} {items : List α}
    (each : ∀ state, ∀ item ∈ items, turn (image state) item = .ok (image (next state item)))
    (state : γ) : items.foldlM turn (image state) = .ok (image (items.foldl next state)) := by
  induction items generalizing state with
  | nil => rfl
  | cons item rest ih =>
      rw [List.foldlM_cons, List.foldl_cons, each state item List.mem_cons_self, ok_bind]
      exact ih (fun state item later => each state item (List.mem_cons_of_mem _ later)) _

end Computation

/-! ## Arrays -/

section Arrays

variable {α : Type} {size : Nat}

/-- What stands at a position of an array. -/
def fetch (cells : Array α) (position : Nat) : Checked α :=
  match cells[position]? with
  | some value => .ok value
  | none => .error (.outOfRange position cells.size)

/-- The array with another value at a position. -/
def store (cells : Array α) (position : Nat) (value : α) : Checked (Array α) :=
  if h : position < cells.size then
    .ok (cells.set position value h)
  else
    .error (.outOfRange position cells.size)

theorem fetch_toArray (cells : Vector α size) {position : Nat} (inside : position < size) :
    fetch cells.toArray position = .ok cells[position] := by
  simp [fetch, inside]

theorem store_toArray (cells : Vector α size) {position : Nat} (inside : position < size)
    (value : α) :
    store cells.toArray position value = .ok (cells.set position value inside).toArray := by
  simp [store, inside]

end Arrays

/-! ## Numbers -/

section Numbers

variable {width a b : Nat}

/-- A sum. -/
def plus (width a b : Nat) : Checked Nat :=
  if a + b < 2 ^ width then .ok (a + b) else .error .overflow

/-- A product. -/
def times (width a b : Nat) : Checked Nat :=
  if a * b < 2 ^ width then .ok (a * b) else .error .overflow

/-- A difference. -/
def minus (a b : Nat) : Checked Nat :=
  if b ≤ a then .ok (a - b) else .error .underflow

/-- A number shifted to the left.  What leaves its width is lost. -/
def shiftLeft (width a amount : Nat) : Checked Nat :=
  if amount < width then .ok ((a <<< amount) % 2 ^ width) else .error .overwide

/-- A number shifted to the right. -/
def shiftRight (width a amount : Nat) : Checked Nat :=
  if amount < width then .ok (a >>> amount) else .error .overwide

theorem plus_of_lt (fits : a + b < 2 ^ width) : plus width a b = .ok (a + b) := if_pos fits

theorem times_of_lt (fits : a * b < 2 ^ width) : times width a b = .ok (a * b) := if_pos fits

theorem minus_of_le (positive : b ≤ a) : minus a b = .ok (a - b) := if_pos positive

theorem shiftLeft_of_lt (narrow : b < width) :
    shiftLeft width a b = .ok ((a <<< b) % 2 ^ width) := if_pos narrow

theorem shiftRight_of_lt (narrow : b < width) : shiftRight width a b = .ok (a >>> b) :=
  if_pos narrow

end Numbers

example : plus 8 200 56 = .error .overflow := rfl

end Checked

end Chip8
