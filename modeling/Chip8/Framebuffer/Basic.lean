/-!
# The framebuffer

The screen is a grid of 64 by 32 pixels, each on or off, stored row by row.
Coordinates are natural numbers of any size: a place off the grid reads as off,
and turning it over changes nothing.

`get_flip` says what one turn does to every pixel.  A sprite is drawn as a list
of places that are turned over one after another.
-/

namespace Chip8

/-- The 64 by 32 pixels of the screen. -/
structure Framebuffer where
  /-- The pixels, the rows from the top and each from the left. -/
  pixels : Vector Bool 2048
  deriving DecidableEq

namespace Framebuffer

/-- The number of pixels in a row. -/
abbrev width : Nat := 64

/-- The number of rows. -/
abbrev height : Nat := 32

/-- The screen with every pixel off. -/
def blank : Framebuffer := ⟨Vector.replicate 2048 false⟩

/-- The position of a place in the stored pixels, if the place is on the grid. -/
def index? (x y : Nat) : Option (Fin 2048) :=
  if h : x < width ∧ y < height then
    some ⟨y * width + x, by simp only [width, height] at h ⊢; omega⟩
  else
    none

/-- The pixel at a place on the grid, and nothing elsewhere. -/
def at? (frame : Framebuffer) (x y : Nat) : Option Bool :=
  (index? x y).map fun i => frame.pixels[i]

/-- Whether the pixel at a place is on. -/
def get (frame : Framebuffer) (x y : Nat) : Bool :=
  (frame.at? x y).getD false

/-- The screen with one pixel turned over. -/
def flip (frame : Framebuffer) (x y : Nat) : Framebuffer :=
  match index? x y with
  | some i => ⟨frame.pixels.set i (!frame.pixels[i])⟩
  | none => frame

/-- The number of pixels that are on. -/
def litCount (frame : Framebuffer) : Nat :=
  frame.pixels.toList.count true

/-- The pixels of a row from the left. -/
def row (frame : Framebuffer) (y : Nat) : List Bool :=
  (List.range width).map fun x => frame.get x y

/-- All rows from the top. -/
def rows (frame : Framebuffer) : List (List Bool) :=
  (List.range height).map frame.row

/-! ## Reading what was turned over -/

theorem index?_eq_none_iff {x y : Nat} : index? x y = none ↔ ¬(x < width ∧ y < height) := by
  simp [index?]

/-- Different places on the grid are stored at different positions. -/
theorem index?_inj {x y x' y' : Nat} {i : Fin 2048} (first : index? x y = some i)
    (second : index? x' y' = some i) : x = x' ∧ y = y' := by
  unfold index? at first second
  split at first
  case isFalse => cases first
  case isTrue inside =>
    split at second
    case isFalse => cases second
    case isTrue inside' =>
      have same := congrArg Fin.val ((Option.some.inj first).trans (Option.some.inj second).symm)
      simp only [width, height] at same inside inside'
      omega

theorem at?_eq_none_iff (frame : Framebuffer) {x y : Nat} :
    frame.at? x y = none ↔ ¬(x < width ∧ y < height) := by
  rw [at?, Option.map_eq_none_iff, index?_eq_none_iff]

theorem at?_of_inside (frame : Framebuffer) {x y : Nat} (inside : x < width ∧ y < height) :
    frame.at? x y = some (frame.get x y) := by
  cases found : frame.at? x y with
  | none => exact absurd inside (frame.at?_eq_none_iff.1 found)
  | some pixel => rw [get, found, Option.getD_some]

theorem flip_of_outside (frame : Framebuffer) {x y : Nat} (outside : ¬(x < width ∧ y < height)) :
    frame.flip x y = frame := by
  rw [flip, index?_eq_none_iff.2 outside]

theorem get_flip (frame : Framebuffer) (x y x' y' : Nat) :
    (frame.flip x y).get x' y' =
      if x = x' ∧ y = y' ∧ x < width ∧ y < height then !frame.get x' y'
      else frame.get x' y' := by
  by_cases inside : x < width ∧ y < height
  · have found : ∃ i, index? x y = some i := by simp [index?, inside]
    obtain ⟨i, hi⟩ := found
    by_cases same : x = x' ∧ y = y'
    · obtain ⟨rfl, rfl⟩ := same
      simp [flip, get, at?, hi, inside]
    · have skip : ¬(x = x' ∧ y = y' ∧ x < width ∧ y < height) := fun h => same ⟨h.1, h.2.1⟩
      rw [if_neg skip]
      cases found' : index? x' y' with
      | none => simp [get, at?, found']
      | some j =>
          have different : ¬ i.val = j.val := by
            intro h
            exact same (index?_inj hi (by rw [found', Fin.ext h]))
          simp [flip, get, at?, hi, found', Vector.getElem_set, different]
  · have skip : ¬(x = x' ∧ y = y' ∧ x < width ∧ y < height) := fun h => inside h.2.2
    rw [if_neg skip, flip_of_outside frame inside]

/-- On the blank screen every place reads as off. -/
theorem get_blank (x y : Nat) : blank.get x y = false := by
  cases found : index? x y <;> simp [get, at?, blank, found]

end Framebuffer

end Chip8
