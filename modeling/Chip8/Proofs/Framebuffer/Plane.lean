import Mathlib.Algebra.Group.Nat.Defs
import Mathlib.Data.List.Basic
import Chip8.Decimal.Binary
import Chip8.Framebuffer.View

/-!
# The places of a plane

A plane is found by counting down from the last place of a grid to the first.  With the places of a
grid numbered row by row this is a list of numbers in reverse, of which some are kept, each turned
into coordinates (`plane_eq`).  So a plane has the places of its state and no others, it has them in
order, and the two planes of a grid share it out between them.

The coordinates are held as floating-point numbers of 64 bits.  On a grid of at most `2 ^ 53` places
these hold them exactly: `map_heldPlace_plane`.
-/

namespace Chip8.Framebuffer

variable (frame : Framebuffer) (lit : Bool) {width height x y : Nat}

/-! ## Coordinates -/

/-- The coordinates of a place by its number.  The second one points down from zero. -/
def coordinates (width number : Nat) : Nat × Int := (number % width, -(number / width : Nat))

/-- One place comes before another: it is in an earlier row, or further to the left in the same
row. -/
def Before (place place' : Nat × Int) : Prop :=
  place'.2 < place.2 ∨ (place.2 = place'.2 ∧ place.1 < place'.1)

theorem Before.ne {place place' : Nat × Int} (before : Before place place') : place ≠ place' := by
  rintro rfl
  simp [Before] at before

/-- The numbers of the places are in the order of the rows. -/
theorem before_coordinates {number number' : Nat} (less : number < number') :
    Before (coordinates width number) (coordinates width number') := by
  have rows : number / width ≤ number' / width := Nat.div_le_div_right (Nat.le_of_lt less)
  have parts := Nat.div_add_mod number width
  have parts' := Nat.div_add_mod number' width
  simp only [Before, coordinates]
  obtain same | earlier := Nat.eq_or_lt_of_le rows
  · rw [same] at parts
    exact .inr ⟨by rw [same], by omega⟩
  · exact .inl (by omega)

/-- The column and the row of a place are told by its number. -/
theorem number_parts (across : x < width) :
    (width * y + x) % width = x ∧ (width * y + x) / width = y := by
  have positive : 0 < width := Nat.zero_lt_of_lt across
  constructor
  · rw [Nat.mul_add_mod, Nat.mod_eq_of_lt across]
  · rw [Nat.mul_add_div positive, Nat.div_eq_of_lt across, Nat.add_zero]

/-- The number of a place on the grid is one of those that are counted. -/
theorem number_lt (across : x < width) (down : y < height) : width * y + x < width * height := by
  have := Nat.mul_le_mul_left width (Nat.succ_le_of_lt down)
  rw [Nat.mul_succ] at this
  omega

/-! ## Planes as filtered lists -/

/-- The numbers of the places in the state `lit`, from the first to the last. -/
def numbers (frame : Framebuffer) (lit : Bool) (width height : Nat) : List Nat :=
  (List.range (width * height)).filter fun number =>
    frame.get (number % width) (number / width) == lit

theorem planeBelow_eq (width count : Nat) :
    frame.planeBelow width lit count =
      ((List.range count).filter fun number =>
        frame.get (number % width) (number / width) == lit).reverse.map (coordinates width) := by
  induction count with
  | zero => rfl
  | succ count ih =>
      rw [planeBelow, List.range_succ, List.filter_append]
      by_cases kept : frame.get (count % width) (count / width) = lit
      · simp [kept, ih, coordinates]
      · simp [kept, ih]

theorem plane_eq (width height : Nat) :
    frame.plane width height lit =
      (frame.numbers lit width height).reverse.map (coordinates width) :=
  planeBelow_eq frame lit width (width * height)

/-- A plane has the places of its state, and no others. -/
theorem mem_plane {place : Nat × Int} :
    place ∈ frame.plane width height lit ↔
      ∃ x < width, ∃ y < height, frame.get x y = lit ∧ place = (x, -(y : Int)) := by
  simp only [plane_eq, List.mem_map, List.mem_reverse, numbers, List.mem_filter, List.mem_range,
    beq_iff_eq]
  constructor
  · rintro ⟨number, ⟨inside, state⟩, rfl⟩
    have positive : 0 < width := Nat.pos_of_mul_pos_right (Nat.zero_lt_of_lt inside)
    exact ⟨_, Nat.mod_lt number positive, _, Nat.div_lt_of_lt_mul inside, state, rfl⟩
  · rintro ⟨x, across, y, down, state, rfl⟩
    obtain ⟨column, row⟩ := number_parts (y := y) across
    refine ⟨width * y + x, ⟨number_lt across down, ?_⟩, ?_⟩
    · rw [column, row]
      exact state
    · rw [coordinates, column, row]

/-- A plane has its places in order, the last one first. -/
theorem pairwise_plane (width height : Nat) :
    (frame.plane width height lit).Pairwise fun place place' => Before place' place := by
  rw [plane_eq, List.pairwise_map, List.pairwise_reverse]
  exact (List.pairwise_lt_range.filter _).imp before_coordinates

theorem nodup_plane (width height : Nat) : (frame.plane width height lit).Nodup :=
  (pairwise_plane frame lit width height).imp fun before => before.ne.symm

/-- The two planes of a grid have all of its places. -/
theorem length_planes (width height : Nat) :
    (frame.plane width height true).length + (frame.plane width height false).length =
      width * height := by
  have states : (List.range (width * height)).length = _ :=
    List.length_eq_countP_add_countP fun number => frame.get (number % width) (number / width)
  rw [List.length_range] at states
  simp only [plane_eq, numbers, List.length_map, List.length_reverse,
    ← List.countP_eq_length_filter]
  simpa using states.symm

/-! ## Coordinates as floating-point numbers -/

/-- A number as a floating-point number of 64 bits holds it: rounded to 53 binary digits, a half to
the even neighbour. -/
def held (number : Nat) : Nat :=
  let unit := 2 ^ (number.log2 - 52)
  Decimal.roundHalfEven number unit * unit

/-- Coordinates as floating-point numbers of 64 bits hold them. -/
def heldPlace (place : Nat × Int) : Nat × Int := (held place.1, -(held place.2.natAbs : Int))

theorem held_of_lt {number : Nat} (short : number < 2 ^ 53) : held number = number := by
  have digits : number.log2 - 52 = 0 := by
    obtain rfl | positive := Nat.eq_zero_or_pos number
    · rfl
    · have := (Nat.log2_lt (Nat.ne_of_gt positive)).2 short
      omega
  rw [held, digits]
  simp [Decimal.roundHalfEven, Nat.mod_one]

/-- On a grid of at most `2 ^ 53` places nothing is lost. -/
theorem map_heldPlace_plane (fits : width * height ≤ 2 ^ 53) :
    (frame.plane width height lit).map heldPlace = frame.plane width height lit := by
  conv_rhs => rw [← List.map_id (frame.plane width height lit)]
  refine List.map_congr_left fun place member => ?_
  obtain ⟨x, across, y, down, _, rfl⟩ := (mem_plane frame lit).1 member
  have column : held x = x := held_of_lt (by
    have := Nat.le_mul_of_pos_right width (Nat.zero_lt_of_lt down)
    omega)
  have row : held y = y := held_of_lt (by
    have := Nat.le_mul_of_pos_left height (Nat.zero_lt_of_lt across)
    omega)
  simp only [heldPlace, Int.natAbs_neg, Int.natAbs_natCast, column, row, id]

end Chip8.Framebuffer
