import Mathlib.Algebra.BigOperators.Ring.Finset
import Mathlib.Data.Fintype.Prod
import Chip8.Framebuffer.Basic

/-!
# Counting pixels

The area of a property of places is the number of places on the screen that have it.  The
number of pixels that are on is the area of being on (`litCount_eq_area`), and turning pixels
over adds the area of what was turned over, less twice the area of what went off:
`litCount_of_turned`.
-/

namespace Chip8.Framebuffer

/-- The number of places on the screen with a property. -/
def area (shape : Nat → Nat → Bool) : Nat :=
  (Finset.univ.filter fun place : Fin width × Fin height => shape place.1 place.2 = true).card

/-! ## The pixels that are on -/

/-- The place of a pixel, by the position at which it is stored. -/
def storedPlace (i : Fin 2048) : Fin width × Fin height :=
  (⟨i.val % 64, Nat.mod_lt _ (by decide)⟩, ⟨i.val / 64, Nat.div_lt_of_lt_mul i.isLt⟩)

/-- The places in the order in which their pixels are stored. -/
def storedPlaces : List (Fin width × Fin height) := (List.finRange 2048).map storedPlace

theorem nodup_storedPlaces : storedPlaces.Nodup := by
  refine List.pairwise_map.2 ((List.nodup_finRange 2048).imp fun different same => different ?_)
  simp only [storedPlace, Prod.mk.injEq, Fin.mk.injEq] at same
  apply Fin.ext
  omega

theorem toFinset_storedPlaces : storedPlaces.toFinset = Finset.univ := by
  rw [Finset.eq_univ_iff_forall]
  rintro ⟨⟨x, across⟩, ⟨y, down⟩⟩
  have inside : y * 64 + x < 2048 := by
    simp only [width, height] at across down
    omega
  refine List.mem_toFinset.2 (List.mem_map.2 ⟨⟨y * 64 + x, inside⟩, List.mem_finRange _, ?_⟩)
  simp only [storedPlace, Prod.mk.injEq, Fin.mk.injEq]
  simp only [width] at across
  omega

theorem get_storedPlace (frame : Framebuffer) (i : Fin 2048) :
    frame.get (storedPlace i).1 (storedPlace i).2 = frame.pixels.get i := by
  have place : (storedPlace i).1.val < width ∧ (storedPlace i).2.val < height :=
    ⟨(storedPlace i).1.isLt, (storedPlace i).2.isLt⟩
  have back : (storedPlace i).2.val * width + (storedPlace i).1.val = i.val :=
    Nat.div_add_mod' i.val 64
  simp [get, at?, index?, place, back]
  rfl

theorem toList_pixels (frame : Framebuffer) :
    frame.pixels.toList = storedPlaces.map fun place => frame.get place.1 place.2 := by
  apply List.ext_getElem
  · simp [storedPlaces]
  · intro i inside _
    simp [storedPlaces, get_storedPlace]
    rfl

/-- A screen is told by its pixels. -/
theorem eq_of_get {frame frame' : Framebuffer}
    (same : ∀ x < width, ∀ y < height, frame.get x y = frame'.get x y) : frame = frame' := by
  have stored : frame.pixels.toList = frame'.pixels.toList := by
    rw [toList_pixels, toList_pixels]
    exact List.map_congr_left fun place _ => same _ place.1.isLt _ place.2.isLt
  have pixels : frame.pixels = frame'.pixels := Vector.toList_inj.1 stored
  cases frame
  cases frame'
  exact congrArg mk pixels

theorem litCount_eq_area (frame : Framebuffer) : frame.litCount = area frame.get := by
  calc frame.litCount
      = storedPlaces.countP fun place => frame.get place.1 place.2 := by
        rw [litCount, toList_pixels, List.count, List.countP_map]
        congr 1
        funext place
        simp
    _ = (storedPlaces.filter fun place => frame.get place.1 place.2).toFinset.card := by
        rw [List.toFinset_card_of_nodup (nodup_storedPlaces.filter _), List.countP_eq_length_filter]
    _ = area frame.get := by
        rw [List.toFinset_filter, toFinset_storedPlaces, area]

/-! ## Turning pixels over -/

/-- What was on before and was not turned over stays on, and what was off and was turned over
goes on. -/
theorem litCount_of_turned {before after : Framebuffer} {turned : Nat → Nat → Bool}
    (turns : ∀ x < width, ∀ y < height, after.get x y = (before.get x y ^^ turned x y)) :
    after.litCount + 2 * area (fun x y => before.get x y && turned x y) =
      before.litCount + area turned := by
  simp only [litCount_eq_area, area, Finset.card_filter, Finset.mul_sum]
  rw [← Finset.sum_add_distrib, ← Finset.sum_add_distrib]
  refine Finset.sum_congr rfl fun place _ => ?_
  rw [turns place.1 place.1.isLt place.2 place.2.isLt]
  cases before.get place.1 place.2 <;> cases turned place.1 place.2 <;> rfl

end Chip8.Framebuffer
