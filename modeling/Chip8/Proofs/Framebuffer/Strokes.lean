import Mathlib.Data.List.DropRight
import Chip8.Proofs.Checked.Storage
import Chip8.Proofs.Framebuffer.Area
import Chip8.Proofs.Framebuffer.Sprite

/-!
# The screen counts by parity

A screen that starts blank is told by what was done to it.  What was done before the screen was
last cleared does not count (`after_eq_flipAll`), and of what was done since then it counts for each
place on the screen whether it was turned over an odd number of times: `turns_tell_pixels`.
-/

namespace Chip8.Framebuffer

variable {x y : Nat}

/-! ## What is done to a screen -/

/-- What can be done to the screen. -/
inductive Stroke where
  /-- A place is turned over.  It need not be on the screen. -/
  | flip (x y : Nat)
  /-- All pixels are turned off. -/
  | clear
  deriving DecidableEq

/-- The place that is turned over. -/
def Stroke.place? : Stroke → Option (Nat × Nat)
  | flip x y => some (x, y)
  | clear => none

/-- The screen with something done to it. -/
def paint (frame : Framebuffer) : Stroke → Framebuffer
  | .flip x y => frame.flip x y
  | .clear => blank

/-- A new screen after things were done to it, one after another. -/
def after (strokes : List Stroke) : Framebuffer := strokes.foldl paint blank

/-- What was done since the screen was last cleared. -/
def sinceClear (strokes : List Stroke) : List Stroke :=
  strokes.rtakeWhile fun stroke => stroke ≠ .clear

/-- How often a place was turned over since the screen was last cleared. -/
def turns (strokes : List Stroke) (x y : Nat) : Nat := (sinceClear strokes).count (.flip x y)

variable (strokes : List Stroke)

theorem after_concat (stroke : Stroke) :
    after (strokes ++ [stroke]) = (after strokes).paint stroke := by
  rw [after, List.foldl_append]
  rfl

theorem sinceClear_flip (x y : Nat) :
    sinceClear (strokes ++ [.flip x y]) = sinceClear strokes ++ [.flip x y] :=
  List.rtakeWhile_concat_pos _ _ _ (decide_eq_true fun same => by cases same)

theorem sinceClear_clear : sinceClear (strokes ++ [.clear]) = [] :=
  List.rtakeWhile_concat_neg _ _ _ (by decide)

/-- Only what was turned over since the screen was last cleared counts. -/
theorem after_eq_flipAll :
    after strokes = blank.flipAll ((sinceClear strokes).filterMap Stroke.place?) := by
  induction strokes using List.reverseRecOn with
  | nil => rfl
  | append_singleton strokes stroke ih =>
      rw [after_concat]
      cases stroke with
      | flip x y =>
          rw [sinceClear_flip, List.filterMap_append, flipAll, List.foldl_append, paint, ih]
          rfl
      | clear =>
          rw [sinceClear_clear]
          rfl

theorem count_places (x y : Nat) :
    ((sinceClear strokes).filterMap Stroke.place?).count (x, y) = turns strokes x y := by
  rw [List.count_filterMap, turns, List.count]
  refine List.countP_congr fun stroke _ => ?_
  cases stroke <;> simp [Stroke.place?]

theorem get_after : (after strokes).get x y = true ↔
    (x < width ∧ y < height) ∧ turns strokes x y % 2 = 1 := by
  by_cases inside : x < width ∧ y < height
  · rw [after_eq_flipAll, get_flipAll blank _ inside, count_places, get_blank, Bool.false_xor,
      decide_eq_true_iff]
    exact (and_iff_right inside).symm
  · exact ⟨fun lit => absurd (inside_of_get lit) inside, fun here => absurd here.1 inside⟩

/-- After anything was done to a new screen a pixel is on exactly if its place was turned over an
odd number of times since the screen was last cleared.  Turning a place over passes all checks in
plain storage.  It answers with the pixel as it was, or with nothing if the place is not on the
screen, and then it changes nothing.  As many pixels are on as there are places on the screen that
were turned over an odd number of times.  Each place on the screen has a pixel of its own. -/
theorem turns_tell_pixels :
    let frame := after strokes
    (∀ x y, frame.get x y = true ↔ x < 64 ∧ y < 32 ∧ turns strokes x y % 2 = 1) ∧
      (∀ x y, Checked.flip frame.pixels.toArray x y =
          .ok (frame.at? x y, (after (strokes ++ [.flip x y])).pixels.toArray) ∧
        (frame.at? x y = none ↔ ¬(x < 64 ∧ y < 32)) ∧
        (frame.at? x y = none → after (strokes ++ [.flip x y]) = frame) ∧
        (x < 64 → y < 32 → frame.at? x y = some (frame.get x y))) ∧
      frame.litCount = area (fun x y => turns strokes x y % 2 = 1) ∧
      (∀ x < 64, ∀ y < 32, ∃ i, index? x y = some i ∧ i.val = 64 * y + x) ∧
      ∀ x y x' y' i, index? x y = some i → index? x' y' = some i → x = x' ∧ y = y' := by
  intro frame
  refine ⟨fun x y => (get_after strokes).trans and_assoc, fun x y => ⟨?_, frame.at?_eq_none_iff, ?_,
    fun across down => frame.at?_of_inside ⟨across, down⟩⟩, ?_, ?_, fun x y x' y' i => index?_inj⟩
  · rw [after_concat]
    exact Checked.flip_pixels frame x y
  · intro missing
    rw [after_concat]
    exact frame.flip_of_outside (frame.at?_eq_none_iff.1 missing)
  · rw [litCount_eq_area, area, area]
    refine congrArg Finset.card (Finset.filter_congr fun place _ => ?_)
    rw [get_after, decide_eq_true_iff]
    exact and_iff_right ⟨place.1.isLt, place.2.isLt⟩
  · intro x across y down
    exact ⟨_, dif_pos ⟨across, down⟩, by rw [Nat.mul_comm 64]⟩

/-- A pixel that was cleared and turned on again, and one that was turned over twice.  In between a
place next to the screen was turned over. -/
theorem turns_tell_pixels_cleared :
    let frame := after [.flip 3 4, .clear, .flip 5 6, .flip 3 4, .flip 64 0, .flip 5 6]
    frame.get 3 4 = true ∧ frame.get 5 6 = false ∧ frame.at? 64 0 = none ∧
      frame.flip 64 0 = frame ∧ frame.at? 3 4 = some true := by
  intro frame
  obtain ⟨pixels, answers, -⟩ :=
    turns_tell_pixels [.flip 3 4, .clear, .flip 5 6, .flip 3 4, .flip 64 0, .flip 5 6]
  have on : frame.get 3 4 = true := (pixels 3 4).2 (by decide)
  have off : ¬frame.get 5 6 = true := fun lit => absurd ((pixels 5 6).1 lit) (by decide)
  have missing : frame.at? 64 0 = none := (answers 64 0).2.1.2 (by decide)
  refine ⟨on, Bool.eq_false_of_not_eq_true off, missing, (answers 64 0).2.2.1 missing, ?_⟩
  rw [← on]
  exact (answers 3 4).2.2.2 (by decide) (by decide)

end Chip8.Framebuffer
