import Chip8.Framebuffer.Sprite

/-!
# What turning places over leaves

Turning a place over twice undoes it, so behind a list of turns only the parity counts with
which a place stands in the list: `get_flipAll`.

The places of a sprite are all different (`nodup_spritePlaces`), and which they are is told by
the bits of its rows (`mem_spritePlaces`).  So a sprite turns over each of its places once, and
it meets a pixel that is on exactly if one of its places was on before (`collides_iff`).
-/

namespace Chip8.Framebuffer

variable {frame : Framebuffer} {places : List (Nat × Nat)} {x y px py : Nat}

/-- Only places on the screen are on. -/
theorem inside_of_get (lit : frame.get x y = true) : x < width ∧ y < height := by
  apply Classical.byContradiction
  intro outside
  rw [get, at?, index?_eq_none_iff.2 outside] at lit
  cases lit

/-! ## Lists of turns -/

theorem flipAll_cons (place : Nat × Nat) (rest : List (Nat × Nat)) :
    frame.flipAll (place :: rest) = (frame.flip place.1 place.2).flipAll rest := rfl

theorem get_flip_of_inside (x y : Nat) (inside : px < width ∧ py < height) :
    (frame.flip x y).get px py = (frame.get px py ^^ decide ((x, y) = (px, py))) := by
  rw [get_flip]
  by_cases same : (x, y) = (px, py)
  · cases same
    rw [if_pos ⟨rfl, rfl, inside⟩, decide_eq_true rfl, Bool.xor_true]
  · rw [if_neg fun h => same (Prod.ext h.1 h.2.1), decide_eq_false same, Bool.xor_false]

/-- A place is turned over as often as it stands in the list. -/
theorem get_flipAll (frame : Framebuffer) (places : List (Nat × Nat))
    (inside : px < width ∧ py < height) :
    (frame.flipAll places).get px py =
      (frame.get px py ^^ decide (places.count (px, py) % 2 = 1)) := by
  induction places generalizing frame with
  | nil => simp [flipAll]
  | cons place rest ih =>
      rw [flipAll_cons, ih, get_flip_of_inside _ _ inside, List.count_cons, Bool.xor_assoc]
      congr 1
      by_cases same : place = (px, py)
      · rw [if_pos (beq_iff_eq.2 same), decide_eq_true same, Bool.true_xor, ← decide_not,
          decide_eq_decide]
        omega
      · rw [if_neg fun h => same (beq_iff_eq.1 h), decide_eq_false same, Bool.false_xor,
          Nat.add_zero]

/-- A list without repetitions turns its places over, and no others. -/
theorem get_flipAll_of_nodup (frame : Framebuffer) (once : places.Nodup)
    (inside : px < width ∧ py < height) :
    (frame.flipAll places).get px py = (frame.get px py ^^ decide ((px, py) ∈ places)) := by
  rw [get_flipAll frame places inside, once.count]
  by_cases turned : (px, py) ∈ places <;> simp [turned]

/-- Turning over different places one after another turns a pixel off exactly if one of them
was on at the start. -/
theorem collides_iff (frame : Framebuffer) (once : places.Nodup) :
    frame.collides places = true ↔ ∃ place ∈ places, frame.get place.1 place.2 = true := by
  induction places generalizing frame with
  | nil => simp [collides]
  | cons place rest ih =>
      obtain ⟨fresh, once⟩ := List.nodup_cons.1 once
      -- The first turn is at a place that the others do not come back to.
      have before (other : Nat × Nat) (later : other ∈ rest) :
          (frame.flip place.1 place.2).get other.1 other.2 = frame.get other.1 other.2 := by
        rw [get_flip, if_neg]
        rintro ⟨across, down, _⟩
        exact fresh (Prod.ext across down ▸ later)
      rw [collides, Bool.or_eq_true, ih _ once]
      simp only [List.mem_cons, exists_eq_or_imp]
      refine or_congr Iff.rfl (exists_congr fun other => and_congr_right fun later => ?_)
      rw [before other later]

/-! ## The places of a sprite -/

theorem mem_spriteColumns {bits : UInt8} {column : Nat} :
    column ∈ spriteColumns bits ↔ column < 8 ∧ bits.toNat.testBit (7 - column) = true := by
  simp [spriteColumns]

theorem mem_spriteRow {bits : UInt8} :
    (px, py) ∈ (spriteColumns bits).map (fun column => (x + column, y)) ↔
      x ≤ px ∧ px < x + 8 ∧ py = y ∧ bits.toNat.testBit (7 - (px - x)) = true := by
  simp only [List.mem_map, mem_spriteColumns, Prod.mk.injEq]
  constructor
  · rintro ⟨column, ⟨inside, set⟩, rfl, rfl⟩
    rw [Nat.add_sub_cancel_left]
    exact ⟨by omega, by omega, rfl, set⟩
  · rintro ⟨left, right, rfl, set⟩
    exact ⟨px - x, ⟨by omega, set⟩, by omega, rfl⟩

/-- A place belongs to a sprite if its row has a byte in which the bit of its column is set. -/
theorem mem_spritePlaces {sprite : List UInt8} :
    (px, py) ∈ spritePlaces x y sprite ↔
      x ≤ px ∧ px < x + 8 ∧ y ≤ py ∧
        ∃ bits, sprite[py - y]? = some bits ∧ bits.toNat.testBit (7 - (px - x)) = true := by
  induction sprite generalizing y with
  | nil => simp [spritePlaces]
  | cons bits rest ih =>
      rw [spritePlaces, List.mem_append, ih, mem_spriteRow]
      constructor
      · rintro (⟨left, right, rfl, set⟩ | ⟨left, right, below, bits', found, set⟩)
        · exact ⟨left, right, Nat.le_refl _, bits, by rw [Nat.sub_self]; rfl, set⟩
        · refine ⟨left, right, by omega, bits', ?_, set⟩
          rw [show py - y = py - (y + 1) + 1 by omega]
          exact found
      · rintro ⟨left, right, below, bits', found, set⟩
        obtain rfl | further := Nat.eq_or_lt_of_le below
        · rw [Nat.sub_self, List.getElem?_cons_zero, Option.some.injEq] at found
          subst found
          exact .inl ⟨left, right, rfl, set⟩
        · rw [show py - y = py - (y + 1) + 1 by omega] at found
          exact .inr ⟨left, right, further, bits', found, set⟩

theorem nodup_spriteColumns (bits : UInt8) : (spriteColumns bits).Nodup :=
  List.nodup_range.filter _

theorem nodup_spritePlaces (x y : Nat) (sprite : List UInt8) : (spritePlaces x y sprite).Nodup := by
  induction sprite generalizing y with
  | nil => exact List.nodup_nil
  | cons bits rest ih =>
      rw [spritePlaces, List.nodup_append]
      refine ⟨?_, ih (y + 1), ?_⟩
      · refine List.pairwise_map.2 ((nodup_spriteColumns bits).imp fun different same => ?_)
        exact different (Nat.add_left_cancel (congrArg Prod.fst same))
      · rintro ⟨px, py⟩ here ⟨px', py'⟩ below same
        rw [mem_spriteRow] at here
        rw [mem_spritePlaces] at below
        cases same
        omega

end Chip8.Framebuffer
