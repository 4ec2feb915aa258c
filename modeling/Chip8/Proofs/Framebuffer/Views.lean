import Chip8.Proofs.Framebuffer.Area
import Chip8.Proofs.Framebuffer.Plane

/-!
# All views of a frame agree

The bytes of a picture, the lines of its text and the planes of its places are found in three ways
of their own, and all of them go through the pixels in the order in which they are stored.
`InBytes`, `InLines` and `InPlane` say of any bytes, lines and places that they show a frame,
without a word on how they are found.  Each of them tells the frame: `views_agree`.
-/

namespace Chip8.Framebuffer

variable {frame other : Framebuffer} {lit : Bool} {x y : Nat}

/-! ## Blocks of one length -/

section Blocks

variable {α β : Type} {block : α → List β} {size : Nat} (uniform : ∀ a, (block a).length = size)
include uniform

theorem length_flatMap (list : List α) : (list.flatMap block).length = size * list.length := by
  induction list with
  | nil => rfl
  | cons head rest ih =>
      rw [List.flatMap_cons, List.length_append, uniform, ih, List.length_cons, Nat.mul_succ,
        Nat.add_comm]

/-- The block of one element. -/
theorem take_drop_flatMap (list : List α) (i : Nat) :
    ((list.flatMap block).drop (size * i)).take size = (list[i]?.map block).getD [] := by
  induction list generalizing i with
  | nil => simp
  | cons head rest ih =>
      cases i with
      | zero => simp [uniform]
      | succ i =>
          rw [List.flatMap_cons, Nat.mul_succ, Nat.add_comm, ← List.drop_drop, ← uniform head,
            List.drop_left, uniform head]
          exact ih i

theorem getElem?_flatMap {j : Nat} (inside : j < size) (list : List α) (i : Nat) :
    (list.flatMap block)[size * i + j]? = ((list[i]?.map block).getD [])[j]? := by
  rw [← take_drop_flatMap uniform list i, List.getElem?_take_of_lt inside, List.getElem?_drop]

end Blocks

/-! ## The order of the pixels -/

theorem getElem?_pixels (frame : Framebuffer) (across : x < width) (down : y < height) :
    frame.pixels.toList[64 * y + x]? = some (frame.get x y) := by
  have inside : y * width + x < 2048 := by
    simp only [width, height] at across down ⊢
    omega
  have found : index? x y = some ⟨y * width + x, inside⟩ := dif_pos ⟨across, down⟩
  rw [get, at?, found, Option.map_some, Option.getD_some, Vector.getElem?_toList, Nat.mul_comm 64]
  exact Vector.getElem?_eq_getElem inside

theorem length_row (frame : Framebuffer) (y : Nat) : (frame.row y).length = 64 := by
  rw [row, List.length_map, List.length_range]

theorem getElem?_row (frame : Framebuffer) (across : x < width) (y : Nat) :
    (frame.row y)[x]? = some (frame.get x y) := by
  rw [row, List.getElem?_map, List.getElem?_range across, Option.map_some]

theorem getElem?_rows (frame : Framebuffer) (down : y < height) :
    frame.rows[y]? = some (frame.row y) := by
  rw [rows, List.getElem?_map, List.getElem?_range down, Option.map_some]

/-- The rows are the stored pixels, cut into pieces. -/
theorem flatten_rows (frame : Framebuffer) : frame.rows.flatten = frame.pixels.toList := by
  refine List.ext_getElem? fun number => ?_
  have across : number % 64 < 64 := Nat.mod_lt number (by decide)
  rw [rows, ← List.flatMap_def, ← Nat.div_add_mod number 64,
    getElem?_flatMap frame.length_row across]
  by_cases down : number / 64 < height
  · rw [List.getElem?_range down, Option.map_some, Option.getD_some, getElem?_row frame across,
      getElem?_pixels frame across down]
  · have past : height ≤ number / 64 := Nat.le_of_not_lt down
    have behind : 2048 ≤ 64 * (number / 64) + number % 64 := by
      simp only [height] at past
      omega
    rw [List.getElem?_eq_none (List.length_range.trans_le past), Vector.getElem?_toList,
      Vector.getElem?_eq_none behind]
    rfl

/-! ## What shows a frame -/

/-- Four bytes a pixel show the frame. -/
structure InBytes (frame : Framebuffer) (bytes : List UInt8) : Prop where
  /-- There are 64 times 32 pixels. -/
  length : bytes.length = 8192
  /-- A pixel that is on is opaque white, and one that is off is opaque black. -/
  pixel : ∀ x < 64, ∀ y < 32, (bytes.drop (4 * (64 * y + x))).take 4 =
    if frame.get x y then [0xFF, 0xFF, 0xFF, 0xFF] else [0x00, 0x00, 0x00, 0xFF]

/-- Lines of characters show the frame. -/
structure InLines (frame : Framebuffer) (lines : List (List Char)) : Prop where
  /-- There is a line for every row. -/
  length : lines.length = 32
  /-- Every line has a character for every column. -/
  width : ∀ line ∈ lines, line.length = 64
  /-- A pixel that is on is a cross, and one that is off is a point. -/
  pixel : ∀ x < 64, ∀ y < 32, ∃ marks, lines[y]? = some marks ∧
    marks[x]? = some (if frame.get x y then 'X' else '.')

/-- Coordinates show which pixels of the frame are in the state `lit`, on a grid of any size. -/
structure InPlane (frame : Framebuffer) (lit : Bool) (width height : Nat)
    (places : List (Nat × Int)) : Prop where
  /-- The coordinates are those of the pixels in this state, and no others. -/
  mem_iff : ∀ place, place ∈ places ↔
    ∃ x < width, ∃ y < height, frame.get x y = lit ∧ place = (x, -(y : Int))
  /-- None of them comes twice. -/
  nodup : places.Nodup
  /-- They come in order, the last one first. -/
  ordered : places.Pairwise fun place place' => Before place' place
  /-- As floating-point numbers they are the same on a grid of at most `2 ^ 53` places. -/
  held : width * height ≤ 2 ^ 53 → places.map heldPlace = places

/-! ### Each tells the frame -/

theorem InBytes.eq {bytes : List UInt8} (shown : frame.InBytes bytes)
    (shown' : other.InBytes bytes) : frame = other := by
  refine eq_of_get fun x across y down => ?_
  have same := (shown.pixel x across y down).symm.trans (shown'.pixel x across y down)
  cases first : frame.get x y <;> cases second : other.get x y <;> simp [first, second] at same ⊢

theorem InLines.eq {lines : List (List Char)} (shown : frame.InLines lines)
    (shown' : other.InLines lines) : frame = other := by
  refine eq_of_get fun x across y down => ?_
  obtain ⟨line, found, character⟩ := shown.pixel x across y down
  obtain ⟨line', found', character'⟩ := shown'.pixel x across y down
  obtain rfl := Option.some.inj (found.symm.trans found')
  have same := character.symm.trans character'
  cases first : frame.get x y <;> cases second : other.get x y <;> simp [first, second] at same ⊢

theorem InPlane.get_iff {width height : Nat} {places : List (Nat × Int)}
    (shown : frame.InPlane lit width height places) (across : x < width) (down : y < height) :
    (x, -(y : Int)) ∈ places ↔ frame.get x y = lit := by
  rw [shown.mem_iff]
  constructor
  · rintro ⟨x', _, y', _, state, same⟩
    obtain ⟨rfl, same⟩ := Prod.mk.inj same
    obtain rfl : y = y' := by omega
    exact state
  · intro state
    exact ⟨x, across, y, down, state, rfl⟩

theorem InPlane.eq {places : List (Nat × Int)} (shown : frame.InPlane lit 64 32 places)
    (shown' : other.InPlane lit 64 32 places) : frame = other := by
  refine eq_of_get fun x across y down => ?_
  have same := (shown.get_iff across down).symm.trans (shown'.get_iff across down)
  cases first : frame.get x y <;> cases second : other.get x y <;> cases lit <;>
    simp [first, second] at same ⊢

/-! ## The three views -/

theorem inBytes_toRgba (frame : Framebuffer) : frame.InBytes frame.toRgba := by
  have uniform (pixel : Bool) : (rgbaPixel pixel).length = 4 := by cases pixel <;> rfl
  constructor
  · rw [toRgba, length_flatMap uniform, Vector.length_toList]
  · intro x across y down
    rw [toRgba, take_drop_flatMap uniform, getElem?_pixels frame across down, Option.map_some,
      Option.getD_some]
    cases frame.get x y <;> rfl

theorem inLines_toLines (frame : Framebuffer) :
    frame.InLines (frame.toLines.map String.toList) := by
  constructor
  · simp [toLines, rows]
  · simp only [toLines, rows, List.map_map, List.forall_mem_map, Function.comp_apply,
      String.toList_ofList, List.length_map, length_row, implies_true]
  · intro x across y down
    refine ⟨(frame.row y).map mark, ?_, ?_⟩
    · rw [toLines, List.getElem?_map, List.getElem?_map, getElem?_rows frame down, Option.map_some,
        Option.map_some, String.toList_ofList]
    · rw [List.getElem?_map, getElem?_row frame across, Option.map_some]
      cases frame.get x y <;> rfl

/-- Cutting at the ends of the lines gives the lines, with nothing behind the last one. -/
theorem splitOn_toText (frame : Framebuffer) :
    frame.toText.toList.splitOn '\n' = frame.toLines.map String.toList ++ [[]] := by
  have ended (lines : List (List Char)) :
      lines.flatMap (· ++ ['\n']) = ['\n'].intercalate (lines ++ [[]]) := by
    induction lines with
    | nil => rfl
    | cons line rest ih => cases rest <;> simp_all [List.intercalate_cons_cons]
  have text : frame.toText.toList = (frame.toLines.map String.toList).flatMap (· ++ ['\n']) := by
    simp [toText, toLines, List.flatMap_map]
  have plain : ∀ line ∈ frame.toLines.map String.toList ++ [[]], '\n' ∉ line := by
    simp only [toLines, List.map_map, List.mem_append, List.mem_map, List.mem_singleton,
      Function.comp_apply, String.toList_ofList]
    rintro line (⟨row, _, rfl⟩ | rfl) member
    · obtain ⟨pixel, _, same⟩ := List.mem_map.1 member
      cases pixel <;> cases same
    · cases member
  rw [text, ended]
  exact List.splitOn_intercalate '\n' plain (by simp)

theorem inPlane_plane (frame : Framebuffer) (lit : Bool) (width height : Nat) :
    frame.InPlane lit width height (frame.plane width height lit) where
  mem_iff _ := mem_plane frame lit
  nodup := nodup_plane frame lit width height
  ordered := pairwise_plane frame lit width height
  held := map_heldPlace_plane frame lit

/-- The bytes, the text and the planes of a frame show it, pixel by pixel.  The text has one line
for every row and nothing behind the last one, and its rows are the stored pixels cut into pieces of
64.  Of the places on a grid of any size each is in the plane of its state and not in the other one,
so the two planes have all places between them.  The bytes, the text, and either of the planes of
the whole screen tell the frame. -/
theorem views_agree (frame : Framebuffer) :
    frame.InBytes frame.toRgba ∧
      (frame.InLines (frame.toLines.map String.toList) ∧
        frame.toText.toList.splitOn '\n' = frame.toLines.map String.toList ++ [[]] ∧
        frame.rows.flatten = frame.pixels.toList) ∧
      (∀ width height,
        (∀ lit, frame.InPlane lit width height (frame.plane width height lit)) ∧
        (∀ x < width, ∀ y < height, (x, -(y : Int)) ∈ frame.plane width height true ↔
          (x, -(y : Int)) ∉ frame.plane width height false) ∧
        (frame.plane width height true).length + (frame.plane width height false).length =
          width * height) ∧
      ∀ other : Framebuffer,
        (other.toRgba = frame.toRgba → other = frame) ∧
        (other.toText = frame.toText → other = frame) ∧
        ∀ lit, other.plane 64 32 lit = frame.plane 64 32 lit → other = frame := by
  refine ⟨inBytes_toRgba frame, ⟨inLines_toLines frame, splitOn_toText frame, flatten_rows frame⟩,
    fun width height => ⟨fun lit => inPlane_plane frame lit width height, ?_,
      length_planes frame width height⟩, fun other => ⟨fun same => ?_, fun same => ?_, ?_⟩⟩
  · intro x across y down
    have on := inPlane_plane frame true width height
    have off := inPlane_plane frame false width height
    rw [on.get_iff across down, off.get_iff across down, Bool.not_eq_false]
  · exact (same ▸ inBytes_toRgba other).eq (inBytes_toRgba frame)
  · have lines := splitOn_toText other
    rw [same, splitOn_toText frame] at lines
    exact (List.append_cancel_right lines ▸ inLines_toLines other).eq (inLines_toLines frame)
  · intro lit same
    exact (same ▸ inPlane_plane other lit 64 32).eq (inPlane_plane frame lit 64 32)

/-- A single pixel that is on.  Its bytes are white, and on a small grid all other places are in the
plane of the pixels that are off.  No other frame has the same text. -/
theorem views_agree_dot :
    let frame := blank.flip 5 2
    frame.get 5 2 = true ∧
      (frame.toRgba.drop (4 * (64 * 2 + 5))).take 4 = [0xFF, 0xFF, 0xFF, 0xFF] ∧
      (5, -2) ∈ frame.plane 8 4 true ∧ (5, -2) ∉ frame.plane 8 4 false ∧
      (frame.plane 8 4 true).length + (frame.plane 8 4 false).length = 32 ∧
      ∀ other : Framebuffer, other.toText = frame.toText → other = frame := by
  intro frame
  have on : frame.get 5 2 = true := by
    rw [get_flip, get_blank]
    rfl
  obtain ⟨bytes, _, planes, told⟩ := views_agree frame
  obtain ⟨shown, shared, all⟩ := planes 8 4
  have member : (5, -2) ∈ frame.plane 8 4 true :=
    ((shown true).get_iff (by decide) (by decide)).2 on
  refine ⟨on, ?_, member, (shared 5 (by decide) 2 (by decide)).1 member, all,
    fun other => (told other).2.1⟩
  have white := bytes.pixel 5 (by decide) 2 (by decide)
  rwa [on] at white

end Chip8.Framebuffer
