import Chip8.Proofs.Machine.Blit

/-!
# Drawing one sprite after another

Drawing turns pixels over, and turning them over does not depend on the order: behind a list of
turns a pixel is known from the parity with which its place stands in the list (`flipAll_eq_iff`).
A sprite keeps its places while others are drawn, because nothing of what they are read from
changes but the flag register.  So sprites whose corner is not held by that register can be drawn in
any order, and two equal ones cancel wherever they stand: `drawAll_order`.

The second of two equal sprites in a row finds the pixels of the first one turned over, so it
turns off what was off before both.
-/

namespace Chip8

/-- A `DXYN` that does not take its corner from the flag register. -/
structure Drawing where
  /-- The register of the left edge. -/
  x : Register
  /-- The register of the upper edge. -/
  y : Register
  /-- The number of rows. -/
  rows : Fin 16
  x_ne_flag : x ≠ Machine.flag
  y_ne_flag : y ≠ Machine.flag
  deriving DecidableEq

/-- A drawing as an instruction. -/
def Drawing.instruction (drawing : Drawing) : Instruction :=
  .draw drawing.x drawing.y drawing.rows

/-! ## Turning places over in any order -/

namespace Framebuffer

variable {frame : Framebuffer} {places places' : List (Nat × Nat)}

theorem flipAll_append (frame : Framebuffer) (places places' : List (Nat × Nat)) :
    frame.flipAll (places ++ places') = (frame.flipAll places).flipAll places' :=
  List.foldl_append

/-- Lists that have each place on the screen with the same parity turn over the same pixels, and
no others do. -/
theorem flipAll_eq_iff :
    frame.flipAll places = frame.flipAll places' ↔
      ∀ px < width, ∀ py < height,
        places.count (px, py) % 2 = places'.count (px, py) % 2 := by
  constructor
  · intro same px across py down
    have pixel := congrArg (Framebuffer.get · px py) same
    simp only [get_flipAll _ _ ⟨across, down⟩, Bool.xor_right_inj, decide_eq_decide] at pixel
    omega
  · intro parity
    refine eq_of_get fun px across py down => ?_
    rw [get_flipAll _ _ ⟨across, down⟩, get_flipAll _ _ ⟨across, down⟩, parity px across py down]

theorem flipAll_perm (frame : Framebuffer) (same : places.Perm places') :
    frame.flipAll places = frame.flipAll places' :=
  flipAll_eq_iff.2 fun _ _ _ _ => by rw [same.count_eq]

/-- Places that are turned over twice may as well be left out. -/
theorem flipAll_twice (frame : Framebuffer) (before twice between behind : List (Nat × Nat)) :
    frame.flipAll (before ++ twice ++ between ++ twice ++ behind) =
      frame.flipAll (before ++ between ++ behind) := by
  refine flipAll_eq_iff.2 fun px _ py _ => ?_
  simp only [List.count_append]
  omega

/-- Turning different places over again turns off those that were off at the start. -/
theorem collides_flipAll_iff (frame : Framebuffer) (once : places.Nodup) :
    (frame.flipAll places).collides places = true ↔
      ∃ px < width, ∃ py < height, (px, py) ∈ places ∧ frame.get px py = false := by
  have turned {px py : Nat} (inside : px < width ∧ py < height) (member : (px, py) ∈ places) :
      (frame.flipAll places).get px py = !frame.get px py := by
    rw [get_flipAll_of_nodup frame once inside, decide_eq_true member, Bool.xor_true]
  rw [collides_iff _ once]
  constructor
  · rintro ⟨⟨px, py⟩, member, lit⟩
    have inside := inside_of_get lit
    rw [turned inside member, Bool.not_eq_true'] at lit
    exact ⟨px, inside.1, py, inside.2, member, lit⟩
  · rintro ⟨px, across, py, down, member, dark⟩
    refine ⟨(px, py), member, ?_⟩
    rw [turned ⟨across, down⟩ member, dark]
    rfl

end Framebuffer

namespace Machine

open Framebuffer (flipAll_append flipAll_perm flipAll_twice)

variable (machine : Machine) (drawing : Drawing) (drawings : List Drawing)

/-- The machine with sprites drawn one after another. -/
def drawAll (machine : Machine) (drawings : List Drawing) : Machine :=
  drawings.foldl (fun machine drawing => (machine.execute drawing.instruction).2) machine

/-- The places that a drawing turns over. -/
def placesOf (machine : Machine) (drawing : Drawing) : List (Nat × Nat) :=
  machine.spritePlaces drawing.x drawing.y drawing.rows

/-- The words from the program counter on are those of the drawings. -/
def Ahead (memory : Memory) : UInt16 → List Drawing → Prop
  | _, [] => True
  | address, drawing :: rest =>
      memory.readWord address = drawing.instruction.encode ∧ Ahead memory (address + 2) rest
termination_by structural _ drawings => drawings

/-! ## The screen behind a list of drawings -/

theorem drawAll_cons :
    machine.drawAll (drawing :: drawings) =
      (machine.draw drawing.x drawing.y drawing.rows).drawAll drawings := rfl

/-- A drawing keeps the places of all others. -/
theorem placesOf_draw (x y : Register) (rows : Fin 16) :
    (machine.draw x y rows).placesOf drawing = machine.placesOf drawing := by
  have kept {z : Register} (other : z ≠ flag) :
      (machine.draw x y rows).register z = machine.register z := by
    refine (register_setRegister machine flag z _).trans (if_neg other.symm)
  rw [placesOf, placesOf, spritePlaces, spritePlaces, kept drawing.x_ne_flag,
    kept drawing.y_ne_flag]
  rfl

theorem screen_drawAll :
    (machine.drawAll drawings).screen =
      machine.screen.flipAll (drawings.flatMap machine.placesOf) := by
  induction drawings generalizing machine with
  | nil => rfl
  | cons drawing rest ih =>
      have kept : (machine.draw drawing.x drawing.y drawing.rows).placesOf = machine.placesOf :=
        funext fun other => placesOf_draw machine other ..
      rw [drawAll_cons, ih, kept, List.flatMap_cons, flipAll_append]
      rfl

theorem screen_drawAll_perm {drawings drawings' : List Drawing} (same : drawings.Perm drawings') :
    (machine.drawAll drawings).screen = (machine.drawAll drawings').screen := by
  rw [screen_drawAll, screen_drawAll]
  exact flipAll_perm machine.screen (same.flatMap_right _)

theorem screen_drawAll_twice (before between behind : List Drawing) :
    (machine.drawAll (before ++ drawing :: between ++ drawing :: behind)).screen =
      (machine.drawAll (before ++ between ++ behind)).screen := by
  simp only [screen_drawAll, List.flatMap_append, List.flatMap_cons]
  have twice := flipAll_twice machine.screen (before.flatMap machine.placesOf)
    (machine.placesOf drawing) (between.flatMap machine.placesOf) (behind.flatMap machine.placesOf)
  simpa only [List.append_assoc] using twice

theorem flag_draw (x y : Register) (rows : Fin 16) :
    (machine.draw x y rows).register flag =
      if machine.screen.collides (machine.spritePlaces x y rows) then 1 else 0 :=
  (register_setRegister machine flag flag _).trans (if_pos rfl)

/-- The second of two equal drawings in a row finds the places of the first turned over. -/
theorem flag_drawAll_twice :
    (machine.drawAll [drawing, drawing]).register flag =
      if (machine.screen.flipAll (machine.placesOf drawing)).collides (machine.placesOf drawing)
      then 1 else 0 := by
  have second := flag_draw (machine.draw drawing.x drawing.y drawing.rows)
    drawing.x drawing.y drawing.rows
  rw [← placesOf, placesOf_draw] at second
  exact second

/-! ## Drawings in a program -/

/-- A drawing does not read the program counter. -/
theorem drawAll_pc (address : UInt16) :
    ({ machine with pc := address } : Machine).drawAll drawings =
      { machine.drawAll drawings with pc := address } := by
  induction drawings generalizing machine with
  | nil => rfl
  | cons drawing rest ih => exact ih (machine.draw drawing.x drawing.y drawing.rows)

variable {machine} {drawing} {drawings}

theorem step_of_drawing (word : machine.opcode = drawing.instruction.encode) :
    machine.step =
      (.ok (), { machine.draw drawing.x drawing.y drawing.rows with pc := machine.pc + 2 }) :=
  step_of_encode drawing.instruction word rfl

/-- Steps over drawings that stand in a row succeed and draw them. -/
theorem steps_of_ahead (ahead : Ahead machine.memory machine.pc drawings) :
    machine.answers (List.replicate drawings.length .step) =
        List.replicate drawings.length .done ∧
      machine.after (List.replicate drawings.length .step) =
        { machine.drawAll drawings with
          pc := machine.pc + UInt16.ofNat (2 * drawings.length) } := by
  induction drawings generalizing machine with
  | nil =>
      have here : machine.pc + UInt16.ofNat 0 = machine.pc := UInt16.add_zero machine.pc
      exact ⟨rfl, congrArg (fun address => { machine with pc := address }) here.symm⟩
  | cons drawing rest ih =>
      obtain ⟨word, later⟩ := ahead
      have moved := step_of_drawing word
      let drawn := machine.draw drawing.x drawing.y drawing.rows
      let next : Machine := { drawn with pc := machine.pc + 2 }
      obtain ⟨replies, reached⟩ := ih (show Ahead next.memory next.pc rest from later)
      have further : machine.pc + 2 + UInt16.ofNat (2 * rest.length) =
          machine.pc + UInt16.ofNat (2 * (rest.length + 1)) := by
        rw [UInt16.add_assoc, Nat.mul_succ, Nat.add_comm, UInt16.ofNat_add]
        rfl
      rw [drawAll_pc, further] at reached
      rw [List.length_cons, List.replicate_succ, List.replicate_succ, answers, after_cons,
        perform_step, moved]
      exact ⟨congrArg (.done :: ·) replies, reached⟩

/-- Drawings are executed one after another, as a program does that has them in a row.  None of
them fails.  Every order of them leaves the same screen, and two equal ones can be left out wherever
they stand.  The same drawing twice in a row leaves the screen as it was, and the flag is one behind
it if a pixel under the sprite was off before, and zero if none was. -/
theorem drawAll_order (machine : Machine) (drawings : List Drawing) :
    (Ahead machine.memory machine.pc drawings →
        machine.answers (List.replicate drawings.length .step) =
            List.replicate drawings.length .done ∧
          machine.after (List.replicate drawings.length .step) =
            { machine.drawAll drawings with
              pc := machine.pc + UInt16.ofNat (2 * drawings.length) }) ∧
      (∀ other, drawings.Perm other →
        (machine.drawAll drawings).screen = (machine.drawAll other).screen) ∧
      (∀ drawing before between behind,
        drawings = before ++ drawing :: between ++ drawing :: behind →
        (machine.drawAll drawings).screen =
          (machine.drawAll (before ++ between ++ behind)).screen) ∧
      ∀ drawing : Drawing, ∃ collided : Bool,
        (machine.drawAll [drawing, drawing]).screen = machine.screen ∧
          (machine.drawAll [drawing, drawing]).register flag = (if collided then 1 else 0) ∧
          (collided = true ↔
            ∃ px < 64, ∃ py < 32,
              machine.sprite drawing.x drawing.y drawing.rows px py = true ∧
                machine.screen.get px py = false) := by
  refine ⟨steps_of_ahead, fun other => screen_drawAll_perm machine, ?_, fun drawing => ?_⟩
  · rintro drawing before between behind rfl
    exact screen_drawAll_twice machine drawing before between behind
  · refine ⟨_, screen_drawAll_twice machine drawing [] [] [],
      flag_drawAll_twice machine drawing, ?_⟩
    have once := nodup_spritePlaces machine drawing.x drawing.y drawing.rows
    simp only [placesOf, Framebuffer.collides_flipAll_iff _ once, mem_spritePlaces_iff]

/-- Two sprites overlap, and one of them runs off the lower right corner.  The program draws it
twice, with the other one in between, which alone is left on the screen. -/
theorem drawAll_order_corner :
    let machine := ((powerOn (RandomStream.cycle #[])).setRegister 0 0x3E).after
      [.load [0xD0, 0x15, 0xD1, 0x03, 0xD0, 0x15], .setRegister 1 0x1E]
    let corner : Drawing := ⟨0, 1, 5, by decide, by decide⟩
    let edge : Drawing := ⟨1, 0, 3, by decide, by decide⟩
    let behind := machine.after (List.replicate 3 .step)
    Ahead machine.memory machine.pc [corner, edge, corner] ∧
      behind.screen = (machine.drawAll [edge]).screen ∧
      behind.screen = (machine.drawAll [edge, corner, corner]).screen ∧
      (machine.drawAll [corner, corner]).register flag = 1 := by
  intro machine corner edge behind
  have facts :
      (machine.memory.readWord machine.pc = corner.instruction.encode ∧
        machine.memory.readWord (machine.pc + 2) = edge.instruction.encode ∧
        machine.memory.readWord (machine.pc + 2 + 2) = corner.instruction.encode) ∧
      machine.sprite 0 1 5 62 30 = true ∧ machine.screen.get 62 30 = false := by
    decide +kernel
  clear_value machine
  obtain ⟨⟨first, second, third⟩, under, dark⟩ := facts
  have ahead : Ahead machine.memory machine.pc [corner, edge, corner] :=
    ⟨first, second, third, trivial⟩
  obtain ⟨program, order, twice, again⟩ := drawAll_order machine [corner, edge, corner]
  have drawn : behind.screen = (machine.drawAll [corner, edge, corner]).screen := by
    rw [show behind = _ from (program ahead).2]
  obtain ⟨collided, _, flagged, collides⟩ := again corner
  have hit : collided = true := collides.2 ⟨62, by decide, 30, by decide, under, dark⟩
  rw [hit, if_pos rfl] at flagged
  exact ⟨ahead, drawn.trans (twice corner [] [edge] [] rfl),
    drawn.trans (order _ (.swap edge corner [corner])), flagged⟩

end Machine

end Chip8
