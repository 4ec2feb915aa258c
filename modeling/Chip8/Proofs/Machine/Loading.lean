import Chip8.Machine.Basic
import Chip8.Proofs.ByteSource
import Chip8.Proofs.Memory.Blocks

/-!
# What loading leaves

An image goes to its cells and to no others, or it does not fit and nothing changes.  A
source is asked for one byte more than fits, which is enough to refuse a program however
long it is: `loading_exact`.
-/

namespace Chip8

namespace Memory

variable {image : List UInt8} {index place : Nat}

theorem programLimit_eq : programLimit = 3584 := rfl

/-- The image is found where programs are put. -/
theorem cells_writeAll_inside (memory : Memory) (fits : image.length ≤ programLimit)
    (inside : index < image.length) :
    (memory.writeAll image programStart).cells[0x200 + index]? = image[index]? := by
  rw [programLimit_eq] at fits
  have held : (memory.writeAll image programStart).byteAt (programStart.toNat + index) =
      image[index] :=
    byteAt_writeAll_add memory (by omega) inside
  rw [cells_eq_byteAt _ (by omega), List.getElem?_eq_getElem inside]
  exact congrArg some held

/-- Loading leaves the cells below and above the image alone. -/
theorem cells_writeAll_outside (memory : Memory) (fits : image.length ≤ programLimit)
    (outside : place < 0x200 ∨ 0x200 + image.length ≤ place) :
    (memory.writeAll image programStart).cells[place]? = memory.cells[place]? := by
  by_contra changed
  obtain ⟨distance, within, target⟩ := exists_of_cells_writeAll_ne changed
  rw [programLimit_eq] at fits
  rw [show programStart.toNat = 512 from rfl] at target
  omega

end Memory

namespace Machine

variable {image : List UInt8} {source : ByteSource} {error : IoError}

theorem load_of_le (machine : Machine) (fits : image.length ≤ Memory.programLimit) :
    machine.load image = (.ok (),
      { machine with memory := machine.memory.writeAll image Memory.programStart }) := by
  rw [load, Memory.load, if_pos fits]

theorem load_of_gt (machine : Machine) (exceeds : Memory.programLimit < image.length) :
    machine.load image = (.error (.tooLarge image.length), machine) := by
  rw [load, Memory.load, if_neg (Nat.not_le.2 exceeds)]

theorem loadFrom_of_error (machine : Machine)
    (failed : (source.take (Memory.programLimit + 1)).outcome = .error error) :
    machine.loadFrom source =
      (.error (.reading error), machine, (source.take (Memory.programLimit + 1)).rest) := by
  rw [loadFrom, Memory.loadFrom, failed]

theorem loadFrom_of_ok (machine : Machine)
    (taken : (source.take (Memory.programLimit + 1)).outcome = .ok image) :
    machine.loadFrom source =
      ((machine.load image).1.map fun _ => image.length, (machine.load image).2,
        (source.take (Memory.programLimit + 1)).rest) := by
  simp only [loadFrom, Memory.loadFrom, taken, load]
  cases machine.memory.load image with
  | ok memory => rfl
  | error refused => rfl

/-- The loader leaves what is left when the first 3585 bytes are taken. -/
theorem leaves_loadFrom (machine : Machine) (source : ByteSource) :
    source.Leaves 3585 (machine.loadFrom source).2.2 := by
  have leaves : source.Leaves 3585 (source.take (Memory.programLimit + 1)).rest :=
    (source.begins_take 3585).rest
  cases came : (source.take (Memory.programLimit + 1)).outcome with
  | error error =>
      rw [loadFrom_of_error machine came]
      exact leaves
  | ok image =>
      rw [loadFrom_of_ok machine came]
      exact leaves

/-! ## The first 3585 bytes of a source -/

theorem loadFrom_of_early (machine : Machine) (fails : source.ending = .failing error)
    (early : source.delivered.length < 3585) :
    machine.loadFrom source =
      (.error (.reading error), machine, (machine.loadFrom source).2.2) := by
  have failed : (source.take (Memory.programLimit + 1)).outcome = .error error :=
    ByteSource.outcome_take_of_failing (ByteSource.failsBefore?_eq_some_iff.2 ⟨fails, early⟩)
  rw [loadFrom_of_error machine failed]

theorem loadFrom_of_late (machine : Machine)
    (late : ∀ error, source.ending = .failing error → 3585 ≤ source.delivered.length) :
    machine.loadFrom source =
      ((machine.load (source.first 3585)).1.map fun _ => (source.first 3585).length,
        (machine.load (source.first 3585)).2, (machine.loadFrom source).2.2) := by
  have goesOn : source.failsBefore? 3585 = none := by
    rw [Option.eq_none_iff_forall_ne_some]
    intro error fails
    obtain ⟨ending, early⟩ := ByteSource.failsBefore?_eq_some_iff.1 fails
    exact Nat.not_lt.2 (late error ending) early
  have came : (source.take (Memory.programLimit + 1)).outcome = .ok (source.first 3585) :=
    ByteSource.outcome_take_of_not_failing goesOn
  rw [loadFrom_of_ok machine came]

theorem loadFrom_of_oversize (machine : Machine)
    (oversize : (∃ byte, source.ending = .endless byte) ∨ 3585 ≤ source.delivered.length) :
    machine.loadFrom source =
      (.error (.tooLarge 3585), machine, (machine.loadFrom source).2.2) := by
  have late : ∀ error, source.ending = .failing error → 3585 ≤ source.delivered.length := by
    intro error ending
    refine oversize.resolve_left ?_
    rintro ⟨byte, endless⟩
    cases ending.symm.trans endless
  have full : (source.first 3585).length = 3585 := by
    obtain ⟨byte, endless⟩ | enough := oversize
    · exact ByteSource.length_first_of_endless endless 3585
    · exact ByteSource.length_first_of_delivered enough
  have exceeds : Memory.programLimit < (source.first 3585).length := by
    rw [full]
    decide
  refine (loadFrom_of_late machine late).trans ?_
  rw [load_of_gt machine exceeds, full]
  rfl

/-- Whatever stands behind the first 3585 bytes of a source makes no difference. -/
theorem loadFrom_congr (machine : Machine) {other : ByteSource}
    (begins : other.first 3585 = source.first 3585)
    (fails : other.failsBefore? 3585 = source.failsBefore? 3585) :
    (machine.loadFrom other).1 = (machine.loadFrom source).1 ∧
      (machine.loadFrom other).2.1 = (machine.loadFrom source).2.1 := by
  cases failed : source.failsBefore? 3585 with
  | some error =>
      rw [loadFrom_of_error machine (ByteSource.outcome_take_of_failing failed),
        loadFrom_of_error machine (ByteSource.outcome_take_of_failing (fails.trans failed))]
      exact ⟨rfl, rfl⟩
  | none =>
      have here : (source.take (Memory.programLimit + 1)).outcome = .ok (source.first 3585) :=
        ByteSource.outcome_take_of_not_failing failed
      have there : (other.take (Memory.programLimit + 1)).outcome = .ok (source.first 3585) :=
        (ByteSource.outcome_take_of_not_failing (fails.trans failed)).trans
          (congrArg Except.ok begins)
      rw [loadFrom_of_ok machine here, loadFrom_of_ok machine there]
      exact ⟨rfl, rfl⟩

/-! ## Both ways to load -/

/-- The machine after an image was loaded: the image is in memory from `0x200` on, and
nothing else has changed. -/
structure Carries (before : Machine) (image : List UInt8) (after : Machine) : Prop where
  inside : ∀ index < image.length, after.memory.cells[0x200 + index]? = image[index]?
  outside : ∀ place, place < 0x200 ∨ 0x200 + image.length ≤ place →
    after.memory.cells[place]? = before.memory.cells[place]?
  others : after = { before with memory := after.memory }

theorem carries_load (machine : Machine) (fits : image.length ≤ Memory.programLimit) :
    machine.Carries image (machine.load image).2 := by
  rw [load_of_le machine fits]
  exact ⟨fun _ => Memory.cells_writeAll_inside _ fits,
    fun _ => Memory.cells_writeAll_outside _ fits, rfl⟩

/-- An image is loaded just where it has no more than 3584 bytes.  It is then in its place
and nothing else has changed; an image that is refused changes nothing.  From a source no
more than 3585 bytes are taken, also where it is endless: it counts those that it handed out,
and the loader gives it back with all others in place.  Nothing behind them matters.  If the
source fails before they are there, the failure is passed on and nothing changes.  Otherwise
they are loaded like an image of their own, so a source that brings too many is always said
to bring 3585. -/
theorem loading_exact (machine : Machine) :
    (∀ image : List UInt8,
      (image.length ≤ 3584 →
        (machine.load image).1 = .ok () ∧ machine.Carries image (machine.load image).2) ∧
      (3584 < image.length → machine.load image = (.error (.tooLarge image.length), machine))) ∧
    ∀ source : ByteSource,
      let image := source.first 3585
      let loaded := machine.loadFrom source
      let rest := loaded.2.2
      (rest.taken ≤ source.taken + 3585 ∧ rest.taken = source.taken + image.length ∧
        rest.delivered = source.delivered.drop 3585 ∧ rest.ending = source.ending ∧
        ∀ more, source.first (3585 + more) = image ++ rest.first more) ∧
      (∀ other : ByteSource, other.first 3585 = image →
        other.failsBefore? 3585 = source.failsBefore? 3585 →
        (machine.loadFrom other).1 = loaded.1 ∧ (machine.loadFrom other).2.1 = loaded.2.1) ∧
      (∀ error, source.ending = .failing error → source.delivered.length < 3585 →
        loaded = (.error (.reading error), machine, rest)) ∧
      ((∀ error, source.ending = .failing error → 3585 ≤ source.delivered.length) →
        loaded =
          ((machine.load image).1.map fun _ => image.length, (machine.load image).2, rest)) ∧
      ((∃ byte, source.ending = .endless byte) ∨ 3585 ≤ source.delivered.length →
        loaded = (.error (.tooLarge 3585), machine, rest)) := by
  constructor
  · intro image
    refine ⟨fun fits => ⟨?_, carries_load machine fits⟩, load_of_gt machine⟩
    rw [load_of_le machine fits]
  · intro source image loaded rest
    have leaves : source.Leaves 3585 rest := leaves_loadFrom machine source
    exact ⟨⟨leaves.taken_le, leaves.taken, leaves.delivered, leaves.ending, leaves.first_add⟩,
      fun _ => loadFrom_congr machine, fun _ => loadFrom_of_early machine,
      loadFrom_of_late machine, loadFrom_of_oversize machine⟩

/-- A source that is interrupted and fails, before there are 3585 bytes and behind them, and
one that goes on for ever. -/
theorem loading_exact_interrupted :
    let machine := powerOn (RandomStream.cycle #[])
    let broken := Ending.failing (.custom "gone")
    let early : ByteSource := ⟨[.bytes 0x60 [0x05], .interrupted, .bytes 0xF0 [0x18]], broken, 0⟩
    let late : ByteSource := ⟨[.interrupted, .bytes 0x60 (List.replicate 3600 0x05)], broken, 0⟩
    let endless : ByteSource := ⟨[.bytes 0x60 [0x05], .interrupted], .endless 0x18, 40⟩
    machine.loadFrom early =
        (.error (.reading (.custom "gone")), machine, (machine.loadFrom early).2.2) ∧
      (machine.loadFrom late).1 = .error (.tooLarge 3585) ∧
      (machine.loadFrom late).2.2.delivered.length = 16 ∧
      (machine.loadFrom endless).1 = .error (.tooLarge 3585) ∧
      (machine.loadFrom endless).2.2.taken ≤ 40 + 3585 ∧
      (machine.load [0x60, 0x05]).2.memory.cells[0x201]? = some 0x05 := by
  intro machine broken early late endless
  obtain ⟨images, sources⟩ := loading_exact machine
  obtain ⟨_, _, failing, _⟩ := sources early
  obtain ⟨⟨_, _, behind, _⟩, _, _, _, oversize⟩ := sources late
  obtain ⟨⟨bounded, _⟩, _, _, _, oversize'⟩ := sources endless
  obtain ⟨_, carries⟩ := (images [0x60, 0x05]).1 (by decide)
  have length (count : Nat) : (ByteSource.delivered
      ⟨[.interrupted, .bytes 0x60 (List.replicate count 0x05)], broken, 0⟩).length =
        count + 1 := by
    simp [ByteSource.delivered, Delivery.brought]
  have enough : 3585 ≤ late.delivered.length := by
    rw [length]
    decide
  refine ⟨failing _ rfl (by decide), congrArg Prod.fst (oversize (.inr enough)), ?_,
    congrArg Prod.fst (oversize' (.inl ⟨_, rfl⟩)), bounded, carries.inside 1 (by decide)⟩
  rw [behind, List.length_drop, length]

end Machine

end Chip8
