import Chip8.Proofs.Machine.Footprint

/-!
# Random bytes one by one

Each execution of `CXNN` takes the next word of the random stream, whatever its mask is, and
nothing else that can be done to a machine takes one.  So the executions of a whole run can be
counted off against the words: the byte of each is known from how many there were before it
(`rolls_take_words`).

`rolls` lists these executions as they happen.  That its bytes are those of successive words is
one equation, `rolls_eq`, by induction on the history, and the bytes then depend on nothing but
the stream and the opcodes.
-/

namespace Chip8

namespace Machine

/-! ## One operation -/

/-- The word at the program counter is `CXNN`. -/
def AtRandom (machine : Machine) : Prop := (Opcode.family machine.opcode).val = 0xC

instance (machine : Machine) : Decidable machine.AtRandom := inferInstanceAs (Decidable (_ = _))

variable {machine : Machine} {operation : Operation}

/-- `CXNN` never fails, and it does what it does to the machine behind it. -/
theorem step_of_atRandom (atRandom : machine.AtRandom) :
    machine.step = (.ok (),
      machine.advance.randomise (Opcode.x machine.opcode) (Opcode.nn machine.opcode)) :=
  step_of_matches (.random _ _) ⟨atRandom, rfl, rfl⟩ rfl

theorem register_randomise (machine : Machine) (x : Register) (mask : UInt8) :
    (machine.randomise x mask).register x = machine.random.byte &&& mask := by
  have set := register_setRegister machine x x (machine.random.byte &&& mask)
  rwa [if_pos rfl] at set

/-- No other operation takes a word. -/
theorem random_perform (other : ¬(operation = .step ∧ machine.AtRandom)) :
    (machine.perform operation).2.random = machine.random := by
  cases operation with
  | step =>
      apply Classical.byContradiction
      intro taken
      exact other ⟨rfl, (confined_step machine).random taken⟩
  | load image => exact (congrArg random (load_others machine image) :)
  | loadFrom source => exact (congrArg random (loadFrom_others machine source) :)
  | tick | setKey _ _ | releaseAll | setRegister _ _ | clearRedraw => rfl

/-! ## Whole histories -/

/-- An execution of `CXNN`. -/
structure Roll where
  /-- The opcode. -/
  opcode : UInt16
  /-- What its register holds behind it. -/
  byte : UInt8
  deriving DecidableEq, Repr

/-- The executions of `CXNN` in a history, first to last. -/
def rolls (machine : Machine) : (history : List Operation) → List Roll
  | [] => []
  | operation :: rest =>
      let after := (machine.perform operation).2
      if operation = .step ∧ machine.AtRandom then
        ⟨machine.opcode, after.register (Opcode.x machine.opcode)⟩ :: after.rolls rest
      else after.rolls rest
termination_by structural history => history

/-- Each byte is that of the next word, under the mask of its opcode. -/
theorem rolls_eq (machine : Machine) (history : List Operation) :
    machine.rolls history = ((machine.rolls history).map Roll.opcode).mapIdx fun k opcode =>
      ⟨opcode, (machine.random.word (machine.random.position + k)).toUInt8 &&&
        Opcode.nn opcode⟩ := by
  induction history generalizing machine with
  | nil => rfl
  | cons operation rest ih =>
      rw [rolls]
      split
      case isTrue rolled =>
        obtain ⟨rfl, atRandom⟩ := rolled
        have moved := step_of_atRandom atRandom
        rw [perform_step, moved, List.map_cons, List.mapIdx_cons, register_randomise]
        refine congrArg _ ((ih _).trans ?_)
        simp only [randomise, RandomStream.advance, advance, Nat.add_assoc, Nat.add_comm 1]
      case isFalse other =>
        have kept := random_perform other
        rw [← kept]
        exact ih _

theorem random_after (machine : Machine) (history : List Operation) :
    (machine.after history).random =
      { machine.random with
        position := machine.random.position + (machine.rolls history).length } := by
  induction history generalizing machine with
  | nil => rfl
  | cons operation rest ih =>
      rw [after_cons, ih, rolls]
      dsimp only
      split
      case isTrue rolled =>
        obtain ⟨rfl, atRandom⟩ := rolled
        rw [perform_step, step_of_atRandom atRandom, List.length_cons]
        simp only [randomise, RandomStream.advance, advance, Nat.add_assoc, Nat.add_comm 1]
      case isFalse other => rw [random_perform other]

/-- The executions of `CXNN` in a history take the words of the random stream one by one: the
`k`-th of them, counted from zero, puts the low byte of the `k`-th word under its mask into its
register, also where the mask is zero.  Behind them all the stream has gone on by as many words as
there were executions.  So a history on a machine with the same stream that executes the same
`CXNN` in the same order gets the same bytes, whatever lies between them. -/
theorem rolls_take_words (machine : Machine) (history : List Operation) :
    let rolls := machine.rolls history
    let stream := machine.random
    (∀ k roll, rolls[k]? = some roll →
      roll.byte.toNat =
        (stream.word (stream.position + k)).toNat % 256 &&& (Opcode.nn roll.opcode).toNat) ∧
    (machine.after history).random =
      { stream with position := stream.position + rolls.length } ∧
    ∀ (other : Machine) (later : List Operation), other.random = stream →
      (other.rolls later).map Roll.opcode = rolls.map Roll.opcode → other.rolls later = rolls := by
  intro rolls stream
  refine ⟨fun k roll taken => ?_, random_after machine history, fun other later same opcodes => ?_⟩
  · rw [show rolls = _ from rolls_eq machine history, List.getElem?_mapIdx,
      Option.map_eq_some_iff] at taken
    obtain ⟨opcode, _, rfl⟩ := taken
    simp only [UInt8.toNat_and, UInt32.toNat_toUInt8]
    rfl
  · rw [rolls_eq other later, opcodes, same]
    exact (rolls_eq machine history).symm

/-- Two programs with the same random instructions, one of them with a mask of zero.  In the second
run a step fails before the program is there, and other instructions, a tick and a register that is
set lie between them. -/
theorem rolls_take_words_apart :
    let stream := RandomStream.cycle #[0x1FF, 0x2AB, 0x3CD]
    let machine := powerOn stream
    let history : List Operation :=
      [.load [0xC1, 0x0F, 0xC2, 0x00, 0xC3, 0xFF], .step, .step, .step]
    let later : List Operation :=
      [.step, .load [0xC1, 0x0F, 0x65, 0x05, 0xC2, 0x00, 0xC3, 0xFF], .step, .tick, .step,
        .setRegister 1 9, .step, .step]
    (machine.rolls history)[2]? = some ⟨0xC3FF, 0xCD⟩ ∧
      (0xCD : UInt8).toNat = (stream.word 2).toNat % 256 &&& 0xFF ∧
      (machine.rolls later).map Roll.opcode = [0xC10F, 0xC200, 0xC3FF] ∧
      machine.rolls later = machine.rolls history := by
  intro stream machine history later
  obtain ⟨bytes, _, alike⟩ := rolls_take_words machine history
  have third : (machine.rolls history)[2]? = some ⟨0xC3FF, 0xCD⟩ := by decide +kernel
  have opcodes : (machine.rolls later).map Roll.opcode = [0xC10F, 0xC200, 0xC3FF] := by
    decide +kernel
  have opcodes' : (machine.rolls history).map Roll.opcode = [0xC10F, 0xC200, 0xC3FF] := by
    decide +kernel
  exact ⟨third, bytes 2 _ third, opcodes, alike machine later rfl (opcodes.trans opcodes'.symm)⟩

end Machine

end Chip8
