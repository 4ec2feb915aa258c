import Chip8.Proofs.Checked.Instructions
import Chip8.Proofs.Machine.Returns

/-!
# No check ever fails

What is asked of the machine from power-on on passes all checks, whatever it is and whatever
the program does: `no_check_fails`.  Most checks pass because of the bounds that the parts of
the machine have by their types.  Only the depth of the call stack is bounded by what the
operations do, so that bound is carried along the requests.
-/

namespace Chip8.Checked

/-! ## Steps -/

namespace State

variable {machine : Machine}

/-- What came of a computation on a machine, with the machine in plain storage. -/
def stored {α : Type} (done : α × Machine) : α × State := done.map id ofMachine

theorem depth_ofMachine : (ofMachine machine).depth = machine.stack.depth := rfl

theorem call_ofMachine (bounded : machine.stack.depth ≤ CallStack.capacity) (target : Fin 4096) :
    (ofMachine machine).call (UInt16.ofNat target.val) = .ok (stored (machine.call target)) := by
  rw [call, depth_ofMachine]
  by_cases full : machine.stack.depth = 16
  · have refused : machine.stack.push? machine.pc = none :=
      CallStack.push?_eq_none_iff.2 (Nat.le_of_eq full.symm)
    rw [if_pos full, Machine.call_of_full machine target refused]
    rfl
  · have room : machine.stack.depth < 16 := Nat.lt_of_le_of_ne bounded full
    have pushed : machine.stack.push? machine.pc = some
        ⟨machine.stack.slots.set machine.stack.depth machine.pc, machine.stack.depth + 1⟩ :=
      dif_pos room
    have kept : store (ofMachine machine).stack machine.stack.depth (ofMachine machine).pc =
        .ok (machine.stack.slots.set machine.stack.depth machine.pc).toArray :=
      store_toArray machine.stack.slots room machine.pc
    rw [if_neg full, kept, ok_bind, plus_of_lt (by omega),
      Machine.call_of_room machine target pushed]
    rfl

theorem ret_ofMachine (bounded : machine.stack.depth ≤ CallStack.capacity) :
    (ofMachine machine).ret = .ok (stored machine.ret) := by
  rw [ret, depth_ofMachine]
  cases depth : machine.stack.depth with
  | zero =>
      rw [if_pos rfl, Machine.ret_of_void machine (CallStack.pop?_eq_none_iff.2 depth)]
      rfl
  | succ below =>
      have inside : below < 16 := by
        rw [depth] at bounded
        exact bounded
      have popped : machine.stack.pop? =
          some (machine.stack.slots[below], ⟨machine.stack.slots, below⟩) := by
        rw [CallStack.pop?, depth]
        dsimp only
        rw [Vector.getElem?_eq_getElem inside, Option.getD_some]
      have fetched : fetch (ofMachine machine).stack below = .ok machine.stack.slots[below] :=
        fetch_toArray machine.stack.slots inside
      rw [if_neg (Nat.succ_ne_zero below), minus_of_le (Nat.le_add_left 1 below), ok_bind,
        Nat.add_sub_cancel, fetched, Machine.ret_of_live machine popped]
      rfl

/-- A seventeenth live slot would fail the check. -/
example :
    ret { ofMachine (.powerOn (.cycle #[])) with depth := 17 } = .error (.outOfRange 16 16) := rfl

theorem execute_ofMachine (bounded : machine.stack.depth ≤ CallStack.capacity)
    (instruction : Instruction) :
    (ofMachine machine).execute (.ofInstruction instruction) =
      .ok (stored (machine.execute instruction)) := by
  cases fallible : instruction.mayFail with
  | true =>
      cases instruction with
      | call target => exact call_ofMachine bounded target
      | ret => exact ret_ofMachine bounded
      | _ => cases fallible
  | false =>
      have applied := apply_ofMachine machine instruction
      have done : (ofMachine machine).execute (.ofInstruction instruction) =
          (do return (.ok (), ← (ofMachine machine).apply (.ofInstruction instruction))) := by
        cases instruction with
        | call _ | ret => cases fallible
        | _ => rfl
      rw [done, applied, Machine.execute_eq_apply machine fallible]
      rfl

theorem step_ofMachine (bounded : machine.stack.depth ≤ CallStack.capacity) :
    (ofMachine machine).step = .ok (stored machine.step) := by
  have fetched : readWord (ofMachine machine).memory (ofMachine machine).pc = .ok machine.opcode :=
    readWord_cells ..
  rw [step, fetched, ok_bind, decode_eq, ok_bind, Machine.step, Machine.instruction?]
  cases Instruction.decode? machine.opcode with
  | none => rfl
  | some instruction =>
      have bounded : machine.advance.stack.depth ≤ CallStack.capacity := bounded
      have executed : execute { ofMachine machine with pc := (ofMachine machine).pc + 2 }
          (.ofInstruction instruction) = .ok (stored (machine.advance.execute instruction)) :=
        execute_ofMachine bounded instruction
      dsimp only [Option.map_some]
      rw [executed, ok_bind]
      obtain ⟨outcome, after⟩ := machine.advance.execute instruction
      cases outcome <;> rfl

/-! ## Other operations -/

variable (machine)

theorem tick_ofMachine : (ofMachine machine).tick = .ok (stored machine.tick) := by
  have sound : (ofMachine machine).sound = machine.sound := rfl
  rw [tick, sound, Machine.tick]
  by_cases silent : machine.sound = 0
  · have still : ¬0 < machine.sound := by rw [silent]; decide
    have early : ¬machine.sound = 1 := by rw [silent]; decide
    rw [if_neg still, if_pos silent, if_neg early]
    simp only [pure_eq_ok, ofMachine, stored, silent, Prod.map, id]
  · have positive : 0 < machine.sound.toNat :=
      Nat.pos_of_ne_zero fun zero => silent (UInt8.toNat.inj zero)
    have sounding : 0 < machine.sound := UInt8.lt_iff_toNat_lt.2 positive
    have lower : UInt8.ofNat (machine.sound.toNat - 1) = machine.sound - 1 := by
      rw [UInt8.ofNat_sub positive]
      simp
    have last : machine.sound - 1 = 0 ↔ machine.sound = 1 := UInt8.sub_eq_iff_eq_add
    rw [if_pos sounding, minus_of_le positive, ok_bind, lower, if_neg silent]
    by_cases ending : machine.sound = 1
    · rw [if_pos (last.2 ending), if_pos ending]
      rfl
    · rw [if_neg (mt last.1 ending), if_neg ending]
      rfl

theorem load_ofMachine (image : List UInt8) :
    (ofMachine machine).load image = .ok (stored (machine.load image)) := by
  have loaded : loadImage (ofMachine machine).memory image = _ := loadImage_cells ..
  rw [load, loaded, ok_bind, Machine.load]
  cases machine.memory.load image <;> rfl

theorem loadFrom_ofMachine (source : ByteSource) :
    (ofMachine machine).loadFrom source =
      .ok ((machine.loadFrom source).map id (Prod.map ofMachine id)) := by
  have limit : plus 64 Memory.programLimit 1 = .ok (Memory.programLimit + 1) := rfl
  rw [loadFrom, programLimit_eq, ok_bind, limit, ok_bind, Machine.loadFrom, Memory.loadFrom]
  dsimp only
  cases (source.take (Memory.programLimit + 1)).outcome with
  | error error => rfl
  | ok image =>
      dsimp only
      rw [load_ofMachine, ok_bind, Machine.load]
      cases machine.memory.load image <;> rfl

theorem powerOn_eq (random : RandomStream) :
    powerOn random = .ok (ofMachine (Machine.powerOn random)) := by
  have fits : 0 + Memory.font.length < 2 ^ 16 := by decide
  have written : writeBlock (Array.replicate 4096 0) Memory.fontStart 0 Memory.font =
      .ok Memory.initial.cells.toArray := writeBlock_cells Memory.zero Memory.fontStart fits
  rw [powerOn, written]
  rfl

end State

/-! ## Requests -/

/-- The operation that a request asks for.  Some requests only ask to be told something. -/
def Request.operation? : Request → Option Operation
  | .step => some .step
  | .tick => some .tick
  | .load image => some (.load image)
  | .loadFrom source => some (.loadFrom source)
  | .setKey key held => some (.setKey key held)
  | .releaseAll => some .releaseAll
  | .setRegister number byte => some (.setRegister (Machine.registerOfNat number) byte)
  | .clearRedraw => some .clearRedraw
  | .isHeld _ | .firstHeld | .register _ => none

/-- What the machine tells in reply to a request. -/
def reply (machine : Machine) (request : Request) : Reply :=
  match request.operation?, request with
  | some operation, _ => .did (machine.perform operation).1
  | none, .isHeld key => .held (machine.keypad.isHeld key)
  | none, .register number => .contents (machine.register (Machine.registerOfNat number))
  | none, _ => .first (machine.keypad.first?.map fun key => UInt8.ofNat key.val)

namespace State

variable {machine : Machine}

theorem last_digit (number : Nat) : number &&& 0xF = (Machine.registerOfNat number).val :=
  Nat.and_two_pow_sub_one_eq_mod number 4

/-- A request passes its checks, and does what its operation does to the machine. -/
theorem perform_ofMachine (bounded : machine.stack.depth ≤ CallStack.capacity)
    (request : Request) :
    (ofMachine machine).perform request =
      .ok (reply machine request, ofMachine (machine.after request.operation?.toList)) := by
  cases request with
  | step => rw [perform, step_ofMachine bounded]; rfl
  | tick => rw [perform, tick_ofMachine]; rfl
  | load image => rw [perform, load_ofMachine]; rfl
  | loadFrom source => rw [perform, loadFrom_ofMachine]; rfl
  | setKey key held => rw [perform, setKey_ofMachine]; rfl
  | releaseAll | clearRedraw => rfl
  | isHeld key => rw [perform, isHeld_ofMachine]; rfl
  | firstHeld => rw [perform, first?_ofMachine]; rfl
  | setRegister number byte => rw [perform, last_digit, setRegister_ofMachine]; rfl
  | register number => rw [perform, last_digit, register_ofMachine]; rfl

theorem after_ofMachine (bounded : machine.stack.depth ≤ CallStack.capacity)
    (requests : List Request) :
    (ofMachine machine).after requests =
      .ok (ofMachine (machine.after (requests.filterMap Request.operation?))) := by
  induction requests generalizing machine with
  | nil => rfl
  | cons request rest ih =>
      have split : (request :: rest).filterMap Request.operation? =
          request.operation?.toList ++ rest.filterMap Request.operation? := by
        rw [List.filterMap_cons]
        cases request.operation? <;> rfl
      have kept : (machine.after request.operation?.toList).stack.depth ≤ CallStack.capacity := by
        cases request.operation? with
        | none => exact bounded
        | some operation => exact Machine.depth_perform bounded operation
      rw [split, Machine.after_append, ← ih kept, after, List.foldlM_cons,
        perform_ofMachine bounded]
      rfl

end State

/-- From power-on on, any requests pass all their checks: a program may be any bytes, a key any
byte, and the number of a register any number.  The storage keeps its sizes and the call stack
its bound, and every further request passes its checks as well.  The state and the replies are
those of the machine without checks. -/
theorem no_check_fails (random : RandomStream) (requests : List Request) :
    let machine := (Machine.powerOn random).after (requests.filterMap Request.operation?)
    ∃ state, (State.powerOn random >>= fun start => start.after requests) = .ok state ∧
      state = State.ofMachine machine ∧
      state.memory.size = 4096 ∧ state.pixels.size = 2048 ∧ state.depth ≤ 16 ∧
      ∀ request, state.perform request =
        .ok (reply machine request,
          State.ofMachine (machine.after request.operation?.toList)) := by
  intro machine
  have bounded := Machine.depth_after random (requests.filterMap Request.operation?)
  refine ⟨State.ofMachine machine, ?_, rfl, machine.memory.cells.size_toArray,
    machine.screen.pixels.size_toArray, bounded, State.perform_ofMachine bounded⟩
  rw [State.powerOn_eq, ok_bind]
  exact State.after_ofMachine (Nat.zero_le _) requests

end Chip8.Checked
