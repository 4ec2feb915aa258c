import Mathlib.Data.List.FinRange
import Chip8.Keypad

/-!
# Which keys are held

The keypad key by key.  A byte above fifteen names none of the sixteen keys, so it is never held
and setting it changes nothing.  Waiting for a key finds the lowest one that is held.
-/

namespace Chip8.Keypad

variable {keypad : Keypad} {byte : UInt8}

/-! ## Single keys -/

theorem isHeld_of_lt (inside : byte.toNat < 16) :
    keypad.isHeld byte = keypad.keys.get ⟨byte.toNat, inside⟩ := by
  rw [isHeld, Vector.getElem?_eq_getElem inside]
  rfl

theorem isHeld_of_ge (outside : 16 ≤ byte.toNat) : keypad.isHeld byte = false := by
  simp [isHeld, outside]

theorem isHeld_iff :
    keypad.isHeld byte = true ↔
      ∃ inside : byte.toNat < 16, keypad.keys.get ⟨byte.toNat, inside⟩ = true := by
  by_cases inside : byte.toNat < 16
  · rw [isHeld_of_lt inside]
    exact ⟨fun pressed => ⟨inside, pressed⟩, fun ⟨_, pressed⟩ => pressed⟩
  · rw [isHeld_of_ge (Nat.le_of_not_lt inside)]
    exact ⟨nofun, fun ⟨below, _⟩ => absurd below inside⟩

theorem set_of_ge (outside : 16 ≤ byte.toNat) (held : Bool) : keypad.set byte held = keypad :=
  dif_neg (Nat.not_lt.2 outside)

theorem keys_set (keypad : Keypad) (byte : UInt8) (held : Bool) (key : Fin 16) :
    (keypad.set byte held).keys.get key =
      if byte.toNat = key.val then held else keypad.keys.get key := by
  by_cases inside : byte.toNat < 16
  · rw [set, dif_pos inside]
    exact Vector.getElem_set inside key.isLt
  · have apart : byte.toNat ≠ key.val := fun same => inside (same ▸ key.isLt)
    rw [set_of_ge (Nat.le_of_not_lt inside), if_neg apart]

theorem keys_released (key : Fin 16) : released.keys.get key = false :=
  Vector.getElem_replicate key.isLt

/-! ## The lowest key -/

theorem first?_eq_none_iff :
    keypad.first? = none ↔ ∀ key : Fin 16, keypad.keys.get key = false := by
  rw [first?, ← Fin.find?_eq_find?_finRange, Fin.find?_eq_none_iff]
  exact Iff.rfl

theorem first?_eq_some_iff {key : Fin 16} :
    keypad.first? = some key ↔
      keypad.keys.get key = true ∧ ∀ lower < key, keypad.keys.get lower = false := by
  rw [first?, ← Fin.find?_eq_find?_finRange, Fin.find?_eq_some_iff]
  exact Iff.rfl

/-- Where a key is held, one of those held is the lowest. -/
theorem exists_lowest {key : Fin 16} (pressed : keypad.keys.get key = true) :
    ∃ lowest : Fin 16,
      keypad.keys.get lowest = true ∧ ∀ lower < lowest, keypad.keys.get lower = false := by
  cases found : keypad.first? with
  | none =>
      rw [first?_eq_none_iff.1 found key] at pressed
      cases pressed
  | some lowest => exact ⟨lowest, first?_eq_some_iff.1 found⟩

end Chip8.Keypad
