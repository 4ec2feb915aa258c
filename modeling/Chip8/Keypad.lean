/-!
# The keypad

Sixteen keys, each held or not.  Keys are named by bytes, and a byte above
fifteen names no key: it is never held, and pressing or releasing it changes
nothing.  The machine only reads the keypad; whoever drives the machine writes
it.
-/

namespace Chip8

/-- Which of the sixteen keys are held. -/
structure Keypad where
  /-- One flag a key. -/
  keys : Vector Bool 16
  deriving DecidableEq

namespace Keypad

/-- No key held. -/
def released : Keypad := ⟨Vector.replicate 16 false⟩

/-- Whether a key is held. -/
def isHeld (keypad : Keypad) (key : UInt8) : Bool :=
  keypad.keys[key.toNat]?.getD false

/-- The keypad with one key held or released. -/
def set (keypad : Keypad) (key : UInt8) (held : Bool) : Keypad :=
  if h : key.toNat < 16 then ⟨keypad.keys.set key.toNat held⟩ else keypad

/-- The keypad with one more key held. -/
def press (keypad : Keypad) (key : UInt8) : Keypad := keypad.set key true

/-- The keypad with a key let go. -/
def release (keypad : Keypad) (key : UInt8) : Keypad := keypad.set key false

/-- The lowest key held. -/
def first? (keypad : Keypad) : Option (Fin 16) :=
  (List.finRange 16).find? fun key => keypad.keys[key]

/-- The keys held, lowest first. -/
def held (keypad : Keypad) : List (Fin 16) :=
  (List.finRange 16).filter fun key => keypad.keys[key]

/-- The keypad with these keys held and no other. -/
def ofHeld (isHeld : Fin 16 → Bool) : Keypad := ⟨Vector.ofFn isHeld⟩

end Keypad

end Chip8
