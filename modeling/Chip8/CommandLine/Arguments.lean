import Chip8.Decimal.Numeral
import Chip8.Journal

/-!
# Arguments

The words of a command line are read from first to last.  A word with two
dashes is a long option, its value behind an equals sign or in the next word.  A
word with one dash holds short options, and the first of them that takes a value
takes the rest of the word, or the next one if nothing is left.  A value in a
word of its own may not begin with a dash.  Behind a lone pair of dashes every
word is an operand, and all other words are operands anyway.

Every option may be given once, and there is exactly one operand, the program.
-/

namespace Chip8.CommandLine

/-- An option that takes a value. -/
inductive Valued where
  | steps
  | frameRate
  | seed
  | keyHold
  | screenshotDirectory
  | logLevel
  deriving DecidableEq, Repr

/-- An option. -/
inductive Switch where
  /-- One that takes a value. -/
  | valued (option : Valued)
  /-- Make the tone audible. -/
  | beep
  /-- Explain the options. -/
  | help
  /-- Tell the version. -/
  | version
  deriving DecidableEq, Repr

namespace Switch

/-- The option with a long name. -/
def ofLong? (name : String) : Option Switch :=
  [("steps", valued .steps), ("frame-rate", valued .frameRate), ("seed", valued .seed),
    ("key-hold", valued .keyHold), ("screenshot-dir", valued .screenshotDirectory),
    ("log-level", valued .logLevel), ("beep", beep), ("help", help), ("version", version)].lookup
      name

/-- The option with a short name. -/
def ofShort? (name : Char) : Option Switch :=
  [('s', valued .steps), ('f', valued .frameRate), ('h', help), ('V', version)].lookup name

end Switch

/-- Why a command line gives no settings. -/
inductive Refusal where
  /-- It cannot be understood. -/
  | misused
  /-- It asks for an explanation. -/
  | help
  /-- It asks for the version. -/
  | version
  deriving DecidableEq, Repr

/-- What has been read of a command line. -/
structure Arguments where
  /-- The settings so far. -/
  settings : Settings := {}
  /-- Which notices are shown. -/
  threshold : Threshold := some .warn
  /-- The options given so far. -/
  given : List Switch := []
  /-- Whether the program was given. -/
  hasProgram : Bool := false

namespace Arguments

/-- A number up to a limit, with an optional plus sign. -/
def readNumber? (limit : Nat) (text : String) : Option Nat :=
  let digits :=
    match text.toList with
    | '+' :: rest => rest
    | all => all
  if digits.isEmpty || !digits.all Char.isDigit then none
  else
    let value := Decimal.digitsValue digits
    if value ≤ limit then some value else none

/-- A count of 32 bits.  Zero may have a minus sign. -/
def readCount? (text : String) : Option Nat :=
  match text.toList with
  | '-' :: rest =>
      if rest.isEmpty || !rest.all (· = '0') then none else some 0
  | _ => readNumber? 0xFFFFFFFF text

/-- A path, which is not empty. -/
def readPath? (text : String) : Option String :=
  if text.isEmpty then none else some text

/-- The arguments with the value of an option put in, if the value can be
read. -/
def setValue? (arguments : Arguments) (option : Valued) (text : String) : Option Arguments :=
  let settings := arguments.settings
  match option with
  | .steps => (readCount? text).map fun stepsPerFrame =>
      { arguments with settings := { settings with stepsPerFrame } }
  | .frameRate => (Decimal.read? text).map fun frameRate =>
      { arguments with settings := { settings with frameRate } }
  | .seed => (readNumber? 0xFFFFFFFFFFFFFFFF text).map fun seed =>
      { arguments with settings := { settings with seed := some (UInt64.ofNat seed) } }
  | .keyHold => (readCount? text).map fun keyHold =>
      { arguments with settings := { settings with keyHold } }
  | .screenshotDirectory => (readPath? text).map fun screenshotDirectory =>
      { arguments with settings := { settings with screenshotDirectory } }
  | .logLevel => (Threshold.ofName? text).map fun threshold => { arguments with threshold }

/-- The arguments with one more option given, unless it was given before. -/
def give (arguments : Arguments) (switch : Switch) : Except Refusal Arguments :=
  if arguments.given.contains switch then .error .misused
  else .ok { arguments with given := switch :: arguments.given }

/-- The arguments with an option and its value. -/
def takeValue (arguments : Arguments) (option : Valued) (text : String) :
    Except Refusal Arguments := do
  match (← arguments.give (.valued option)).setValue? option text with
  | some arguments => .ok arguments
  | none => .error .misused

/-- The arguments with an operand. -/
def takeOperand (arguments : Arguments) (text : String) : Except Refusal Arguments :=
  match arguments.hasProgram, readPath? text with
  | false, some program =>
      .ok { arguments with
        settings := { arguments.settings with program }
        hasProgram := true }
  | _, _ => .error .misused

/-- The arguments with an option that takes no value. -/
def takeFlag (arguments : Arguments) : Switch → Except Refusal Arguments
  | .help => .error .help
  | .version => .error .version
  | .valued _ => .error .misused
  | .beep => (arguments.give .beep).map fun arguments =>
      { arguments with settings := { arguments.settings with beep := true } }

/-- The short options of a word, with the one whose value is still to come. -/
def takeShort (arguments : Arguments) : List Char → Except Refusal (Arguments × Option Valued)
  | [] => .ok (arguments, none)
  | name :: rest =>
      match Switch.ofShort? name with
      | none => .error .misused
      | some (.valued option) =>
          match rest with
          | [] => .ok (arguments, some option)
          | '=' :: value => (arguments.takeValue option (String.ofList value)).map (·, none)
          | value => (arguments.takeValue option (String.ofList value)).map (·, none)
      | some flag => do
          takeShort (← arguments.takeFlag flag) rest

/-- A long option, its dashes dropped, with the option whose value is still to
come. -/
def takeLong (arguments : Arguments) (word : List Char) :
    Except Refusal (Arguments × Option Valued) :=
  let (name, behind) := word.span (· ≠ '=')
  match Switch.ofLong? (String.ofList name), behind with
  | some (.valued option), [] => .ok (arguments, some option)
  | some (.valued option), _ :: value =>
      (arguments.takeValue option (String.ofList value)).map (·, none)
  | some flag, [] => (arguments.takeFlag flag).map (·, none)
  | _, _ => .error .misused

/-- The arguments behind the last word. -/
def takeOperands (arguments : Arguments) (words : List String) : Except Refusal Arguments :=
  words.foldlM takeOperand arguments

/-- Reading words behind some arguments.  With an option whose value is still to
come, the next word has to be that value. -/
def takeWords (arguments : Arguments) (pending : Option Valued) :
    List String → Except Refusal Arguments
  | [] =>
      match pending with
      | none => .ok arguments
      | some _ => .error .misused
  | word :: rest =>
      match word.toList, pending with
      | '-' :: _ :: _, some _ => .error .misused
      | _, some option => do
          takeWords (← arguments.takeValue option word) none rest
      | ['-', '-'], none => arguments.takeOperands rest
      | '-' :: '-' :: long, none => do
          let (arguments, pending) ← arguments.takeLong long
          takeWords arguments pending rest
      | '-' :: short :: more, none => do
          let (arguments, pending) ← arguments.takeShort (short :: more)
          takeWords arguments pending rest
      | _, none => do
          takeWords (← arguments.takeOperand word) none rest

/-- Reading the words of a command line. -/
def read (words : List String) : Except Refusal Arguments := do
  let arguments ← takeWords {} none words
  if arguments.hasProgram then .ok arguments else .error .misused

end Arguments

end Chip8.CommandLine
