import Chip8.Terminal.Keyboard

/-!
# Keys held for a number of polls

A poll takes the items of its queue up to the first one that ends it, the escape key or a failure,
and the next poll finds what is left in front of what was typed since.  This is said without the
keyboard (`waiting`), so what each poll of a run takes is known from what was typed alone.

What a keyboard remembers of the polls before is a number for each key.  `Outcome` says what one
poll does to it, and `lt_leftFor_found` what it means in a run: it is the time that is left since
one of the characters of the key was taken last.
-/

namespace Chip8.Terminal

/-! ## The items of a queue -/

/-- The item is the last that a poll takes. -/
def ends : Except IoError Event → Bool
  | .error _ => true
  | .ok (.key .escape) => true
  | .ok _ => false

/-- What a poll takes from a queue. -/
def portion (queue : Queue) : Queue := queue.take (queue.findIdx ends + 1)

/-- What a poll leaves in a queue. -/
def behind (queue : Queue) : Queue := queue.drop (queue.findIdx ends + 1)

/-- The item is the character of a key, in small or capital letters. -/
def Types (key : Nat) : Except IoError Event → Prop
  | .ok (.key (.character c)) => keyChars[key]? = some c.toLower
  | _ => False

instance (key : Nat) : DecidablePred (Types key)
  | .ok (.key (.character c)) => inferInstanceAs (Decidable (keyChars[key]? = some c.toLower))
  | .ok (.key (.function _)) | .ok (.key .escape) | .ok (.key (.named _))
  | .ok (.click _ _) | .error _ => inferInstanceAs (Decidable False)

/-- One of the items is a character of the key. -/
def Presses (items : Queue) (key : Nat) : Prop := ∃ item ∈ items, Types key item

instance (items : Queue) (key : Nat) : Decidable (Presses items key) :=
  inferInstanceAs (Decidable (∃ item ∈ items, Types key item))

/-- What an item asks of the emulator, if it asks for something other than to leave. -/
def asked? : Except IoError Event → Option Control
  | .ok (.key (.character ' ')) => some .togglePause
  | .ok (.key (.function 11)) => some .screenshot
  | _ => none

/-- The answer is the one that items call for where `control` was asked before them. -/
structure Answers (control : Control) (items : Queue) (answer : Except IoError Control) : Prop where
  /-- A failure is passed on. -/
  failed : ∀ error, .error error ∈ items → answer = .error error
  /-- The escape key asks to leave. -/
  left : .ok (.key .escape) ∈ items → answer = .ok .quit
  /-- Without them the last wish counts. -/
  stayed : (∀ item ∈ items, ends item = false) →
    answer = .ok ((items.filterMap asked?).getLast?.getD control)

variable {item : Except IoError Event} {items queue rest : Queue} {control : Control}
  {answer : Except IoError Control}

theorem portion_cons_of_ends (last : ends item = true) : portion (item :: rest) = [item] := by
  simp [portion, List.findIdx_cons, last]

theorem behind_cons_of_ends (last : ends item = true) : behind (item :: rest) = rest := by
  simp [behind, List.findIdx_cons, last]

theorem portion_cons (further : ends item = false) :
    portion (item :: rest) = item :: portion rest := by
  simp [portion, List.findIdx_cons, further]

theorem behind_cons (further : ends item = false) : behind (item :: rest) = behind rest := by
  simp [behind, List.findIdx_cons, further]

theorem presses_cons {key : Nat} :
    Presses (item :: items) key ↔ Types key item ∨ Presses items key := by
  simp [Presses]

theorem Presses.lt {key : Nat} (presses : Presses items key) : key < 16 := by
  obtain ⟨item, _, types⟩ := presses
  match item, types with
  | .ok (.key (.character _)), types => exact (List.getElem?_eq_some_iff.1 types).1

theorem answers_nil (control : Control) : Answers control [] (.ok control) :=
  ⟨fun _ => nofun, nofun, fun _ => rfl⟩

theorem answers_failure (control : Control) (error : IoError) :
    Answers control [.error error] (.error error) := by
  constructor <;> simp [ends]

theorem answers_escape (control : Control) :
    Answers control [.ok (.key .escape)] (.ok .quit) := by
  constructor <;> simp [ends]

theorem Answers.cons (further : ends item = false)
    (answers : Answers ((asked? item).getD control) items answer) :
    Answers control (item :: items) answer := by
  have later {other : Except IoError Event} (found : other ∈ item :: items)
      (last : ends other = true) : other ∈ items := by
    refine (List.mem_cons.1 found).resolve_left ?_
    rintro rfl
    rw [further] at last
    cases last
  refine ⟨fun error found => answers.failed error (later found rfl),
    fun found => answers.left (later found rfl), fun onward => ?_⟩
  rw [answers.stayed fun other found => onward other (List.mem_cons_of_mem item found)]
  refine congrArg Except.ok ?_
  cases asks : asked? item with
  | none => rw [List.filterMap_cons_none asks, Option.getD_none]
  | some wish =>
      rw [List.filterMap_cons_some asks, List.getLast?_cons, Option.getD_some, Option.getD_some]

/-- No two keys have one character, so the search finds the key that the character names. -/
theorem types_character {c : Char} {key : Fin 16} :
    Types key (.ok (.key (.character c))) ↔ keyOf? c = some key := by
  have typedBy {other : Fin 16} (found : keyOf? c = some other) :
      keyChars[other.val]? = some c.toLower := by
    have typed := List.find?_some found
    exact of_decide_eq_true typed
  constructor
  case mpr => exact typedBy
  case mp =>
    intro typed
    cases found : keyOf? c with
    | none =>
        have missing := List.find?_eq_none.1 found key (List.mem_finRange key)
        exact absurd (decide_eq_true typed) missing
    | some other =>
        have same := (typedBy found).trans typed.symm
        have apart : keyChars.Nodup := by decide
        exact congrArg some (Fin.ext ((List.getElem?_inj other.isLt apart).1 same))

namespace Keyboard

variable {keyboard : Keyboard} {key : Fin 16}

/-! ## The polls left for a key -/

theorem leftFor_eq (keyboard : Keyboard) (key : Fin 16) :
    keyboard.leftFor key = keyboard.left[key.val]?.getD 0 := by
  simp [leftFor, Vector.getD]

theorem leftFor_idle (hold : Nat) (key : Fin 16) : (idle hold).leftFor key = 0 := by
  simp [leftFor_eq, idle]

theorem leftFor_age (keyboard : Keyboard) (key : Fin 16) :
    keyboard.age.leftFor key = keyboard.leftFor key - 1 := by
  simp [leftFor_eq, age]

theorem leftFor_press (keyboard : Keyboard) (pressed key : Fin 16) :
    (keyboard.press pressed).leftFor key =
      if pressed = key then keyboard.hold else keyboard.leftFor key := by
  by_cases same : pressed = key
  · simp [leftFor_eq, press, same]
  · simp [leftFor_eq, press, same, Fin.val_ne_iff]

theorem isHeld_keypad (keyboard : Keyboard) (key : UInt8) :
    keyboard.keypad.isHeld key = true ↔
      ∃ inside : key.toNat < 16, 0 < keyboard.leftFor ⟨key.toNat, inside⟩ := by
  by_cases inside : key.toNat < 16 <;> simp [keypad, Keypad.isHeld, Keypad.ofHeld, inside]

/-! ## Taking one item -/

/-- The keyboard behind an item that does not end the poll. -/
def after (keyboard : Keyboard) : Except IoError Event → Keyboard
  | .ok (.key key) => (keyboard.strike key).1
  | _ => keyboard

theorem hold_after (keyboard : Keyboard) (item : Except IoError Event) :
    (keyboard.after item).hold = keyboard.hold := by
  match item with
  | .ok (.key (.character c)) =>
      rw [after, strike]
      split <;> rfl
  | .ok (.key (.function _)) | .ok (.key .escape) | .ok (.key (.named _)) => rfl
  | .ok (.click _ _) | .error _ => rfl

theorem leftFor_after (keyboard : Keyboard) (item : Except IoError Event) (key : Fin 16) :
    (keyboard.after item).leftFor key =
      if Types key item then keyboard.hold else keyboard.leftFor key := by
  match item with
  | .ok (.key (.character c)) =>
      rw [after, strike]
      split
      case h_1 pressed found => simp only [leftFor_press, types_character, found, Option.some_inj]
      case h_2 found => simp [types_character, found]
  | .ok (.key (.function _)) | .ok (.key .escape) | .ok (.key (.named _)) => exact (if_neg id).symm
  | .ok (.click _ _) | .error _ => exact (if_neg id).symm

theorem asked?_key (key : Key) : asked? (.ok (.key key)) = wish? key := by
  unfold asked?
  split
  case h_1 asks => cases asks; rfl
  case h_2 asks => cases asks; rfl
  case h_3 space eleventh =>
    rw [wish?]
    · rintro rfl
      exact space rfl
    · rintro rfl
      exact eleventh rfl

theorem strike_of_wish {key : Key} {wish : Control} (asks : wish? key = some wish) :
    (keyboard.strike key).1 = keyboard := by
  unfold wish? at asks
  split at asks
  · rfl
  · rfl
  · cases asks

/-- An item that does not end the poll strikes a key or asks for something, and the poll goes on. -/
theorem take_cons (keyboard : Keyboard) (control : Control) (rest : Queue)
    (further : ends item = false) :
    ∃ notices, keyboard.take control (item :: rest) =
      { (keyboard.after item).take ((asked? item).getD control) rest with notices } := by
  match item, further with
  | .ok (.click _ _), _ => exact ⟨_, rfl⟩
  | .ok (.key key), further =>
      rw [take, asked?_key, after]
      · cases asks : wish? key with
        | none => exact ⟨_, rfl⟩
        | some wish =>
            rw [strike_of_wish asks]
            exact ⟨_, rfl⟩
      · rintro rfl
        cases further

/-! ## Taking a portion -/

/-- What taking events from a queue comes to. -/
structure Outcome (keyboard : Keyboard) (control : Control) (queue : Queue) (taken : Taken) :
    Prop where
  /-- What is left is what stands behind the portion. -/
  rest : taken.rest = behind queue
  /-- The number of polls for which a press counts is the same. -/
  hold : taken.keyboard.hold = keyboard.hold
  /-- The portion starts the count of the keys it presses and leaves the others. -/
  leftFor : ∀ key, taken.keyboard.leftFor key =
    if Presses (portion queue) key then keyboard.hold else keyboard.leftFor key
  /-- The answer is the one that the portion calls for. -/
  answers : Answers control (portion queue) taken.answer

/-- An item that ends the poll is taken alone and presses no key. -/
theorem outcome_of_ends {control : Control} {answer : Except IoError Control}
    (last : ends item = true) (answers : Answers control [item] answer) :
    Outcome keyboard control (item :: rest) ⟨answer, keyboard, rest, []⟩ := by
  have pressless (key : Nat) : ¬Types key item := by
    match item, last with
    | .error _, _ | .ok (.key .escape), _ => exact id
  refine ⟨(behind_cons_of_ends last).symm, rfl, fun key => ?_, ?_⟩
  · rw [portion_cons_of_ends last, if_neg]
    rintro ⟨_, found, types⟩
    rw [List.mem_singleton.1 found] at types
    exact pressless key types
  · rwa [portion_cons_of_ends last]

theorem outcome_take (keyboard : Keyboard) (control : Control) (queue : Queue) :
    Outcome keyboard control queue (keyboard.take control queue) := by
  induction queue generalizing keyboard control with
  | nil => exact ⟨rfl, rfl, fun _ => rfl, answers_nil control⟩
  | cons item rest ih =>
      cases last : ends item with
      | true =>
          match item, last with
          | .error error, last => exact outcome_of_ends last (answers_failure control error)
          | .ok (.key .escape), last => exact outcome_of_ends last (answers_escape control)
      | false =>
          obtain ⟨notices, taken⟩ := take_cons keyboard control rest last
          have tail := ih (keyboard.after item) ((asked? item).getD control)
          rw [taken]
          refine ⟨tail.rest.trans (behind_cons last).symm,
            tail.hold.trans (hold_after keyboard item), fun key => ?_, ?_⟩
          · refine (tail.leftFor key).trans ?_
            simp only [portion_cons last, presses_cons, hold_after, leftFor_after]
            by_cases now : Types key item <;> simp [now]
          · rw [portion_cons last]
            exact tail.answers.cons last

/-- A poll takes one poll from every key before it takes events. -/
theorem outcome_poll (keyboard : Keyboard) (queue : Queue) :
    Outcome keyboard.age .proceed queue (keyboard.poll queue) :=
  outcome_take keyboard.age .proceed queue

/-! ## Polling on and on -/

/-- The queue that each poll of a run finds, where `typed` is what comes into it before each. -/
def waiting (typed : Nat → Queue) : Nat → Queue
  | 0 => typed 0
  | time + 1 => behind (waiting typed time) ++ typed (time + 1)

/-- What became of each poll of a run. -/
def polled (hold : Nat) (typed : Nat → Queue) : Nat → Taken
  | 0 => (idle hold).poll (typed 0)
  | time + 1 =>
      (polled hold typed time).keyboard.poll ((polled hold typed time).rest ++ typed (time + 1))

/-- The keyboard that each poll of a run finds. -/
def found (hold : Nat) (typed : Nat → Queue) : Nat → Keyboard
  | 0 => idle hold
  | time + 1 => (polled hold typed time).keyboard

variable (hold : Nat) (typed : Nat → Queue)

theorem polled_eq (time : Nat) :
    polled hold typed time = (found hold typed time).poll (waiting typed time) := by
  induction time with
  | zero => rfl
  | succ time ih =>
      have rest : (polled hold typed time).rest = behind (waiting typed time) := by
        rw [ih]
        exact (outcome_poll _ _).rest
      rw [polled, rest]
      rfl

theorem outcome_polled (time : Nat) :
    Outcome (found hold typed time).age .proceed (waiting typed time) (polled hold typed time) := by
  rw [polled_eq]
  exact outcome_poll _ _

theorem hold_found (time : Nat) : (found hold typed time).hold = hold := by
  induction time with
  | zero => rfl
  | succ time ih => exact (outcome_polled hold typed time).hold.trans ih

theorem leftFor_found (time : Nat) (key : Fin 16) :
    (found hold typed (time + 1)).leftFor key =
      if Presses (portion (waiting typed time)) key then hold
      else (found hold typed time).leftFor key - 1 := by
  rw [found, (outcome_polled hold typed time).leftFor, leftFor_age, age, hold_found]

/-- The polls left for a key tell how long ago it was pressed last.  The slack makes up for the
polls that pass from then on. -/
theorem lt_leftFor_found (slack time : Nat) (key : Fin 16) :
    slack < (found hold typed time).leftFor key ↔
      ∃ poll < time, time - poll + slack ≤ hold ∧ Presses (portion (waiting typed poll)) key := by
  induction time generalizing slack with
  | zero =>
      rw [found, leftFor_idle]
      exact ⟨nofun, nofun⟩
  | succ time ih =>
      rw [leftFor_found]
      split
      -- The latest press leaves the most polls, so no earlier one needs to be known.
      case isTrue now =>
        constructor
        case mp =>
          intro within
          exact ⟨time, Nat.lt_succ_self time, by omega, now⟩
        case mpr =>
          rintro ⟨poll, past, within, _⟩
          omega
      case isFalse not =>
        rw [Nat.lt_sub_iff_add_lt, ih]
        constructor
        case mp =>
          rintro ⟨poll, past, within, presses⟩
          exact ⟨poll, by omega, by omega, presses⟩
        case mpr =>
          rintro ⟨poll, past, within, presses⟩
          have earlier : poll ≠ time := by
            rintro rfl
            exact not presses
          exact ⟨poll, by omega, by omega, presses⟩

theorem isHeld_polled (time : Nat) (key : UInt8) :
    (polled hold typed time).keyboard.keypad.isHeld key = true ↔
      ∃ poll ≤ time, time - poll < hold ∧
        Presses (portion (waiting typed poll)) key.toNat := by
  rw [isHeld_keypad]
  constructor
  case mp =>
    rintro ⟨inside, left⟩
    obtain ⟨poll, past, within, presses⟩ :=
      (lt_leftFor_found hold typed 0 (time + 1) ⟨key.toNat, inside⟩).1 left
    exact ⟨poll, by omega, by omega, presses⟩
  case mpr =>
    rintro ⟨poll, past, within, presses⟩
    have inside : key.toNat < 16 := presses.lt
    exact ⟨inside, (lt_leftFor_found hold typed 0 (time + 1) ⟨key.toNat, inside⟩).2
      ⟨poll, by omega, by omega, presses⟩⟩

/-- Behind a poll that succeeds a key is held where one of its characters was taken fewer than
`hold` polls ago, whatever keypad the poll found.  A poll that fails leaves the keypad as it was,
but it counts as a poll and so does what it took.  Of what waits each poll takes the portion up to
the escape key or a failure, which also gives the answer, and leaves the rest for the next one. -/
theorem keys_held_for_polls (hold : Nat) (typed : Nat → Queue) (time : Nat) :
    let taken := polled hold typed time
    let items (poll : Nat) : Queue := portion (waiting typed poll)
    taken.rest = behind (waiting typed time) ∧
    Answers .proceed (items time) taken.answer ∧
    (∀ control, taken.answer = .ok control → ∀ (before : Keypad) (key : UInt8),
      (keypadAfter taken before).isHeld key = true ↔
        ∃ poll ≤ time, time - poll < hold ∧ Presses (items poll) key.toNat) ∧
    ∀ error, taken.answer = .error error → ∀ before : Keypad, keypadAfter taken before = before := by
  intro taken items
  have outcome := outcome_polled hold typed time
  refine ⟨outcome.rest, outcome.answers, fun control succeeds before key => ?_,
    fun error fails before => ?_⟩
  · rw [keypadAfter, succeeds]
    exact isHeld_polled hold typed time key
  · rw [keypadAfter, fails]

/-- A key held for two polls, over one that leaves and one that fails. -/
theorem keys_held_for_polls_two :
    let typed : Nat → Queue := fun
      | 0 => [.ok (.key (.character 'W')), .ok (.key .escape), .ok (.key (.character 'q'))]
      | 1 => [.error (.custom "hung up"), .ok (.key (.character ' '))]
      | _ => []
    let before := Keypad.released.press 3
    (polled 2 typed 0).answer = .ok .quit ∧
      keypadAfter (polled 2 typed 1) before = before ∧
      (polled 2 typed 2).answer = .ok .togglePause ∧
      (keypadAfter (polled 2 typed 2) before).isHeld 4 = true ∧
      ¬(keypadAfter (polled 2 typed 2) before).isHeld 5 = true := by
  intro typed before
  obtain ⟨_, leaves, _, _⟩ := keys_held_for_polls 2 typed 0
  obtain ⟨_, fails, _, untouched⟩ := keys_held_for_polls 2 typed 1
  obtain ⟨_, asks, held, _⟩ := keys_held_for_polls 2 typed 2
  have failed := fails.failed (.custom "hung up") (.tail _ (.head _))
  have paused := asks.stayed (by decide)
  refine ⟨leaves.left (.tail _ (.head _)), untouched _ failed before, paused, ?_, ?_⟩
  · exact (held _ paused before 4).2 ⟨1, by decide, by decide, by decide⟩
  · rw [held _ paused before 5]
    rintro ⟨poll, past, within, presses⟩
    obtain rfl | rfl : poll = 1 ∨ poll = 2 := by omega
    all_goals
      revert presses
      decide

end Keyboard

end Chip8.Terminal
