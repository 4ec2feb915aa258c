import Chip8.Emulator.Basic

/-!
# How actions end

`Ends` says of an action, begun at one emulator, what holds if it gives a result
and what holds if it fails, in both cases of the emulator that it leaves behind.
There is one rule for each way to put actions together, so a fact about a whole
frame is put together from facts about its parts, early failures included.
-/

namespace Chip8.Action

variable {η α β : Type}

/-- The action gives a result for which `good` holds, or a failure for which `bad`
holds. -/
def Ends (action : Action η α) (emulator : Emulator η) (good : α → Emulator η → Prop)
    (bad : Failure → Emulator η → Prop) : Prop :=
  match action emulator with
  | (.ok result, after) => good result after
  | (.error failure, after) => bad failure after

section Rules

variable {emulator : Emulator η} {good : α → Emulator η → Prop}
  {bad : Failure → Emulator η → Prop}

theorem Ends.of_ok {action : Action η α} {result : α} {after : Emulator η}
    (ended : action emulator = (.ok result, after)) (holds : good result after) :
    action.Ends emulator good bad := by
  rw [Ends, ended]
  exact holds

theorem Ends.of_error {action : Action η α} {failure : Failure} {after : Emulator η}
    (ended : action emulator = (.error failure, after)) (holds : bad failure after) :
    action.Ends emulator good bad := by
  rw [Ends, ended]
  exact holds

/-- An action does end, in one of the two ways. -/
theorem Ends.cases {action : Action η α} (ends : action.Ends emulator good bad) :
    (∃ result after, action emulator = (.ok result, after) ∧ good result after) ∨
      ∃ failure after, action emulator = (.error failure, after) ∧ bad failure after := by
  rw [Ends] at ends
  split at ends
  case h_1 result after ended => exact .inl ⟨result, after, ended, ends⟩
  case h_2 failure after ended => exact .inr ⟨failure, after, ended, ends⟩

theorem Ends.imp {action : Action η α} {good' : α → Emulator η → Prop}
    {bad' : Failure → Emulator η → Prop} (ends : action.Ends emulator good bad)
    (result : ∀ result after, good result after → good' result after)
    (failure : ∀ failure after, bad failure after → bad' failure after) :
    action.Ends emulator good' bad' := by
  obtain ⟨r, after, ended, holds⟩ | ⟨f, after, ended, holds⟩ := ends.cases
  · exact .of_ok ended (result r after holds)
  · exact .of_error ended (failure f after holds)

theorem Ends.weaken {action : Action η α} {good' : α → Emulator η → Prop}
    (ends : action.Ends emulator good bad)
    (result : ∀ result after, good result after → good' result after) :
    action.Ends emulator good' bad :=
  ends.imp result fun _ _ holds => holds

/-- A failure of the first action is the failure of both. -/
theorem Ends.bind {action : Action η α} {next : α → Action η β}
    {good' : β → Emulator η → Prop} (first : action.Ends emulator good bad)
    (rest : ∀ result after, good result after → (next result).Ends after good' bad) :
    (action >>= next).Ends emulator good' bad := by
  obtain ⟨result, after, ended, holds⟩ | ⟨failure, after, ended, holds⟩ := first.cases
  · have ends := rest result after holds
    rw [Ends, bind_apply, ended]
    exact ends
  · refine .of_error ?_ holds
    rw [bind_apply, ended]

theorem Ends.pure {result : α} (holds : good result emulator) :
    (Pure.pure result : Action η α).Ends emulator good bad :=
  .of_ok (pure_apply result emulator) holds

theorem Ends.fail {failure : Failure} (holds : bad failure emulator) :
    (fail failure : Action η α).Ends emulator good bad :=
  .of_error rfl holds

/-- What the end of an action says of its result. -/
theorem Ends.eq {action : Action η α} {expected : Except Failure α} {keeps : Emulator η → Prop}
    (ends : action.Ends emulator (fun result after => expected = .ok result ∧ keeps after)
      (fun failure after => expected = .error failure ∧ keeps after)) :
    (action emulator).1 = expected ∧ keeps (action emulator).2 := by
  obtain ⟨result, after, ended, rfl, holds⟩ | ⟨failure, after, ended, rfl, holds⟩ := ends.cases
  · rw [ended]
    exact ⟨rfl, holds⟩
  · rw [ended]
    exact ⟨rfl, holds⟩

/-- What holds of either end holds of the emulator behind the action. -/
theorem Ends.behind {action : Action η α} {holds : Emulator η → Prop}
    (ends : action.Ends emulator (fun _ => holds) (fun _ => holds)) :
    holds (action emulator).2 := by
  obtain ⟨result, after, ended, holds⟩ | ⟨failure, after, ended, holds⟩ := ends.cases
  · rwa [ended]
  · rwa [ended]

theorem Ends.of_result {action : Action η α} {result : α}
    (ends : action.Ends emulator good bad) (ok : (action emulator).1 = .ok result) :
    good result (action emulator).2 := by
  obtain ⟨result', after, ended, holds⟩ | ⟨failure, after, ended, _⟩ := ends.cases
  · rw [ended] at ok ⊢
    cases ok
    exact holds
  · rw [ended] at ok
    cases ok

theorem Ends.of_failure {action : Action η α} {failure : Failure}
    (ends : action.Ends emulator good bad) (failed : (action emulator).1 = .error failure) :
    bad failure (action emulator).2 := by
  obtain ⟨result, after, ended, _⟩ | ⟨failure', after, ended, holds⟩ := ends.cases
  · rw [ended] at failed
    cases failed
  · rw [ended] at failed ⊢
    cases failed
    exact holds

end Rules

section Prefixes

variable {emulator : Emulator η} {good : β → Emulator η → Prop}
  {bad : Failure → Emulator η → Prop}

theorem Ends.read_bind {look : Emulator η → α} {next : α → Action η β}
    (rest : (next (look emulator)).Ends emulator good bad) :
    (read look >>= next).Ends emulator good bad :=
  rest

theorem Ends.update_bind {change : Emulator η → Emulator η} {next : Unit → Action η β}
    (rest : (next ()).Ends (change emulator) good bad) :
    (update change >>= next).Ends emulator good bad :=
  rest

theorem Ends.note_bind {notice : Notice} {next : Unit → Action η β}
    (rest : (next ()).Ends { emulator with journal := notice :: emulator.journal } good bad) :
    (note notice >>= next).Ends emulator good bad :=
  rest

theorem Ends.passed_bind {action : Action η Unit} {next : Unit → Action η β}
    (rest : (next ()).Ends emulator good bad) :
    (when false action >>= next).Ends emulator good bad :=
  rest

theorem Ends.taken_bind {action : Action η Unit} {next : Unit → Action η β}
    (rest : (action >>= next).Ends emulator good bad) :
    (when true action >>= next).Ends emulator good bad :=
  rest

end Prefixes

section Units

variable {emulator : Emulator η} {good : Unit → Emulator η → Prop}
  {bad : Failure → Emulator η → Prop}

theorem Ends.update {change : Emulator η → Emulator η} (holds : good () (change emulator)) :
    (update change).Ends emulator good bad :=
  .of_ok rfl holds

theorem Ends.note {notice : Notice}
    (holds : good () { emulator with journal := notice :: emulator.journal }) :
    (note notice).Ends emulator good bad :=
  .of_ok rfl holds

theorem Ends.when {condition : Bool} {action : Action η Unit}
    (taken : condition = true → action.Ends emulator good bad)
    (passed : condition = false → good () emulator) :
    (when condition action).Ends emulator good bad := by
  cases condition with
  | true => exact taken rfl
  | false => exact .of_ok rfl (passed rfl)

theorem Ends.request {ask : η → Except IoError Unit × η} {host : η}
    (asked : ask emulator.host = (.ok (), host)) (holds : good () { emulator with host }) :
    (request ask).Ends emulator good bad := by
  refine .of_ok ?_ holds
  rw [Action.request, asked]

/-- A request ends as the host answers it. -/
theorem Ends.asked {ask : η → Except IoError Unit × η}
    (met : ∀ host, ask emulator.host = (.ok (), host) → good () { emulator with host })
    (refused : ∀ error host, ask emulator.host = (.error error, host) →
      bad (.host error) { emulator with host }) :
    (Action.request ask).Ends emulator good bad := by
  rcases answered : ask emulator.host with ⟨outcome, host⟩
  cases outcome with
  | ok _ => exact .request answered (met host answered)
  | error error =>
      refine .of_error ?_ (refused error host answered)
      rw [Action.request, answered]

end Units

end Chip8.Action
