/-!
When a computation that is put together from others succeeds.
-/

namespace Except

variable {ε ε' α β : Type} {outcome : Except ε α} {value : α} {result : β}

/-- Two steps in a row succeed exactly if the first gives a value with which the second succeeds. -/
theorem bind_eq_ok_iff {next : α → Except ε β} :
    (outcome >>= next) = .ok result ↔ ∃ value, outcome = .ok value ∧ next value = .ok result := by
  cases outcome with
  | error fault => simp [bind, Except.bind]
  | ok value => simp [bind, Except.bind]

theorem pure_eq_ok_iff {found : α} : (pure value : Except ε α) = .ok found ↔ value = found := by
  simp [pure, Except.pure]

theorem map_eq_ok_iff {f : α → β} :
    f <$> outcome = .ok result ↔ ∃ value, outcome = .ok value ∧ f value = result := by
  cases outcome with
  | error fault => simp [Functor.map, Except.map]
  | ok value => simp [Functor.map, Except.map]

/-- Errors may be given another form without a change to what succeeds. -/
theorem mapError_eq_ok_iff {f : ε → ε'} : outcome.mapError f = .ok value ↔ outcome = .ok value := by
  cases outcome with
  | error fault =>
      change Except.error (f fault) = .ok value ↔ _
      simp
  | ok found =>
      change Except.ok found = .ok value ↔ _
      simp

theorem mapError_eq_error_iff {f : ε → ε'} {fault' : ε'} :
    outcome.mapError f = .error fault' ↔ ∃ fault, outcome = .error fault ∧ f fault = fault' := by
  cases outcome with
  | error fault =>
      change Except.error (f fault) = .error fault' ↔ _
      simp
  | ok found =>
      change Except.ok found = .error fault' ↔ _
      simp

theorem eq_ok_of_toOption (houtcome : outcome.toOption = some value) : outcome = .ok value := by
  cases outcome with
  | error fault => cases houtcome
  | ok found => rw [Option.some.inj houtcome]

end Except
