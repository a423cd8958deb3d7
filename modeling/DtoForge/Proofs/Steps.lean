/-!
Steps that may fail, read backwards: what a chain of steps has given tells what each step has given.
-/

namespace DtoForge

instance decidableEqExcept {ε α : Type} [DecidableEq ε] [DecidableEq α] :
    DecidableEq (Except ε α)
  | .ok left, .ok right => decidable_of_iff (left = right) (Except.ok.injEq left right).symm.to_iff
  | .error left, .error right =>
    decidable_of_iff (left = right) (Except.error.injEq left right).symm.to_iff
  | .ok _, .error _ => isFalse nofun
  | .error _, .ok _ => isFalse nofun

variable {ε δ α β : Type} {step : Except ε α}

theorem bind_ok {next : α → Except ε β} {result : β} (done : (step >>= next) = .ok result) :
    ∃ value, step = .ok value ∧ next value = .ok result := by
  cases step with
  | error fault => cases done
  | ok value => exact ⟨value, rfl, done⟩

theorem bind_error {next : α → Except ε β} {fault : ε} (failed : (step >>= next) = .error fault) :
    step = .error fault ∨ ∃ value, step = .ok value ∧ next value = .error fault := by
  cases step with
  | error cause =>
      cases failed
      exact .inl rfl
  | ok value => exact .inr ⟨value, rfl, failed⟩

theorem ok_bind (value : α) (next : α → Except ε β) : (Except.ok value >>= next) = next value :=
  rfl

theorem map_ok {change : α → β} {result : β} (done : step.map change = .ok result) :
    ∃ value, step = .ok value ∧ change value = result := by
  cases step with
  | error fault => cases done
  | ok value =>
      cases done
      exact ⟨value, rfl, rfl⟩

theorem map_failed {change : α → β} {fault : ε} (failed : step.map change = .error fault) :
    step = .error fault := by
  cases step with
  | error cause =>
      cases failed
      rfl
  | ok value => cases failed

theorem map_error_ok {change : ε → δ} {value : α} (done : step.mapError change = .ok value) :
    step = .ok value := by
  cases step with
  | error fault => cases done
  | ok value =>
      cases done
      rfl

theorem map_error_error {change : ε → δ} {fault : δ}
    (failed : step.mapError change = .error fault) :
    ∃ cause, step = .error cause ∧ fault = change cause := by
  cases step with
  | error cause =>
      cases failed
      exact ⟨cause, rfl, rfl⟩
  | ok value => cases failed

end DtoForge
