/-!
# Results

How a result that may be a failure comes about.
-/

namespace Rollout

variable {ε ε' α β : Type}

/-- A result of which something is known is one. -/
theorem exists_eq_ok
    {x : Except ε α} {f : α → β} {b : β} (h : x.toOption.map f = some b) :
  ∃ a, x = .ok a ∧ f a = b
  := by
  cases x with
  | error e => cases h
  | ok a => exact ⟨a, rfl, Option.some.inj h⟩

theorem mapError_eq_ok_iff
    {x : Except ε α} {f : ε → ε'} {a : α} :
  x.mapError f = .ok a ↔ x = .ok a
  := by
  cases x with
  | error e =>
    constructor
    · rintro ⟨⟩
    · rintro ⟨⟩
  | ok a =>
    constructor
    · rintro ⟨⟩
      rfl
    · rintro ⟨⟩
      rfl

theorem mapError_eq_error_iff
    {x : Except ε α} {f : ε → ε'} {e' : ε'} :
  x.mapError f = .error e' ↔ ∃ e, x = .error e ∧ f e = e'
  := by
  cases x with
  | error e =>
    constructor
    · intro h
      exact ⟨e, rfl, Except.error.inj h⟩
    · rintro ⟨e, ⟨⟩, rfl⟩
      rfl
  | ok a =>
    constructor
    · rintro ⟨⟩
    · rintro ⟨e, ⟨⟩, -⟩

end Rollout
