import RecordFilter.Query.Evaluation

/-!
# Laws of traced computations

What a sequence of traced computations calls, and what comes of it.

* `Traced.outcome_bind_of_ok`, `Traced.calls_bind_of_ok` — a sequence whose first part succeeds.
* `Traced.outcome_bind_eq_ok_iff` — a sequence succeeds if both parts do.
* The monad laws hold: an error ends a computation, and the calls before it stay.
-/

namespace RecordFilter.Traced

variable {α β : Type}

/-- The operation of the monad is the definition. -/
@[simp] theorem pure_eq (a : α) : Traced.pure a = (Pure.pure a : Traced α) := rfl

/-- A plain result calls nothing. -/
@[simp] theorem calls_pure (a : α) : (Pure.pure a : Traced α).calls = [] := rfl

/-- A plain result succeeds. -/
@[simp] theorem outcome_pure (a : α) : (Pure.pure a : Traced α).outcome = .ok a := rfl

/-- A failure calls nothing. -/
@[simp] theorem calls_fail (e : Error) : (fail e : Traced α).calls = [] := rfl

/-- A failure fails with its error. -/
@[simp] theorem outcome_fail (e : Error) : (fail e : Traced α).outcome = .error e := rfl

/-- A traced computation is its calls and its outcome. -/
@[ext] theorem ext {x y : Traced α} (hcalls : x.calls = y.calls) (hout : x.outcome = y.outcome) :
    x = y := by
  cases x
  cases y
  simp only at hcalls hout
  rw [hcalls, hout]

/-! ## Sequences -/

/-- A sequence whose first part succeeds: the calls of both, and the outcome of the second. -/
theorem bind_of_ok {x : Traced α} {a : α} (h : x.outcome = .ok a) (f : α → Traced β) :
    x >>= f = ⟨x.calls ++ (f a).calls, (f a).outcome⟩ := by
  show Traced.bind x f = _
  simp only [Traced.bind, h]

/-- A sequence whose first part fails is that part. -/
theorem bind_of_error {x : Traced α} {e : Error} (h : x.outcome = .error e) (f : α → Traced β) :
    x >>= f = ⟨x.calls, .error e⟩ := by
  show Traced.bind x f = _
  simp only [Traced.bind, h]

/-- The outcome of a sequence whose first part succeeds. -/
theorem outcome_bind_of_ok {x : Traced α} {a : α} (h : x.outcome = .ok a) (f : α → Traced β) :
    (x >>= f).outcome = (f a).outcome := by
  rw [bind_of_ok h]

/-- A sequence whose second part only rewraps the result. -/
theorem outcome_bind_pure (x : Traced α) (f : α → β) :
    (x >>= fun a => Pure.pure (f a)).outcome = x.outcome.map f := by
  cases hx : x.outcome with
  | ok a => rw [outcome_bind_of_ok hx]; rfl
  | error e => rw [bind_of_error hx]; rfl

/-- Rewrapping the result calls nothing. -/
theorem calls_bind_pure (x : Traced α) (f : α → β) :
    (x >>= fun a => Pure.pure (f a)).calls = x.calls := by
  cases hx : x.outcome with
  | ok a => rw [bind_of_ok hx, calls_pure, List.append_nil]
  | error e => rw [bind_of_error hx]

/-- The calls of a sequence whose first part succeeds. -/
theorem calls_bind_of_ok {x : Traced α} {a : α} (h : x.outcome = .ok a) (f : α → Traced β) :
    (x >>= f).calls = x.calls ++ (f a).calls := by
  rw [bind_of_ok h]

/-- The calls of the first part are made in any case. -/
theorem mem_calls_bind_left {x : Traced α} (f : α → Traced β) {call : Call} (h : call ∈ x.calls) :
    call ∈ (x >>= f).calls := by
  cases hx : x.outcome with
  | ok a => exact calls_bind_of_ok hx f ▸ List.mem_append_left _ h
  | error e => rw [bind_of_error hx]; exact h

/-- A sequence succeeds if both of its parts do. -/
theorem outcome_bind_eq_ok_iff {x : Traced α} {f : α → Traced β} {b : β} :
    (x >>= f).outcome = .ok b ↔ ∃ a, x.outcome = .ok a ∧ (f a).outcome = .ok b := by
  cases hx : x.outcome with
  | ok a => simp [outcome_bind_of_ok hx]
  | error e => simp [bind_of_error hx]

/-- A sequence fails with the part that fails first. -/
theorem outcome_bind_eq_error_iff {x : Traced α} {f : α → Traced β} {e : Error} :
    (x >>= f).outcome = .error e ↔
      x.outcome = .error e ∨ ∃ a, x.outcome = .ok a ∧ (f a).outcome = .error e := by
  cases hx : x.outcome with
  | ok a => simp [outcome_bind_of_ok hx]
  | error e => simp [bind_of_error hx]

/-- Sequences of traced computations obey the laws of monads. -/
instance : LawfulMonad Traced := LawfulMonad.mk' Traced
  (fun x => by
    show x >>= (fun a => Pure.pure a) = x
    cases hx : x.outcome with
    | ok a => ext1 <;> simp [bind_of_ok hx, hx]
    | error e => ext1 <;> simp [bind_of_error hx, hx])
  (fun a f => by
    rw [bind_of_ok (outcome_pure a)]
    ext1 <;> simp)
  (fun x f g => by
    cases hx : x.outcome with
    | error e =>
      rw [bind_of_error (x := x >>= f) (e := e) (by rw [bind_of_error hx]), bind_of_error hx,
        bind_of_error hx]
    | ok a =>
      rw [bind_of_ok hx fun a => f a >>= g]
      cases hf : (f a).outcome with
      | error e =>
        rw [bind_of_error (x := x >>= f) (e := e) (by rw [bind_of_ok hx, hf]), bind_of_ok hx,
          bind_of_error hf]
      | ok b =>
        rw [bind_of_ok (x := x >>= f) (a := b) (by rw [bind_of_ok hx, hf]), bind_of_ok hx,
          bind_of_ok hf, List.append_assoc])

end RecordFilter.Traced
