import Mathlib.Data.List.Basic
import Mathlib.Data.List.Induction

/-!
# What stands in a history

A history is a list of events in the order in which they happened. An event stands in it as long as
no later one overrides it.

* `Stands` — nothing after an event overrides it.
* `stands_concat` — what stands after one more event.
* `exists_stands` — of the events that override each other the last one stands.
-/

namespace RecordFilter

variable {α : Type} {overrides : α → Prop} {history : List α} {x y : α}

/-- **An event stands in a history**: nothing after it overrides it. -/
def Stands (overrides : α → Prop) (history : List α) (x : α) : Prop :=
  ∃ before after, history = before ++ x :: after ∧ ∀ y ∈ after, ¬ overrides y

/-- What stands in a history is an event of it. -/
theorem Stands.mem (h : Stands overrides history x) : x ∈ history := by
  obtain ⟨before, after, rfl, -⟩ := h
  exact List.mem_append_right _ List.mem_cons_self

/-- Nothing stands where nothing has happened. -/
theorem not_stands_nil : ¬ Stands overrides [] x := fun h => absurd h.mem List.not_mem_nil

/-- **One more event stands itself**, and what stood before stands unless it is overridden. -/
theorem stands_concat :
    Stands overrides (history ++ [y]) x ↔ x = y ∨ Stands overrides history x ∧ ¬ overrides y := by
  constructor
  · rintro ⟨before, after, heq, hafter⟩
    rcases List.eq_nil_or_concat' after with rfl | ⟨after, last, rfl⟩
    · obtain ⟨-, hlast⟩ := List.append_inj' heq rfl
      exact .inl (List.singleton_inj.1 hlast).symm
    · rw [← List.cons_append, ← List.append_assoc] at heq
      obtain ⟨hhistory, hlast⟩ := List.append_inj' heq rfl
      obtain rfl := List.singleton_inj.1 hlast
      rw [List.forall_mem_append] at hafter
      exact .inr ⟨⟨before, after, hhistory, hafter.1⟩, hafter.2 y List.mem_cons_self⟩
  · rintro (rfl | ⟨⟨before, after, rfl, hafter⟩, hy⟩)
    · exact ⟨history, [], rfl, fun y hmem => absurd hmem List.not_mem_nil⟩
    · refine ⟨before, after ++ [y], ?_, ?_⟩
      · rw [List.append_assoc, List.cons_append]
      · rw [List.forall_mem_append]
        exact ⟨hafter, fun z hz => (List.mem_singleton.1 hz) ▸ hy⟩

/-- **Of the events that override each other the last one stands.** -/
theorem exists_stands (hmem : x ∈ history) (hx : overrides x) :
    ∃ y, overrides y ∧ Stands overrides history y := by
  induction history using List.reverseRecOn with
  | nil => exact absurd hmem List.not_mem_nil
  | append_singleton history last ih =>
    by_cases hlast : overrides last
    · exact ⟨last, hlast, stands_concat.2 (.inl rfl)⟩
    · rcases List.mem_append.1 hmem with hbefore | hend
      · obtain ⟨y, hy, hstands⟩ := ih hbefore
        exact ⟨y, hy, stands_concat.2 (.inr ⟨hstands, hlast⟩)⟩
      · obtain rfl := List.mem_singleton.1 hend
        exact absurd hx hlast

end RecordFilter
