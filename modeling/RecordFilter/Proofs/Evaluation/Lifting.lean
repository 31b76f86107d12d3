import RecordFilter.Proofs.Builder.Subjects
import RecordFilter.Proofs.Evaluation.Effects

/-!
# Two evaluations side by side

Evaluation of a tree over records, and of the tree with other clauses over other records. If clauses
select alike, trees do: at every place of the tree the same candidates are left. This holds in any
two monads whose computations can be compared.

* `Lifting` — how computations of two monads are compared, given how their results are.
* `Candidate.Moved` — candidates, and the same candidates with other records.
* `Candidate.lift_filterWith` — tests that answer alike keep the same candidates.
* `Item.lift_selectWith`, `Group.lift_searchWith` — **clauses that select alike make trees that
  select alike.**
-/

namespace RecordFilter

/-- **How computations are compared**: a relation for each relation of their results, which holds of
results without effects and of sequences. -/
structure Lifting (m m' : Type → Type) [Monad m] [Monad m'] where
  rel : ∀ {α β : Type}, (α → β → Prop) → m α → m' β → Prop
  pure : ∀ {α β : Type} {A : α → β → Prop} {a : α} {b : β}, A a b →
    rel A (Pure.pure a) (Pure.pure b)
  bind : ∀ {α β γ δ : Type} {A : α → β → Prop} {B : γ → δ → Prop} {x : m α} {y : m' β}
    {f : α → m γ} {g : β → m' δ}, rel A x y → (∀ a b, A a b → rel B (f a) (g b)) →
    rel B (x >>= f) (y >>= g)

namespace Candidate

/-- A candidate with another record. -/
def move (f : Json → Json) (c : Candidate) : Candidate := { c with record := f c.record }

/-- **The same candidates with other records.** -/
def Moved (f : Json → Json) (candidates moved : List Candidate) : Prop :=
  moved = candidates.map (move f)

variable {f : Json → Json}

/-- Other records make other candidates at the same positions. -/
theorem ofRecords_map (records : List Json) :
    ofRecords (records.map f) = (ofRecords records).map (move f) := by
  unfold ofRecords
  rw [List.zipIdx_map, List.map_map, List.map_map]
  rfl

/-- Leaving out candidates goes by their indices. -/
theorem without_move (candidates hits : List Candidate) :
    without (candidates.map (move f)) (hits.map (move f)) =
      (without candidates hits).map (move f) := by
  unfold without
  rw [List.filter_map]
  refine congrArg (List.map (move f)) (List.filter_congr fun c _ => ?_)
  rw [Function.comp_apply, List.any_map]
  rfl

end Candidate

/-- The indices of all matches, or only the first one. -/
def Group.searchWith {m : Type → Type} [Monad m]
    (select : Clause → List Candidate → m (List Candidate)) (g : Group) (onlyFirst : Bool)
    (records : List Json) : m (List Nat) :=
  if onlyFirst then do
    let hit ← g.firstWith select records
    return hit.toList
  else g.matchingWith select records

/-- Evaluation is a search, after every predicate of the tree has been found. -/
theorem Group.evaluate_eq_searchWith (registry : Registry) (g : Group) (onlyFirst : Bool)
    (records : List Json) :
    g.evaluate registry onlyFirst records =
      match if records.isEmpty then none else g.unresolved? registry with
      | some e => Traced.fail e
      | none => g.searchWith (Clause.select registry) onlyFirst records := by
  rw [evaluate, matching_eq_matchingWith, first_eq_firstWith]
  rfl

section

variable {m m' : Type → Type} [Monad m] [Monad m'] (L : Lifting m m') {f : Json → Json}

/-- **Tests that answer alike keep the same candidates.** -/
theorem Candidate.lift_filterWith {test : Candidate → m Bool} {test' : Candidate → m' Bool}
    (h : ∀ c, L.rel (· = ·) (test c) (test' (c.move f))) (candidates : List Candidate) :
    L.rel (Moved f) (filterWith test candidates) (filterWith test' (candidates.map (move f))) := by
  induction candidates with
  | nil => exact L.pure rfl
  | cons c rest ih =>
    rw [List.map_cons, filterWith, filterWith]
    refine L.bind (h c) fun holds _ heq => L.bind ih fun hits moved hmoved => L.pure ?_
    rw [← heq, hmoved]
    cases holds <;> rfl

variable {g : Clause → Clause} {select : Clause → List Candidate → m (List Candidate)}
  {select' : Clause → List Candidate → m' (List Candidate)}

/-- **A clause selects the same candidates** as the clause that it becomes. -/
def Clause.SelectsAlike (f : Json → Json) (g : Clause → Clause)
    (select : Clause → List Candidate → m (List Candidate))
    (select' : Clause → List Candidate → m' (List Candidate)) (clause : Clause) : Prop :=
  ∀ candidates, L.rel (Candidate.Moved f) (select clause candidates)
    (select' (g clause) (candidates.map (Candidate.move f)))

/-- An item selects the same candidates as the item that it becomes. -/
def Item.SelectsAlike (f : Json → Json) (g : Clause → Clause)
    (select : Clause → List Candidate → m (List Candidate))
    (select' : Clause → List Candidate → m' (List Candidate)) (item : Item) : Prop :=
  ∀ candidates, L.rel (Candidate.Moved f) (item.selectWith select candidates)
    ((item.mapClauses g).selectWith select' (candidates.map (Candidate.move f)))

variable {L}

/-- A conjunction of items that select alike narrows alike. -/
theorem Item.lift_narrowWith {items : List Item}
    (h : ∀ item ∈ items, item.SelectsAlike L f g select select') (candidates : List Candidate) :
    L.rel (Candidate.Moved f) (narrowWith select items candidates)
      (narrowWith select' (mapClausesOf g items) (candidates.map (Candidate.move f))) := by
  induction items generalizing candidates with
  | nil => exact L.pure rfl
  | cons item rest ih =>
    rw [mapClausesOf, narrowWith, narrowWith, List.isEmpty_map]
    split
    · exact L.pure rfl
    · refine L.bind (h item List.mem_cons_self candidates) fun kept moved hmoved => ?_
      obtain rfl : moved = kept.map (Candidate.move f) := hmoved
      exact ih (fun item hmem => h item (List.mem_cons_of_mem _ hmem)) kept

/-- A disjunction of items that select alike exhausts alike. -/
theorem Item.lift_exhaustWith {items : List Item}
    (h : ∀ item ∈ items, item.SelectsAlike L f g select select') (candidates : List Candidate) :
    L.rel (Candidate.Moved f) (exhaustWith select items candidates)
      (exhaustWith select' (mapClausesOf g items) (candidates.map (Candidate.move f))) := by
  induction items generalizing candidates with
  | nil => exact L.pure rfl
  | cons item rest ih =>
    rw [mapClausesOf, exhaustWith, exhaustWith, List.isEmpty_map]
    split
    · exact L.pure rfl
    · refine L.bind (h item List.mem_cons_self candidates) fun hits moved hmoved => ?_
      obtain rfl : moved = hits.map (Candidate.move f) := hmoved
      rw [Candidate.without_move]
      exact ih (fun item hmem => h item (List.mem_cons_of_mem _ hmem)) _

/-- **Clauses that select alike make items that select alike.** -/
theorem Item.lift_selectWith (item : Item)
    (h : ∀ clause ∈ item.clauses, clause.SelectsAlike L f g select select') :
    item.SelectsAlike L f g select select' := by
  induction item with
  | clause clause => exact h clause (List.mem_singleton_self _)
  | group path combinator items ih =>
    have hitems : ∀ item ∈ items, item.SelectsAlike L f g select select' := fun item hmem =>
      ih item hmem fun clause hclause => h clause (mem_clausesOf.2 ⟨item, hmem, hclause⟩)
    intro candidates
    cases combinator with
    | all => exact lift_narrowWith hitems candidates
    | any =>
      rw [mapClauses, selectWith, selectWith]
      refine L.bind (lift_exhaustWith hitems candidates) fun left moved hmoved => L.pure ?_
      obtain rfl : moved = left.map (Candidate.move f) := hmoved
      exact Candidate.without_move _ _

namespace Group

variable {tree : Group}
  (h : ∀ clause ∈ tree.clauses, clause.SelectsAlike L f g select select') (records : List Json)
include h

/-- All matches have the same indices. -/
theorem lift_matchingWith :
    L.rel (· = ·) (tree.matchingWith select records)
      ((tree.mapClauses g).matchingWith select' (records.map f)) := by
  unfold matchingWith
  rw [Candidate.ofRecords_map]
  refine L.bind (tree.toItem.lift_selectWith h _) fun hits moved hmoved => L.pure ?_
  obtain rfl : moved = hits.map (Candidate.move f) := hmoved
  rw [List.map_map]
  rfl

/-- The first match has the same index. -/
theorem lift_firstWith :
    L.rel (· = ·) (tree.firstWith select records)
      ((tree.mapClauses g).firstWith select' (records.map f)) := by
  unfold firstWith
  rw [Candidate.ofRecords_map]
  induction Candidate.ofRecords records with
  | nil => exact L.pure rfl
  | cons c rest ih =>
    rw [List.map_cons, firstOfWith, firstOfWith]
    refine L.bind (tree.toItem.lift_selectWith h [c]) fun hits moved hmoved => ?_
    obtain rfl : moved = hits.map (Candidate.move f) := hmoved
    rw [List.isEmpty_map]
    split
    · exact ih
    · exact L.pure rfl

/-- What is asked for has the same indices. -/
theorem lift_searchWith (onlyFirst : Bool) :
    L.rel (· = ·) (tree.searchWith select onlyFirst records)
      ((tree.mapClauses g).searchWith select' onlyFirst (records.map f)) := by
  cases onlyFirst with
  | true => exact L.bind (lift_firstWith h records) fun hit _ heq => heq ▸ L.pure rfl
  | false => exact lift_matchingWith h records

end Group

end

end RecordFilter
