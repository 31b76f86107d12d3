import RecordFilter.Proofs.Evaluation.Effects

/-!
# The core of a tree

A group around one clause matches what the clause matches, and paths play no part in evaluation. The
core of a tree forgets both, and trees with one core cannot be told apart by evaluation, neither by
results nor by calls.

* `Item.core` — the item without paths and without groups around one clause.
* `Item.clauses_core` — the clauses stay.
* `Item.selectWith_core` — so does what the item selects, with any effects of the tests.
* `Group.evaluate_eq_of_core_eq`, `Group.evaluateUnder_eq_of_core_eq` — evaluation depends on the
  core alone.
-/

namespace RecordFilter

/-! ## Cores -/

/-- The core of a group whose items are cores: one clause stands for itself. -/
def Item.unwrap (combinator : Combinator) : List Item → Item
  | [.clause c] => .clause c
  | items => .group .root combinator items

mutual

/-- **The core of an item.** -/
def Item.core : Item → Item
  | .clause c => .clause c
  | .group _ combinator items => Item.unwrap combinator (Item.coresOf items)

/-- The cores of items. -/
def Item.coresOf : List Item → List Item
  | [] => []
  | item :: rest => item.core :: Item.coresOf rest

end

namespace Item

/-- The cores of items, one by one. -/
theorem coresOf_eq_map (items : List Item) : coresOf items = items.map core := by
  induction items with
  | nil => rfl
  | cons item rest ih => rw [coresOf, ih, List.map_cons]

/-- The core of a group is that of its items' cores. -/
theorem core_group (path : GroupPath) (combinator : Combinator) (items : List Item) :
    (Item.group path combinator items).core = unwrap combinator (items.map core) := by
  rw [core, coresOf_eq_map]

/-- A group around one clause has the clause as its core. -/
theorem core_single (path : GroupPath) (combinator : Combinator) (c : Clause) :
    (Item.group path combinator [.clause c]).core = .clause c := rfl

/-- A group is unwrapped only if a clause is all that it has. -/
theorem unwrap_cases (combinator : Combinator) (items : List Item) :
    (∃ c, items = [.clause c] ∧ unwrap combinator items = .clause c) ∨
      unwrap combinator items = .group .root combinator items := by
  unfold unwrap
  split
  next c => exact .inl ⟨c, rfl, rfl⟩
  next => exact .inr rfl

/-- Unwrapping loses no clause. -/
theorem clauses_unwrap (combinator : Combinator) (items : List Item) :
    (unwrap combinator items).clauses = clausesOf items := by
  rcases unwrap_cases combinator items with ⟨c, rfl, h⟩ | h
  · rw [h]
    rfl
  · rw [h, clauses]

/-- **The core has the clauses of the item**, in the same order. -/
theorem clauses_core (item : Item) : item.core.clauses = item.clauses := by
  induction item with
  | clause c => rfl
  | group path combinator items ih =>
    rw [core_group, clauses_unwrap, clauses]
    induction items with
    | nil => rfl
    | cons item rest ihrest =>
      rw [List.map_cons, clausesOf, clausesOf, ih item List.mem_cons_self,
        ihrest fun item hmem => ih item (List.mem_cons_of_mem _ hmem)]

/-! ## Selecting with a core -/

section

variable {m : Type → Type} [Monad m] [LawfulMonad m]
  {select : Clause → List Candidate → m (List Candidate)}
  (hselect : ∀ (item : Item) candidates, Narrows candidates (item.selectWith select candidates))

include hselect

omit [LawfulMonad m] in
/-- What the items of a group do depends on what each of them selects from some candidates. -/
theorem narrowWith_map {f : Item → Item} {items : List Item}
    (hf : ∀ item ∈ items, ∀ candidates, candidates ≠ [] → Candidate.Ascending candidates →
      item.selectWith select candidates = (f item).selectWith select candidates)
    {candidates : List Candidate} (hasc : Candidate.Ascending candidates) :
    narrowWith select items candidates = narrowWith select (items.map f) candidates := by
  induction items generalizing candidates with
  | nil => rfl
  | cons item rest ih =>
    rw [List.map_cons, narrowWith, narrowWith]
    split
    next => rfl
    next hne =>
      rw [hf item List.mem_cons_self candidates (by simpa using hne) hasc]
      refine (hselect (f item) candidates).bind_eq _ _ fun kept hsub => ?_
      exact ih (fun item hmem => hf item (List.mem_cons_of_mem _ hmem)) (hasc.sublist hsub)

omit [LawfulMonad m] in
/-- Exhausting items is exhausting others that select the same, as long as candidates ascend. -/
theorem exhaustWith_map {f : Item → Item} {items : List Item}
    (hf : ∀ item ∈ items, ∀ candidates, candidates ≠ [] → Candidate.Ascending candidates →
      item.selectWith select candidates = (f item).selectWith select candidates)
    {candidates : List Candidate} (hasc : Candidate.Ascending candidates) :
    exhaustWith select items candidates = exhaustWith select (items.map f) candidates := by
  induction items generalizing candidates with
  | nil => rfl
  | cons item rest ih =>
    rw [List.map_cons, exhaustWith, exhaustWith]
    split
    next => rfl
    next hne =>
      rw [hf item List.mem_cons_self candidates (by simpa using hne) hasc]
      refine (hselect (f item) candidates).bind_eq _ _ fun hits _ => ?_
      exact ih (fun item hmem => hf item (List.mem_cons_of_mem _ hmem))
        (hasc.sublist Candidate.without_sublist)

/-- **A group around one item selects what the item selects.** Not so without candidates: then the
group tests nothing, and the item may still fail. -/
theorem selectWith_single
    (path : GroupPath) (combinator : Combinator) (item : Item) {candidates : List Candidate}
    (hne : candidates ≠ []) (hasc : Candidate.Ascending candidates) :
    (Item.group path combinator [item]).selectWith select candidates =
      item.selectWith select candidates := by
  have hempty : ¬ candidates.isEmpty = true := by simpa using hne
  cases combinator with
  | all =>
    simp only [selectWith, narrowWith, if_neg hempty]
    exact bind_pure _
  | any =>
    simp only [selectWith, exhaustWith, if_neg hempty, bind_assoc, pure_bind]
    refine Eq.trans ?_ (bind_pure (item.selectWith select candidates))
    refine (hselect item candidates).bind_eq _ _ fun hits hsub => ?_
    rw [Candidate.without_without hasc hsub]

/-- A group selects what it selects when unwrapped. -/
theorem selectWith_unwrap
    (combinator : Combinator) (items : List Item) {candidates : List Candidate}
    (hne : candidates ≠ []) (hasc : Candidate.Ascending candidates) :
    (Item.group .root combinator items).selectWith select candidates =
      (unwrap combinator items).selectWith select candidates := by
  rcases unwrap_cases combinator items with ⟨c, rfl, h⟩ | h
  · rw [h, selectWith_single hselect .root combinator _ hne hasc]
  · rw [h]

/-- **An item selects what its core selects**, from some candidates in order. -/
theorem selectWith_core
    (item : Item) :
    ∀ candidates, candidates ≠ [] → Candidate.Ascending candidates →
      item.selectWith select candidates = item.core.selectWith select candidates := by
  induction item with
  | clause c => exact fun candidates _ _ => rfl
  | group path combinator items ih =>
    intro candidates hne hasc
    rw [core_group, ← selectWith_unwrap hselect combinator _ hne hasc]
    cases combinator with
    | all => exact narrowWith_map hselect ih hasc
    | any => rw [selectWith, selectWith, exhaustWith_map hselect ih hasc]

end

end Item

/-! ## Evaluation depends on the core -/

namespace Group

variable {a b : Group}

/-- Groups with one core have the same clauses. -/
theorem clauses_eq_of_core_eq (h : a.toItem.core = b.toItem.core) : a.clauses = b.clauses :=
  calc a.clauses = a.toItem.core.clauses := (Item.clauses_core a.toItem).symm
    _ = b.toItem.core.clauses := by rw [h]
    _ = b.clauses := Item.clauses_core b.toItem

section

variable {m : Type → Type} [Monad m] [LawfulMonad m]
  {select : Clause → List Candidate → m (List Candidate)}

/-- Groups with one core select the same from ascending candidates. -/
theorem selectWith_eq_of_core_eq (h : a.toItem.core = b.toItem.core)
    (hselect : ∀ clause candidates, Narrows candidates (select clause candidates))
    {candidates : List Candidate} (hasc : Candidate.Ascending candidates) :
    a.toItem.selectWith select candidates = b.toItem.selectWith select candidates := by
  have hitem := Item.narrows_selectWith hselect
  by_cases hne : candidates = []
  · rw [hne, selectWith_nil, selectWith_nil]
  · rw [Item.selectWith_core hitem _ candidates hne hasc, h,
      ← Item.selectWith_core hitem _ candidates hne hasc]

/-- Groups with one core match the same records. -/
theorem matchingWith_eq_of_core_eq (h : a.toItem.core = b.toItem.core)
    (hselect : ∀ clause candidates, Narrows candidates (select clause candidates))
    (records : List Json) : a.matchingWith select records = b.matchingWith select records := by
  rw [matchingWith, matchingWith,
    selectWith_eq_of_core_eq h hselect (Candidate.ascending_ofRecords records)]

/-- Groups with one core match the same first record. -/
theorem firstWith_eq_of_core_eq (h : a.toItem.core = b.toItem.core)
    (hselect : ∀ clause candidates, Narrows candidates (select clause candidates))
    (records : List Json) : a.firstWith select records = b.firstWith select records := by
  rw [firstWith, firstWith]
  induction Candidate.ofRecords records with
  | nil => rfl
  | cons c rest ih =>
    have hone : Candidate.Ascending [c] := List.pairwise_singleton _ c
    rw [firstOfWith, firstOfWith, selectWith_eq_of_core_eq h hselect hone, ih]

end

/-- Groups with one core have the same first clause without a predicate. -/
theorem unresolved?_eq_of_core_eq (h : a.toItem.core = b.toItem.core) (registry : Registry) :
    a.unresolved? registry = b.unresolved? registry := by
  rw [unresolved?, unresolved?, clauses_eq_of_core_eq h]

/-- **Trees with one core evaluate alike**: the same result or error after the same calls. -/
theorem evaluate_eq_of_core_eq (h : a.toItem.core = b.toItem.core) (registry : Registry)
    (onlyFirst : Bool) (records : List Json) :
    a.evaluate registry onlyFirst records = b.evaluate registry onlyFirst records := by
  have hselect := Clause.narrows_select registry
  simp only [evaluate, unresolved?_eq_of_core_eq h, first_eq_firstWith, matching_eq_matchingWith,
    firstWith_eq_of_core_eq h hselect, matchingWith_eq_of_core_eq h hselect]

/-- Trees with one core evaluate alike also when the answers of predicates depend on the calls
before. -/
theorem evaluateUnder_eq_of_core_eq (h : a.toItem.core = b.toItem.core) (registry : Registry)
    (behaviour : Behaviour) (onlyFirst : Bool) (records : List Json) :
    a.evaluateUnder registry behaviour onlyFirst records =
      b.evaluateUnder registry behaviour onlyFirst records := by
  have hselect : ∀ clause candidates, Narrows candidates (behaviour.select clause candidates) :=
    fun clause candidates => Candidate.narrows_filterWith _ candidates
  simp only [evaluateUnder, unresolved?_eq_of_core_eq h, firstWith_eq_of_core_eq h hselect,
    matchingWith_eq_of_core_eq h hselect]

end Group

end RecordFilter
