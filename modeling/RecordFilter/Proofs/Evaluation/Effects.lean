import RecordFilter.Proofs.Evaluation.Candidates
import RecordFilter.Proofs.Evaluation.Traced

/-!
# Evaluation with any effects

Evaluation goes through a tree in the same way whatever a test does: record a call, fail, or answer
differently the second time. So it is one function for all monads, and what holds for every lawful
monad holds for every behaviour of predicates.

* `Item.selectWith`, `Group.matchingWith`, `Group.firstWith` — evaluation, given how clauses select.
* `Item.select_eq_selectWith`, `Group.matching_eq_matchingWith`, `Group.first_eq_firstWith` — with
  the predicates of a registry it is the evaluation of queries.
* `Narrows` — a computation gives a sublist of the candidates, and what follows may rely on it;
  `Item.narrows_selectWith`.
* `Group.lt_length_of_evaluate` — evaluation gives indices of the records.
* `Behaviour` — predicates whose answers depend on the calls before; `Group.evaluateUnder`.
-/

namespace RecordFilter

/-! ## Evaluation in a monad -/

section

variable {m : Type → Type} [Monad m]

/-- The candidates that pass a test, tested in order. -/
def Candidate.filterWith (test : Candidate → m Bool) : List Candidate → m (List Candidate)
  | [] => pure []
  | c :: rest => do
    let holds ← test c
    let hits ← filterWith test rest
    return if holds then c :: hits else hits

variable (select : Clause → List Candidate → m (List Candidate))

mutual

/-- The candidates that an item matches, given those that a clause matches. -/
def Item.selectWith : Item → List Candidate → m (List Candidate)
  | .clause c, candidates => select c candidates
  | .group _ .all items, candidates => Item.narrowWith items candidates
  | .group _ .any items, candidates => do
    let left ← Item.exhaustWith items candidates
    return Candidate.without candidates left

/-- The candidates that all items match. -/
def Item.narrowWith : List Item → List Candidate → m (List Candidate)
  | [], candidates => pure candidates
  | item :: rest, candidates =>
    if candidates.isEmpty then pure candidates
    else do
      let kept ← item.selectWith candidates
      Item.narrowWith rest kept

/-- The candidates that no item matches. -/
def Item.exhaustWith : List Item → List Candidate → m (List Candidate)
  | [], candidates => pure candidates
  | item :: rest, candidates =>
    if candidates.isEmpty then pure candidates
    else do
      let hits ← item.selectWith candidates
      Item.exhaustWith rest (Candidate.without candidates hits)

end

namespace Group

/-- The indices of all matching records. -/
def matchingWith (g : Group) (records : List Json) : m (List Nat) := do
  let hits ← g.toItem.selectWith select (Candidate.ofRecords records)
  return hits.map (·.index)

/-- The first candidate that matches when candidates are tested one at a time. -/
def firstOfWith (g : Group) : List Candidate → m (Option Nat)
  | [] => pure none
  | c :: rest => do
    let hits ← g.toItem.selectWith select [c]
    if hits.isEmpty then firstOfWith g rest else return some c.index

/-- The index of the first matching record, tested one at a time. -/
def firstWith (g : Group) (records : List Json) : m (Option Nat) :=
  g.firstOfWith select (Candidate.ofRecords records)

/-- Without candidates a tree selects nothing and tests nothing. -/
theorem selectWith_nil (g : Group) [LawfulMonad m] : g.toItem.selectWith select [] = pure [] := by
  obtain ⟨path, combinator, items⟩ := g
  cases combinator <;> cases items <;>
    simp [toItem, Item.selectWith, Item.narrowWith, Item.exhaustWith, Candidate.without]

end Group

end

/-! ## The predicates of a registry -/

section

variable (registry : Registry)

/-- A clause filters candidates by its test. -/
theorem Clause.filter_eq_filterWith (predicate : Predicate) (clause : Clause)
    (candidates : List Candidate) :
    clause.filter predicate candidates =
      Candidate.filterWith (clause.test predicate) candidates := by
  induction candidates with
  | nil => rfl
  | cons c rest ih => rw [Clause.filter, Candidate.filterWith, ih]

/-- **The evaluation of items is the general one**, with clauses that call their predicates. -/
theorem Item.select_eq_selectWith (item : Item) :
    ∀ candidates, item.select registry candidates =
      item.selectWith (Clause.select registry) candidates := by
  induction item with
  | clause c => exact fun candidates => rfl
  | group path combinator items ih =>
    intro candidates
    cases combinator with
    | all =>
      rw [Item.select, Item.selectWith]
      induction items generalizing candidates with
      | nil => rfl
      | cons item rest ihrest =>
        rw [Item.narrow, Item.narrowWith, ih item List.mem_cons_self]
        simp only [ihrest fun item hmem => ih item (List.mem_cons_of_mem _ hmem), Traced.pure_eq]
    | any =>
      have hexhaust : ∀ candidates, Item.exhaust registry items candidates =
          Item.exhaustWith (Clause.select registry) items candidates := by
        induction items with
        | nil => exact fun candidates => rfl
        | cons item rest ihrest =>
          intro candidates
          rw [Item.exhaust, Item.exhaustWith, ih item List.mem_cons_self]
          simp only [ihrest fun item hmem => ih item (List.mem_cons_of_mem _ hmem), Traced.pure_eq]
      rw [Item.select, Item.selectWith, hexhaust]

namespace Group

/-- Matching is the general search for all matches, with the calls of clauses. -/
theorem matching_eq_matchingWith (g : Group) (records : List Json) :
    g.matching registry records = g.matchingWith (Clause.select registry) records := by
  rw [matching, matchingWith, Item.select_eq_selectWith]

/-- Finding the first match is the general search for one, with the calls of clauses. -/
theorem first_eq_firstWith (g : Group) (records : List Json) :
    g.first registry records = g.firstWith (Clause.select registry) records := by
  rw [first, firstWith]
  induction Candidate.ofRecords records with
  | nil => rfl
  | cons c rest ih => rw [firstOf, firstOfWith, Item.select_eq_selectWith, ih]

end Group

end

/-! ## Narrowing -/

section

variable {m : Type → Type} [Monad m]

/-- **A computation narrows a list of candidates**: it gives a sublist, so that two continuations
that agree on sublists are the same after it. -/
structure Narrows (candidates : List Candidate) (x : m (List Candidate)) : Prop where
  bind_eq {β : Type} (f g : List Candidate → m β)
    (h : ∀ hits, hits.Sublist candidates → f hits = g hits) : x >>= f = x >>= g

namespace Narrows

variable {candidates kept : List Candidate}

/-- What narrows a part of the candidates narrows them all. -/
theorem mono {x : m (List Candidate)} (hx : Narrows kept x) (h : kept.Sublist candidates) :
    Narrows candidates x :=
  ⟨fun f g hfg => hx.bind_eq f g fun hits hsub => hfg hits (hsub.trans h)⟩

variable [LawfulMonad m]

/-- A part of the candidates narrows them without a call. -/
theorem pure (h : kept.Sublist candidates) : Narrows candidates (Pure.pure kept : m _) := by
  refine ⟨fun f g hfg => ?_⟩
  rw [pure_bind, pure_bind, hfg kept h]

/-- Whatever comes before, a computation narrows if its last part does. -/
theorem of_bind {α : Type} (x : m α) {f : α → m (List Candidate)}
    (h : ∀ a, Narrows candidates (f a)) : Narrows candidates (x >>= f) := by
  refine ⟨fun g g' hg => ?_⟩
  rw [bind_assoc, bind_assoc]
  exact bind_congr fun a => (h a).bind_eq g g' hg

/-- Narrowing further narrows. -/
theorem bind {x : m (List Candidate)} {f : List Candidate → m (List Candidate)}
    (hx : Narrows kept x) (hf : ∀ hits, hits.Sublist kept → Narrows candidates (f hits)) :
    Narrows candidates (x >>= f) := by
  refine ⟨fun g g' hg => ?_⟩
  rw [bind_assoc, bind_assoc]
  exact hx.bind_eq _ _ fun hits hsub => (hf hits hsub).bind_eq g g' hg

end Narrows

variable [LawfulMonad m]

/-- Testing candidates one after the other narrows them. -/
theorem Candidate.narrows_filterWith (test : Candidate → m Bool) (candidates : List Candidate) :
    Narrows candidates (filterWith test candidates) := by
  induction candidates with
  | nil => exact Narrows.pure (List.Sublist.refl [])
  | cons c rest ih =>
    rw [filterWith]
    refine Narrows.of_bind _ fun holds => ih.bind fun hits hsub => Narrows.pure ?_
    cases holds with
    | true => exact hsub.cons_cons c
    | false => exact hsub.cons c

variable {select : Clause → List Candidate → m (List Candidate)}

/-- A conjunction of items that narrow narrows. -/
theorem Item.narrows_narrowWith {items : List Item}
    (hitems : ∀ item ∈ items, ∀ candidates, Narrows candidates (item.selectWith select candidates))
    (candidates : List Candidate) :
    Narrows candidates (Item.narrowWith select items candidates) := by
  induction items generalizing candidates with
  | nil => exact Narrows.pure (List.Sublist.refl _)
  | cons item rest ih =>
    rw [Item.narrowWith]
    split
    · exact Narrows.pure (List.Sublist.refl _)
    · refine (hitems item List.mem_cons_self candidates).bind fun kept hsub => ?_
      exact (ih (fun item hmem => hitems item (List.mem_cons_of_mem _ hmem)) kept).mono hsub

/-- A disjunction of items that narrow narrows. -/
theorem Item.narrows_exhaustWith {items : List Item}
    (hitems : ∀ item ∈ items, ∀ candidates, Narrows candidates (item.selectWith select candidates))
    (candidates : List Candidate) :
    Narrows candidates (Item.exhaustWith select items candidates) := by
  induction items generalizing candidates with
  | nil => exact Narrows.pure (List.Sublist.refl _)
  | cons item rest ih =>
    rw [Item.exhaustWith]
    split
    · exact Narrows.pure (List.Sublist.refl _)
    · refine (hitems item List.mem_cons_self candidates).bind fun hits _ => ?_
      exact (ih (fun item hmem => hitems item (List.mem_cons_of_mem _ hmem)) _).mono
        Candidate.without_sublist

/-- **An item narrows its candidates** if clauses do. -/
theorem Item.narrows_selectWith
    (hselect : ∀ clause candidates, Narrows candidates (select clause candidates)) (item : Item) :
    ∀ candidates, Narrows candidates (item.selectWith select candidates) := by
  induction item with
  | clause c => exact hselect c
  | group path combinator items ih =>
    intro candidates
    cases combinator with
    | all => exact Item.narrows_narrowWith ih candidates
    | any =>
      rw [Item.selectWith]
      exact (Item.narrows_exhaustWith ih candidates).bind fun left _ =>
        Narrows.pure Candidate.without_sublist

end

/-- Clauses that call the predicates of a registry narrow their candidates. -/
theorem Clause.narrows_select (registry : Registry) (clause : Clause)
    (candidates : List Candidate) : Narrows candidates (clause.select registry candidates) := by
  rw [Clause.select]
  split
  · rw [Clause.filter_eq_filterWith]
    exact Candidate.narrows_filterWith _ candidates
  · exact ⟨fun f g _ => rfl⟩

/-! ## Indices of records -/

open Classical in
/-- What a narrowing computation gives is a sublist: a continuation could not tell otherwise. -/
theorem Narrows.sublist_of_outcome {candidates hits : List Candidate} {x : Traced (List Candidate)}
    (hx : Narrows candidates x) (h : x.outcome = .ok hits) : hits.Sublist candidates := by
  have hbind := hx.bind_eq (fun _ => Pure.pure true)
    (fun hits => Pure.pure (decide (hits.Sublist candidates)))
    fun hits hsub => by rw [decide_eq_true hsub]
  have hout := congrArg Traced.outcome hbind
  rw [Traced.outcome_bind_of_ok h, Traced.outcome_bind_of_ok h, Traced.outcome_pure,
    Traced.outcome_pure] at hout
  exact of_decide_eq_true (Except.ok.inj hout).symm

namespace Group

variable {registry : Registry} {g : Group} {records : List Json}

/-- The first match is the position of a candidate. -/
theorem exists_of_firstOf {candidates : List Candidate} {i : Nat}
    (h : (g.firstOf registry candidates).outcome = .ok (some i)) :
    ∃ c ∈ candidates, c.index = i := by
  induction candidates with
  | nil => cases h
  | cons c rest ih =>
    rw [firstOf] at h
    obtain ⟨hits, -, hnext⟩ := Traced.outcome_bind_eq_ok_iff.1 h
    split at hnext
    · obtain ⟨c', hmem, hindex⟩ := ih hnext
      exact ⟨c', List.mem_cons_of_mem c hmem, hindex⟩
    · exact ⟨c, List.mem_cons_self, Option.some.inj (Except.ok.inj hnext)⟩

/-- The candidates of records have the indices of records. -/
theorem index_lt_length {c : Candidate} (h : c ∈ Candidate.ofRecords records) :
    c.index < records.length := by
  have hrecord := Candidate.mem_ofRecords.1 h
  exact (List.getElem?_eq_some_iff.1 hrecord).1

/-- **Evaluation gives indices of the records** that it was given. -/
theorem lt_length_of_evaluate {onlyFirst : Bool} {indices : List Nat}
    (h : (g.evaluate registry onlyFirst records).outcome = .ok indices) :
    ∀ i ∈ indices, i < records.length := by
  intro i hi
  unfold evaluate at h
  split at h
  next => cases h
  next =>
    split at h
    next =>
      obtain ⟨hit, hfirst, hhit⟩ := Traced.outcome_bind_eq_ok_iff.1 h
      obtain rfl : hit.toList = indices := Except.ok.inj hhit
      rw [Option.mem_toList] at hi
      obtain rfl : hit = some i := hi
      obtain ⟨c, hc, rfl⟩ := exists_of_firstOf hfirst
      exact index_lt_length hc
    next =>
      obtain ⟨hits, hselect, hhits⟩ := Traced.outcome_bind_eq_ok_iff.1 h
      obtain rfl : hits.map (·.index) = indices := Except.ok.inj hhits
      obtain ⟨c, hc, rfl⟩ := List.mem_map.1 hi
      rw [Item.select_eq_selectWith] at hselect
      have hnarrows := Item.narrows_selectWith (Clause.narrows_select registry) g.toItem
        (Candidate.ofRecords records)
      exact index_lt_length ((hnarrows.sublist_of_outcome hselect).subset hc)

/-- Without records evaluation gives nothing. -/
theorem outcome_evaluate_nil (registry : Registry) (g : Group) (onlyFirst : Bool) :
    (g.evaluate registry onlyFirst []).outcome = .ok [] := by
  cases onlyFirst with
  | true => rfl
  | false =>
    show (g.matching registry []).outcome = .ok []
    rw [matching_eq_matchingWith, matchingWith]
    show (g.toItem.selectWith (Clause.select registry) [] >>= _).outcome = .ok []
    rw [selectWith_nil]
    rfl

end Group

/-! ## Predicates with a memory -/

/-- **A behaviour of predicates**: what they answer to a call after the calls before it. -/
abbrev Behaviour := List Call → Call → Except PredicateFault Bool

/-- Computations that write down their calls; a failure keeps what is written. -/
abbrev Recording := ExceptT Error (StateM (List Call))

namespace Behaviour

variable (behaviour : Behaviour)

/-- Whether a clause holds of a candidate: one call, written down before it is answered. -/
def test (clause : Clause) (c : Candidate) : Recording Bool := do
  let call : Call := ⟨clause, c.index, clause.subject.lookup c.record⟩
  let before ← get
  set (before ++ [call])
  match behaviour before call with
  | .ok answer => return answer != clause.negate
  | .error fault => throw (.predicate clause.predicate fault)

/-- The candidates that a clause matches. -/
def select (clause : Clause) : List Candidate → Recording (List Candidate) :=
  Candidate.filterWith (behaviour.test clause)

end Behaviour

/-- **Evaluation under a behaviour**: the registry says which names have a predicate, the behaviour
how the predicates answer. The result comes with the calls that were made. -/
def Group.evaluateUnder (registry : Registry) (behaviour : Behaviour) (g : Group)
    (onlyFirst : Bool) (records : List Json) : Except Error (List Nat) × List Call :=
  let run : Recording (List Nat) :=
    match if records.isEmpty then none else g.unresolved? registry with
    | some e => throw e
    | none =>
      if onlyFirst then do
        let hit ← g.firstWith behaviour.select records
        return hit.toList
      else g.matchingWith behaviour.select records
  (ExceptT.run run).run []

end RecordFilter
