import RecordFilter.Proofs.Evaluation.Verdict

/-!
# Which predicates are called

Selecting among many candidates goes clause by clause, and testing one record goes from left to
right until the verdict is known. Both reach the same clauses for each record: evaluation makes the
calls that the records need one by one, each once, in the order of clauses and then of records, and
ends at the first of them that fails.

* `Item.reached`, `Group.Reaches` — the clauses that the verdict on one record needs, by position.
* `Traced.Performs` — a computation makes calls in order until one fails.
* `Item.scheduled` — the calls of an item on candidates, clause by clause; `Item.mem_scheduled`,
  `Item.pairwise_scheduled`.
* `Item.performs_select` — selecting makes the scheduled calls.
* `Group.matching_performs_reached` — **evaluation makes exactly the calls that records reach.**
-/

namespace RecordFilter

/-! ## Clauses that one record reaches -/

/-- **Whether a group goes on to its next item** after a verdict: while items match if all have to,
and while none does if one is enough. An error ends it. -/
def Verdict.continues : Combinator → Verdict → Bool
  | .all, .ok answer => answer
  | .any, .ok answer => !answer
  | _, .error _ => false

section

variable (registry : Registry) (record : Json)

mutual

/-- **The clauses of an item that the verdict on one record calls**, by their positions; the first
clause of the item has the position `start`. -/
def Item.reached : Item → Nat → List Nat
  | .clause _, start => [start]
  | .group _ combinator items, start => Item.reachedOf combinator items start

/-- The clauses of items that are called, up to the item that decides. -/
def Item.reachedOf (combinator : Combinator) : List Item → Nat → List Nat
  | [], _ => []
  | item :: rest, start =>
    item.reached start ++
      if (item.verdict registry record).continues combinator then
        Item.reachedOf combinator rest (start + item.clauses.length)
      else []

end

/-- The positions among the clauses of a tree of those that the verdict on a record calls. -/
def Group.reached (g : Group) : List Nat := g.toItem.reached registry record 0

end

/-- The call of a clause on a candidate. -/
def Clause.call (clause : Clause) (c : Candidate) : Call :=
  ⟨clause, c.index, clause.subject.lookup c.record⟩

/-- **A clause reaches a record**: it is called, as the clause at a position of the tree, when the
record is tested alone. -/
structure Group.Reaches (registry : Registry) (g : Group) (records : List Json) (position : Nat)
    (call : Call) : Prop where
  clause : g.clauses[position]? = some call.clause
  record : ∃ record, records[call.index]? = some record ∧
    position ∈ g.reached registry record ∧ call = call.clause.call ⟨call.index, record⟩

/-- The order of calls: by the position of the clause, then by record. -/
def Call.Before (a b : Nat × Call) : Prop :=
  a.1 < b.1 ∨ a.1 = b.1 ∧ a.2.index < b.2.index

/-! ## Calls in order -/

/-- A call that a predicate answers. -/
def Call.Answered (registry : Registry) (call : Call) : Prop :=
  ∃ answer, call.answer registry = .ok answer

/-- **A computation makes calls in order until one fails**: all of them, if all are answered, and
then it has a result; else those up to the first that fails, and then it has the error of that
predicate. -/
inductive Traced.Performs {α : Type} (registry : Registry) : List Call → Traced α → Prop
  | done {calls : List Call} (a : α) (hanswered : ∀ call ∈ calls, call.Answered registry) :
      Performs registry calls ⟨calls, .ok a⟩
  | stops {before : List Call} {call : Call} {fault : PredicateFault} (after : List Call)
      (hanswered : ∀ call ∈ before, call.Answered registry)
      (hfails : call.answer registry = .error (.predicate call.clause.predicate fault)) :
      Performs registry (before ++ call :: after)
        ⟨before ++ [call], .error (.predicate call.clause.predicate fault)⟩

namespace Traced.Performs

variable {registry : Registry} {α β : Type} {x : Traced α} {f : α → Traced β}
  {calls later : List Call}

/-- A result without a computation performs no calls. -/
theorem pure (a : α) : Performs registry [] (Pure.pure a : Traced α) :=
  .done a fun _ h => absurd h List.not_mem_nil

/-- **A sequence makes the calls of both parts.** What the second part would call matters only if
the first one has a result. -/
theorem bind (hx : Performs registry calls x)
    (hf : ∀ a, x.outcome = .ok a → Performs registry later (f a)) :
    Performs registry (calls ++ later) (x >>= f) := by
  cases hx with
  | @done calls a hanswered =>
    rw [bind_of_ok rfl]
    have hlater := hf a rfl
    generalize f a = y at hlater
    cases hlater with
    | done b hlater => exact .done b (List.forall_mem_append.2 ⟨hanswered, hlater⟩)
    | stops after hlater hfails =>
      rw [← List.append_assoc, ← List.append_assoc]
      exact .stops after (List.forall_mem_append.2 ⟨hanswered, hlater⟩) hfails
  | stops after hanswered hfails =>
    rw [bind_of_error rfl, List.append_assoc, List.cons_append]
    exact .stops _ hanswered hfails

/-- Rewrapping a result calls nothing. -/
theorem map (hx : Performs registry calls x) (g : α → β) :
    Performs registry calls (x >>= fun a => Pure.pure (g a)) := by
  rw [← List.append_nil calls]
  exact hx.bind fun a _ => pure (g a)

end Traced.Performs

/-! ## The calls of an item -/

section

variable (registry : Registry)

mutual

/-- **The calls of an item on candidates**, clause by clause, with the positions of the clauses. -/
def Item.scheduled : Item → Nat → List Candidate → List (Nat × Call)
  | .clause c, start, candidates => candidates.map fun d => (start, c.call d)
  | .group _ combinator items, start, candidates =>
    Item.scheduledOf combinator items start candidates

/-- The calls of items: each item is called on the candidates that the items before it leave. -/
def Item.scheduledOf (combinator : Combinator) :
    List Item → Nat → List Candidate → List (Nat × Call)
  | [], _, _ => []
  | item :: rest, start, candidates =>
    item.scheduled start candidates ++
      Item.scheduledOf combinator rest (start + item.clauses.length)
        (candidates.filter fun c => (item.verdict registry c.record).continues combinator)

end

end

variable {registry : Registry}

/-- Positions count on through a group. -/
theorem Item.length_clausesOf_cons (item : Item) (rest : List Item) :
    (clausesOf (item :: rest)).length = item.clauses.length + (clausesOf rest).length := by
  rw [clausesOf, List.length_append]

/-! ### Positions -/

/-- Reached positions are positions of the item's clauses. -/
theorem Item.mem_reached_bounds {record : Json} (item : Item) :
    ∀ {start position : Nat}, position ∈ item.reached registry record start →
      start ≤ position ∧ position < start + item.clauses.length := by
  induction item with
  | clause c =>
    intro start position h
    obtain rfl := List.mem_singleton.1 h
    exact ⟨Nat.le_refl _, Nat.lt_succ_self _⟩
  | group path combinator items ih =>
    intro start position h
    rw [reached] at h
    rw [clauses]
    induction items generalizing start with
    | nil => exact absurd h List.not_mem_nil
    | cons item rest ihrest =>
      rw [reachedOf, List.mem_append] at h
      rw [length_clausesOf_cons]
      rcases h with h | h
      · have hitem := ih item List.mem_cons_self h
        omega
      · split at h
        · have hrest := ihrest (fun item hmem => ih item (List.mem_cons_of_mem _ hmem)) h
          omega
        · exact absurd h List.not_mem_nil

/-- The calls of an item are those of its clauses on the candidates that reach them. -/
theorem Item.mem_scheduled (item : Item) :
    ∀ {start position : Nat} {candidates : List Candidate} {call : Call},
      (position, call) ∈ item.scheduled registry start candidates ↔
        item.clauses[position - start]? = some call.clause ∧
          ∃ c ∈ candidates, position ∈ item.reached registry c.record start ∧
            call = call.clause.call c := by
  induction item with
  | clause clause =>
    intro start position candidates call
    simp only [scheduled, List.mem_map, Prod.mk.injEq, clauses, reached, List.mem_singleton]
    constructor
    · rintro ⟨c, hc, rfl, rfl⟩
      exact ⟨by simp [Clause.call], c, hc, rfl, rfl⟩
    · rintro ⟨hclause, c, hc, rfl, hcall⟩
      rw [Nat.sub_self] at hclause
      obtain rfl : clause = call.clause := by simpa using hclause
      exact ⟨c, hc, rfl, hcall.symm⟩
  | group path combinator items ih =>
    intro start position candidates call
    rw [scheduled, clauses]
    simp only [reached]
-- over the items, each with its own start and with the candidates that are left for it
    induction items generalizing start candidates with
    | nil => simp [scheduledOf, reachedOf]
    | cons item rest ihrest =>
      have hitem := @ih item List.mem_cons_self start position candidates call
      have hrest := @ihrest (fun item hmem => ih item (List.mem_cons_of_mem _ hmem))
        (start + item.clauses.length)
        (candidates.filter fun c => (item.verdict registry c.record).continues combinator)
      rw [scheduledOf, List.mem_append, hitem, hrest, clausesOf]
      constructor
      · rintro (⟨hclause, c, hc, hreached, hcall⟩ | ⟨hclause, c, hc, hreached, hcall⟩)
        · have hbounds := item.mem_reached_bounds hreached
          refine ⟨?_, c, hc, ?_, hcall⟩
          · rwa [List.getElem?_append_left (by omega)]
          · rw [reachedOf]
            exact List.mem_append_left _ hreached
        · have hbounds := mem_reached_bounds (.group path combinator rest) (by rwa [reached])
          obtain ⟨hc, hgoes⟩ := List.mem_filter.1 hc
          refine ⟨?_, c, hc, ?_, hcall⟩
          · rw [List.getElem?_append_right (by omega)]
            rwa [Nat.sub_sub]
          · rw [reachedOf, if_pos hgoes]
            exact List.mem_append_right _ hreached
      · rintro ⟨hclause, c, hc, hreached, hcall⟩
        rw [reachedOf, List.mem_append] at hreached
        rcases hreached with hreached | hreached
        · have hbounds := item.mem_reached_bounds hreached
          rw [List.getElem?_append_left (by omega)] at hclause
          exact .inl ⟨hclause, c, hc, hreached, hcall⟩
        · split at hreached
          next hgoes =>
            have hbounds := mem_reached_bounds (.group path combinator rest) (by rwa [reached])
            rw [List.getElem?_append_right (by omega), Nat.sub_sub] at hclause
            exact .inr ⟨hclause, c, List.mem_filter.2 ⟨hc, hgoes⟩, hreached, hcall⟩
          next => exact absurd hreached List.not_mem_nil

/-- The calls of items on no candidates are none. -/
theorem Item.scheduled_nil (item : Item) : ∀ start, item.scheduled registry start [] = [] := by
  induction item with
  | clause c => exact fun _ => rfl
  | group path combinator items ih =>
    intro start
    rw [scheduled]
    induction items generalizing start with
    | nil => rfl
    | cons item rest ihrest =>
      rw [scheduledOf, ih item List.mem_cons_self, List.filter_nil,
        ihrest fun item hmem => ih item (List.mem_cons_of_mem _ hmem)]
      rfl

/-- Scheduled positions are positions of the item's clauses. -/
theorem Item.mem_scheduled_bounds {item : Item} {start : Nat} {candidates : List Candidate}
    {entry : Nat × Call} (h : entry ∈ item.scheduled registry start candidates) :
    start ≤ entry.1 ∧ entry.1 < start + item.clauses.length := by
  obtain ⟨-, c, -, hreached, -⟩ := item.mem_scheduled.1 h
  exact item.mem_reached_bounds hreached

/-- **The calls of an item are in order**, by clause and then by record, and none is made twice. -/
theorem Item.pairwise_scheduled (item : Item) :
    ∀ {start : Nat} {candidates : List Candidate}, Candidate.Ascending candidates →
      (item.scheduled registry start candidates).Pairwise Call.Before := by
  induction item with
  | clause c =>
    intro start candidates hasc
    rw [scheduled, List.pairwise_map]
    exact hasc.imp fun hlt => .inr ⟨rfl, hlt⟩
  | group path combinator items ih =>
    intro start candidates hasc
    rw [scheduled]
    induction items generalizing start candidates with
    | nil => exact List.Pairwise.nil
    | cons item rest ihrest =>
      rw [scheduledOf]
      refine List.pairwise_append.2 ⟨ih item List.mem_cons_self hasc, ?_, ?_⟩
      · exact ihrest (fun item hmem => ih item (List.mem_cons_of_mem _ hmem)) (hasc.filter _)
      · intro a ha b hb
        have hfirst := mem_scheduled_bounds ha
        have hlater := @mem_scheduled_bounds registry (.group path combinator rest) _ _ b hb
        exact .inl (by omega)

/-! ### Calls that are made -/

/-- A test performs the call of its clause. -/
theorem Clause.performs_test {clause : Clause} {predicate : Predicate}
    (hp : registry.resolve clause.predicate = .ok predicate) (c : Candidate) :
    (clause.test predicate c).Performs registry [clause.call c] := by
  have hanswer : (clause.call c).answer registry =
      (predicate (clause.subject.lookup c.record) clause.args clause.kwargs).mapError
        (.predicate clause.predicate) := Registry.invoke_of_resolve hp _ _ _
  cases h : predicate (clause.subject.lookup c.record) clause.args clause.kwargs with
  | ok answer =>
    simp only [Clause.test, h]
    rw [h] at hanswer
    exact .done _ (List.forall_mem_singleton.2 ⟨answer, hanswer⟩)
  | error fault =>
    simp only [Clause.test, h]
    rw [h] at hanswer
    have hbefore : ∀ call ∈ ([] : List Call), call.Answered registry :=
      fun call hmem => absurd hmem List.not_mem_nil
    exact .stops [] hbefore hanswer

/-- A clause is called on its candidates one after the other. -/
theorem Clause.performs_filter {clause : Clause} {predicate : Predicate}
    (hp : registry.resolve clause.predicate = .ok predicate) (candidates : List Candidate) :
    (clause.filter predicate candidates).Performs registry (candidates.map clause.call) := by
  induction candidates with
  | nil => exact .pure []
  | cons c rest ih =>
    rw [Clause.filter]
    exact (Clause.performs_test hp c).bind fun holds _ => ih.map _

/-- What the items after one see, given what it selected. -/
def Combinator.left (combinator : Combinator) (candidates hits : List Candidate) :
    List Candidate :=
  match combinator with
  | .all => hits
  | .any => Candidate.without candidates hits

/-- Where every candidate has a verdict, those are left on which the group goes on. -/
theorem Combinator.left_filter {verdict : Json → Verdict} {candidates : List Candidate}
    (hasc : Candidate.Ascending candidates) (hgiven : ∀ c ∈ candidates, (verdict c.record).Given)
    (combinator : Combinator) :
    combinator.left candidates (candidates.filter fun c => (verdict c.record).favours) =
      candidates.filter fun c => (verdict c.record).continues combinator := by
  have hcontinues : ∀ c ∈ candidates, (verdict c.record).continues combinator =
      match combinator with
      | .all => (verdict c.record).favours
      | .any => !(verdict c.record).favours := by
    intro c hc
    obtain ⟨answer, hanswer⟩ := hgiven c hc
    rw [hanswer]
    cases combinator <;> rfl
  rw [List.filter_congr hcontinues]
  cases combinator with
  | all => rfl
  | any => exact Candidate.without_filter hasc _

/-- **The items of a group one after the other**, in either kind of group: each sees what the items
before it leave. -/
def Item.passOn (registry : Registry) (combinator : Combinator) :
    List Item → List Candidate → Traced (List Candidate)
  | [], candidates => pure candidates
  | item :: rest, candidates =>
    if candidates.isEmpty then pure candidates
    else do
      let hits ← item.select registry candidates
      Item.passOn registry combinator rest (combinator.left candidates hits)

/-- A conjunction passes hits on. -/
theorem Item.narrow_eq_passOn (items : List Item) :
    ∀ candidates, Item.narrow registry items candidates =
      Item.passOn registry .all items candidates := by
  induction items with
  | nil => exact fun _ => rfl
  | cons item rest ih =>
    intro candidates
    rw [narrow, passOn]
    simp only [ih]
    rfl

/-- A disjunction passes on what is not hit. -/
theorem Item.exhaust_eq_passOn (items : List Item) :
    ∀ candidates, Item.exhaust registry items candidates =
      Item.passOn registry .any items candidates := by
  induction items with
  | nil => exact fun _ => rfl
  | cons item rest ih =>
    intro candidates
    rw [exhaust, passOn]
    simp only [ih]
    rfl

/-- Items one after the other make their scheduled calls, if each of them does. -/
theorem Item.performs_passOn {combinator : Combinator} {items : List Item}
    (hitems : ∀ item ∈ items, ∀ start candidates, Candidate.Ascending candidates →
      (item.select registry candidates).Performs registry
        ((item.scheduled registry start candidates).map (·.2)))
    {start : Nat} {candidates : List Candidate} (hasc : Candidate.Ascending candidates) :
    (Item.passOn registry combinator items candidates).Performs registry
      ((Item.scheduledOf registry combinator items start candidates).map (·.2)) := by
  induction items generalizing start candidates with
  | nil => exact .pure candidates
  | cons item rest ih =>
    rw [passOn]
    by_cases hempty : candidates.isEmpty = true
    · obtain rfl := List.isEmpty_iff.1 hempty
      have hnone : Item.scheduledOf registry combinator (item :: rest) start [] = [] :=
        scheduled_nil (.group .root combinator (item :: rest)) start
      rw [hnone]
      exact .pure []
    · rw [if_neg hempty, scheduledOf, List.map_append]
      apply (hitems item List.mem_cons_self start candidates hasc).bind
      intro hits hhits
      -- the item has selected, so it has a verdict on every candidate
      have hsettles := @settles_select registry item candidates (by simpa using hempty) hasc
      obtain ⟨hgiven, rfl⟩ := (hsettles hits).1 hhits
      rw [Combinator.left_filter hasc hgiven]
      exact ih (fun item hmem => hitems item (List.mem_cons_of_mem _ hmem)) (hasc.filter _)

/-- **Selecting makes the scheduled calls**, if every clause has a predicate. The induction is over
the tree. -/
theorem Item.performs_select (item : Item)
    (hfound : ∀ clause ∈ item.clauses, registry.contains clause.predicate = true) :
    ∀ start candidates, Candidate.Ascending candidates →
      (item.select registry candidates).Performs registry
        ((item.scheduled registry start candidates).map (·.2)) := by
  induction item with
  | clause c =>
    intro start candidates _
    obtain ⟨predicate, hp⟩ := Registry.exists_resolve_of_contains
      (hfound c (List.mem_singleton.2 rfl))
    have hcalls : ((Item.clause c).scheduled registry start candidates).map (·.2) =
        candidates.map c.call := by
      rw [scheduled, List.map_map]
      rfl
    rw [hcalls, select, Clause.select, hp]
    exact Clause.performs_filter hp candidates
  | group path combinator items ih =>
    intro start candidates hasc
    have hitems : ∀ item ∈ items, ∀ start candidates, Candidate.Ascending candidates →
        (item.select registry candidates).Performs registry
          ((item.scheduled registry start candidates).map (·.2)) := fun item hmem =>
      ih item hmem fun clause hclause =>
        hfound clause (Item.mem_clausesOf.2 ⟨item, hmem, hclause⟩)
    rw [scheduled]
    cases combinator with
    | all =>
      rw [select, narrow_eq_passOn]
      exact performs_passOn hitems hasc
    | any =>
      rw [select, exhaust_eq_passOn]
      exact (performs_passOn hitems hasc).map _

/-! ## Trees -/

namespace Group

/-- The calls that are scheduled for the records of a list are those that reach them. -/
theorem mem_scheduled_iff_reaches {g : Group} {records : List Json} {position : Nat}
    {call : Call} :
    (position, call) ∈ g.toItem.scheduled registry 0 (Candidate.ofRecords records) ↔
      g.Reaches registry records position call := by
  rw [Item.mem_scheduled, Nat.sub_zero]
  constructor
  · rintro ⟨hclause, c, hc, hreached, hcall⟩
    have hindex : call.index = c.index := congrArg Call.index hcall
    refine ⟨hclause, c.record, ?_, hreached, ?_⟩
    · rw [hindex]
      exact Candidate.mem_ofRecords.1 hc
    · rw [hindex]
      exact hcall
  · rintro ⟨hclause, record, hrecord, hreached, hcall⟩
    exact ⟨hclause, ⟨call.index, record⟩, Candidate.mem_ofRecords.2 hrecord, hreached, hcall⟩

/-- **Evaluation makes exactly the calls that records reach**, each once, in the order of the
clauses in the tree and then of the records. It ends at the first call that fails, with the error of
that predicate; where no call fails all of them are made. What a record reaches is decided on that
record alone, so calls that fail on other records do not matter. -/
theorem matching_performs_reached (g : Group) (records : List Json)
    (hfound : records = [] ∨ g.unresolved? registry = none) :
    ∃ calls : List (Nat × Call), calls.Pairwise Call.Before ∧
      (∀ position call, (position, call) ∈ calls ↔ g.Reaches registry records position call) ∧
      (g.matching registry records).Performs registry (calls.map (·.2)) := by
  have hasc := Candidate.ascending_ofRecords records
  refine ⟨g.toItem.scheduled registry 0 (Candidate.ofRecords records),
    g.toItem.pairwise_scheduled hasc, fun position call => mem_scheduled_iff_reaches, ?_⟩
  unfold matching
  apply Traced.Performs.map
  rcases hfound with rfl | hfound
  · have hnone : g.toItem.scheduled registry 0 (Candidate.ofRecords []) = [] :=
      g.toItem.scheduled_nil 0
    rw [hnone, Item.select_eq_selectWith]
    show (g.toItem.selectWith (Clause.select registry) []).Performs registry []
    rw [selectWith_nil]
    exact .pure []
  · exact g.toItem.performs_select (contains_of_unresolved?_eq_none hfound) 0 _ hasc

/-- Records without an `a` and a `b`, on which `sample` reaches the predicate that fails, among
others. -/
def sampleGaps : List Json := .object [] :: sampleRecords ++ [.object []]

/-- The predicate fails on the first record and is not called on the last one, which reaches it as
well. -/
theorem matching_performs_reached_sample :
    sample.unresolved? sampleRegistry = none ∧
      (sample.matching sampleRegistry sampleGaps).outcome =
        .error (.predicate ⟨"t", "t", "fails"⟩ (.failed "no answer")) ∧
      (sample.matching sampleRegistry sampleGaps).calls.map
          (fun call => (call.clause.predicate.leaf, call.index)) =
        [("present", 0), ("present", 1), ("present", 2), ("present", 3), ("present", 4),
          ("present", 0), ("present", 2), ("present", 4), ("fails", 0)] ∧
      ∃ calls : List (Nat × Call), calls.Pairwise Call.Before ∧
        (∀ position call, (position, call) ∈ calls ↔
          sample.Reaches sampleRegistry sampleGaps position call) ∧
        (sample.matching sampleRegistry sampleGaps).Performs sampleRegistry (calls.map (·.2)) :=
  ⟨rfl, rfl, rfl, matching_performs_reached sample sampleGaps (.inr rfl)⟩

end Group

end RecordFilter
