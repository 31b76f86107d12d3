import RecordFilter.Proofs.Evaluation.Meaning

/-!
# The verdict on one record

What a tree says of one record when predicates may fail: a group stops at the first item that
decides it, so a predicate that fails is an error of the verdict only where it is reached. Selecting
among many candidates and testing them one at a time reach the same clauses for each record, in a
different order, and so both come down to the verdicts.

* `Verdict` — yes, no or an error, with the two connectives that stop early.
* `Item.verdict`, `Group.verdict` — the verdict of a tree on a record.
* `Item.settles_select` — an item selects candidates if and only if it has a verdict on each, and
  then those that the verdict favours.
* `Group.outcome_firstOf_cons` — what testing one at a time does, by the verdict on the next record.
* `Group.first_agrees_with_matching` — the first match is the head of all matches, failures
  included.
-/

namespace RecordFilter

/-! ## Verdicts -/

/-- A verdict: yes, no, or the error of a predicate that cannot answer. -/
abbrev Verdict := Except Error Bool

namespace Verdict

/-- Whether there is a verdict, rather than an error. -/
def Given (v : Verdict) : Prop := ∃ answer, v = .ok answer

/-- Whether the verdict is yes. -/
def favours : Verdict → Bool
  | .ok answer => answer
  | .error _ => false

/-- Both verdicts; the second counts if the first is yes. -/
def both (v w : Verdict) : Verdict :=
  match v with
  | .ok true => w
  | .ok false => .ok false
  | .error e => .error e

/-- Either verdict; the second counts if the first is no. -/
def either (v w : Verdict) : Verdict :=
  match v with
  | .ok true => .ok true
  | .ok false => w
  | .error e => .error e

variable {v w : Verdict}

/-- An answer is a verdict. -/
@[simp] theorem given_ok (answer : Bool) : Given (.ok answer) := ⟨answer, rfl⟩

/-- An error is none. -/
@[simp] theorem not_given_error (e : Error) : ¬ Given (.error e) := by
  rintro ⟨answer, h⟩
  cases h

/-- Both verdicts are given if the first is, and the second where it counts. -/
theorem given_both : (both v w).Given ↔ v.Given ∧ (v.favours = true → w.Given) := by
  match v with
  | .ok true | .ok false | .error e => simp [both, favours]

/-- Both verdicts favour what each of them does. -/
theorem favours_both : (both v w).favours = (v.favours && w.favours) := by
  match v with
  | .ok true | .ok false | .error e => simp [both, favours]

/-- Either verdict is given if the first is, and the second where it counts. -/
theorem given_either : (either v w).Given ↔ v.Given ∧ (v.favours = false → w.Given) := by
  match v with
  | .ok true | .ok false | .error e => simp [either, favours]

/-- Either verdict favours what one of them does. -/
theorem favours_either (h : v.Given) : (either v w).favours = (v.favours || w.favours) := by
  match v with
  | .ok true | .ok false => simp [either, favours]
  | .error e => exact absurd h (not_given_error e)

end Verdict

/-! ## Trees -/

section

variable (registry : Registry)

/-- **The verdict of a clause**: the answer of its predicate, inverted if the clause is negated. -/
def Clause.verdict (c : Clause) (record : Json) : Verdict :=
  (registry.invoke c.predicate (c.subject.lookup record) c.args c.kwargs).map (· != c.negate)

mutual

/-- **The verdict of an item**, from left to right and no further than needed. -/
def Item.verdict : Item → Json → Verdict
  | .clause c, record => c.verdict registry record
  | .group _ .all items, record => Item.allVerdict items record
  | .group _ .any items, record => Item.anyVerdict items record

/-- The verdict that all items match: no at the first item that does not. -/
def Item.allVerdict : List Item → Json → Verdict
  | [], _ => .ok true
  | item :: rest, record => (item.verdict record).both (Item.allVerdict rest record)

/-- The verdict that some item matches: yes at the first item that does. -/
def Item.anyVerdict : List Item → Json → Verdict
  | [], _ => .ok false
  | item :: rest, record => (item.verdict record).either (Item.anyVerdict rest record)

end

/-- The verdict of a tree on a record. -/
def Group.verdict (g : Group) (record : Json) : Verdict := g.toItem.verdict registry record

end

/-! ## Selecting by verdicts -/

/-- **A computation settles candidates** by verdicts: it succeeds if and only if there is a verdict
on each of them, and then gives those that the verdict favours, in order. -/
def Settles (verdict : Json → Verdict) (candidates : List Candidate)
    (x : Traced (List Candidate)) : Prop :=
  ∀ hits, x.outcome = .ok hits ↔
    (∀ c ∈ candidates, (verdict c.record).Given) ∧
      hits = candidates.filter fun c => (verdict c.record).favours

namespace Settles

variable {verdict : Json → Verdict} {candidates hits : List Candidate}
  {x : Traced (List Candidate)}

/-- Where every candidate has a verdict, the favoured ones are selected. -/
theorem outcome_eq (h : Settles verdict candidates x)
    (hgiven : ∀ c ∈ candidates, (verdict c.record).Given) :
    x.outcome = .ok (candidates.filter fun c => (verdict c.record).favours) :=
  (h _).2 ⟨hgiven, rfl⟩

/-- Candidates that are all favoured are settled as they are. -/
theorem pure (h : ∀ c ∈ candidates, verdict c.record = .ok true) :
    Settles verdict candidates (Pure.pure candidates) := by
  intro hits
  have hfavours : (candidates.filter fun c => (verdict c.record).favours) = candidates :=
    List.filter_eq_self.2 fun c hc => by rw [h c hc]; rfl
  have hgiven : ∀ c ∈ candidates, (verdict c.record).Given := fun c hc => ⟨true, h c hc⟩
  rw [hfavours, Traced.outcome_pure, Except.ok.injEq, eq_comm]
  exact ⟨fun heq => ⟨hgiven, heq⟩, fun heq => heq.2⟩

end Settles

variable {registry : Registry}

/-! ### Clauses -/

/-- The outcome of one test is the verdict of the clause. -/
theorem Clause.outcome_test_eq_verdict {clause : Clause} {predicate : Predicate}
    (hp : registry.resolve clause.predicate = .ok predicate) (c : Candidate) :
    (clause.test predicate c).outcome = clause.verdict registry c.record := by
  rw [Clause.verdict, Registry.invoke_of_resolve hp]
  cases h : predicate (clause.subject.lookup c.record) clause.args clause.kwargs with
  | ok answer => simp only [Clause.test, h]; rfl
  | error fault => simp only [Clause.test, h]; rfl

/-- A clause settles candidates by its verdict. -/
theorem Clause.settles_filter {clause : Clause} {predicate : Predicate}
    (hp : registry.resolve clause.predicate = .ok predicate) (candidates : List Candidate) :
    Settles (clause.verdict registry) candidates (clause.filter predicate candidates) := by
  induction candidates with
  | nil => exact Settles.pure fun c hc => absurd hc List.not_mem_nil
  | cons c rest ih =>
    intro hits
    have htest := Clause.outcome_test_eq_verdict hp c
    rw [Clause.filter, List.forall_mem_cons]
    cases hverdict : clause.verdict registry c.record with
    | error e =>
      rw [hverdict] at htest
      rw [Traced.bind_of_error htest]
      simp
    | ok answer =>
      rw [hverdict] at htest
      rw [Traced.outcome_bind_of_ok htest, Traced.outcome_bind_eq_ok_iff, List.filter_cons,
        hverdict]
      constructor
      · rintro ⟨kept, hkept, hhits⟩
        obtain ⟨hgiven, rfl⟩ := (ih kept).1 hkept
        exact ⟨⟨Verdict.given_ok answer, hgiven⟩, (Except.ok.inj hhits).symm⟩
      · rintro ⟨⟨-, hgiven⟩, rfl⟩
        exact ⟨_, ih.outcome_eq hgiven, rfl⟩

/-- A clause without a predicate has no verdict on any record. Without candidates it fails all the
same, so there has to be one. -/
theorem Clause.settles_select (clause : Clause) {candidates : List Candidate}
    (hne : candidates ≠ []) :
    Settles (clause.verdict registry) candidates (clause.select registry candidates) := by
  rw [Clause.select]
  cases hp : registry.resolve clause.predicate with
  | ok predicate => exact Clause.settles_filter hp candidates
  | error e =>
    intro hits
    obtain ⟨c, rest, rfl⟩ := List.exists_cons_of_ne_nil hne
    have hverdict : clause.verdict registry c.record = .error e := by
      rw [Clause.verdict, Registry.invoke, hp]
      rfl
    simp only [Traced.outcome_fail, List.forall_mem_cons, hverdict]
    simp

/-! ### Items one after the other -/

section

variable {items : List Item}
  (hitems : ∀ item ∈ items, ∀ candidates, candidates ≠ [] → Candidate.Ascending candidates →
    Settles (item.verdict registry) candidates (item.select registry candidates))

include hitems

/-- A conjunction settles ascending candidates by the verdict of all its items. -/
theorem Item.settles_narrow {candidates : List Candidate}
    (hasc : Candidate.Ascending candidates) :
    Settles (Item.allVerdict registry items) candidates
      (Item.narrow registry items candidates) := by
  induction items generalizing candidates with
  | nil => exact Settles.pure fun c _ => rfl
  | cons item rest ih =>
    rw [Item.narrow]
    split
    next hempty =>
      obtain rfl := List.isEmpty_iff.1 hempty
      exact Settles.pure fun c hc => absurd hc List.not_mem_nil
    next hempty =>
      have hitem := hitems item List.mem_cons_self candidates (by simpa using hempty) hasc
      have hrest := ih (fun item hmem => hitems item (List.mem_cons_of_mem _ hmem))
        (hasc.filter fun c => (item.verdict registry c.record).favours)
      intro hits
-- the rest is asked about what the first item favours, which is where its verdict counts
      simp only [Item.allVerdict, Verdict.given_both, Verdict.favours_both]
      rw [Traced.outcome_bind_eq_ok_iff]
      constructor
      · rintro ⟨kept, hkept, hhits⟩
        obtain ⟨hgiven, rfl⟩ := (hitem kept).1 hkept
        obtain ⟨hlater, rfl⟩ := (hrest hits).1 hhits
        refine ⟨fun c hc => ⟨hgiven c hc, fun hfavours => ?_⟩, ?_⟩
        · exact hlater c (List.mem_filter.2 ⟨hc, hfavours⟩)
        · simp only [List.filter_filter, Bool.and_comm]
      · rintro ⟨hboth, rfl⟩
        refine ⟨_, hitem.outcome_eq fun c hc => (hboth c hc).1, (hrest _).2 ⟨fun c hc => ?_, ?_⟩⟩
        · obtain ⟨hin, hfavours⟩ := List.mem_filter.1 hc
          exact (hboth c hin).2 hfavours
        · simp only [List.filter_filter, Bool.and_comm]

/-- What items one after the other leave: the candidates on which the verdict is no. -/
theorem Item.outcome_exhaust_eq_ok_iff {candidates left : List Candidate}
    (hasc : Candidate.Ascending candidates) :
    (Item.exhaust registry items candidates).outcome = .ok left ↔
      (∀ c ∈ candidates, (Item.anyVerdict registry items c.record).Given) ∧
        left = candidates.filter fun c => !(Item.anyVerdict registry items c.record).favours := by
  induction items generalizing candidates with
  | nil =>
    have hall : (candidates.filter fun _ => true) = candidates :=
      List.filter_eq_self.2 fun _ _ => rfl
    simp [Item.exhaust, Item.anyVerdict, Verdict.favours, hall, eq_comm]
  | cons item rest ih =>
    rw [Item.exhaust]
    split
    next hempty =>
      obtain rfl := List.isEmpty_iff.1 hempty
      simp [eq_comm]
    next hempty =>
      have hitem := hitems item List.mem_cons_self candidates (by simpa using hempty) hasc
      have hrest := ih (fun item hmem => hitems item (List.mem_cons_of_mem _ hmem))
        (hasc.filter fun c => !(item.verdict registry c.record).favours)
      -- a candidate is left if neither the item nor the rest favours it
      have hleft (hgiven : ∀ c ∈ candidates, (item.verdict registry c.record).Given) :
          (candidates.filter fun c =>
              !(Item.anyVerdict registry (item :: rest) c.record).favours) =
            (candidates.filter fun c => !(item.verdict registry c.record).favours).filter
              fun c => !(Item.anyVerdict registry rest c.record).favours := by
        rw [List.filter_filter]
        refine List.filter_congr fun c hc => ?_
        rw [Item.anyVerdict, Verdict.favours_either (hgiven c hc), Bool.not_or, Bool.and_comm]
      simp only [Item.anyVerdict, Verdict.given_either]
      rw [Traced.outcome_bind_eq_ok_iff]
      constructor
      · rintro ⟨hits, hhits, hleftover⟩
        obtain ⟨hgiven, rfl⟩ := (hitem hits).1 hhits
        rw [Candidate.without_filter hasc] at hleftover
        obtain ⟨hlater, rfl⟩ := hrest.1 hleftover
        refine ⟨fun c hc => ⟨hgiven c hc, fun hno => ?_⟩, (hleft hgiven).symm⟩
        exact hlater c (List.mem_filter.2 ⟨hc, by rw [hno]; rfl⟩)
      · rintro ⟨heither, rfl⟩
        have hgiven : ∀ c ∈ candidates, (item.verdict registry c.record).Given :=
          fun c hc => (heither c hc).1
        refine ⟨_, hitem.outcome_eq hgiven, ?_⟩
        rw [Candidate.without_filter hasc]
        refine hrest.2 ⟨fun c hc => ?_, hleft hgiven⟩
        obtain ⟨hin, hno⟩ := List.mem_filter.1 hc
        exact (heither c hin).2 (by simpa using hno)

end

/-- **An item settles its candidates**, of which there are some: failures of predicates that it
reaches are failures of the selection, and no others. -/
theorem Item.settles_select (item : Item) :
    ∀ candidates, candidates ≠ [] → Candidate.Ascending candidates →
      Settles (item.verdict registry) candidates (item.select registry candidates) := by
  induction item with
  | clause c => exact fun candidates hne _ => Clause.settles_select c hne
  | group path combinator items ih =>
    intro candidates _ hasc
    cases combinator with
    | all =>
      rw [Item.select]
      exact Item.settles_narrow ih hasc
    | any =>
      intro hits
      rw [Item.select, Traced.outcome_bind_eq_ok_iff]
      constructor
      · rintro ⟨left, hleft, hhits⟩
        obtain ⟨hgiven, rfl⟩ := (Item.outcome_exhaust_eq_ok_iff ih hasc).1 hleft
        refine ⟨hgiven, (Except.ok.inj hhits).symm.trans ?_⟩
        rw [Candidate.without_filter hasc]
        simp only [Bool.not_not, Item.verdict]
      · rintro ⟨hgiven, rfl⟩
        refine ⟨_, (Item.outcome_exhaust_eq_ok_iff ih hasc).2 ⟨hgiven, rfl⟩, ?_⟩
        rw [Traced.outcome_pure, Candidate.without_filter hasc]
        simp only [Bool.not_not, Item.verdict]

namespace Group

variable {g : Group} {records : List Json}

/-- A tree settles any candidates in order, also none. -/
theorem settles_select (g : Group) {candidates : List Candidate}
    (hasc : Candidate.Ascending candidates) :
    Settles (g.verdict registry) candidates (g.toItem.select registry candidates) := by
  by_cases hne : candidates = []
  · subst hne
    rw [Item.select_eq_selectWith, selectWith_nil]
    exact Settles.pure fun c hc => absurd hc List.not_mem_nil
  · exact Item.settles_select g.toItem candidates hne hasc

/-- **All matches** are found if and only if there is a verdict on every record. -/
theorem outcome_matching_eq_ok_iff {indices : List Nat} :
    (g.matching registry records).outcome = .ok indices ↔
      (∀ c ∈ Candidate.ofRecords records, (g.verdict registry c.record).Given) ∧
        indices = ((Candidate.ofRecords records).filter
          fun c => (g.verdict registry c.record).favours).map (·.index) := by
  have hsettles : Settles (g.verdict registry) _ _ :=
    g.settles_select (Candidate.ascending_ofRecords records)
  rw [matching, Traced.outcome_bind_eq_ok_iff]
  constructor
  · rintro ⟨hits, hhits, hindices⟩
    obtain ⟨hgiven, rfl⟩ := (hsettles hits).1 hhits
    exact ⟨hgiven, (Except.ok.inj hindices).symm⟩
  · rintro ⟨hgiven, rfl⟩
    exact ⟨_, hsettles.outcome_eq hgiven, rfl⟩

/-! ## One record at a time -/

/-- **Testing one record at a time** goes by the verdict on the next record: yes ends the search, no
goes on, an error is its failure. -/
theorem outcome_firstOf_cons (registry : Registry) (g : Group) (c : Candidate)
    (rest : List Candidate) :
    match g.verdict registry c.record with
    | .ok true => (g.firstOf registry (c :: rest)).outcome = .ok (some c.index)
    | .ok false => (g.firstOf registry (c :: rest)).outcome = (g.firstOf registry rest).outcome
    | .error _ => ∃ e, (g.firstOf registry (c :: rest)).outcome = .error e := by
  have hone : Candidate.Ascending [c] := List.pairwise_singleton _ c
  have hsettles : Settles (g.verdict registry) _ _ := g.settles_select hone
  rw [firstOf]
  split
  next hyes =>
    have hhits := hsettles.outcome_eq (by simp [hyes])
    simp only [List.filter_cons, hyes, Verdict.favours, if_true] at hhits
    rw [Traced.outcome_bind_of_ok hhits]
    rfl
  next hno =>
    have hhits := hsettles.outcome_eq (by simp [hno])
    simp only [List.filter_cons, hno, Verdict.favours, Bool.false_eq_true, if_false] at hhits
    rw [Traced.outcome_bind_of_ok hhits]
    rfl
  next e herror =>
    cases hout : (g.toItem.select registry [c]).outcome with
    | error e' => exact ⟨e', by rw [Traced.bind_of_error hout]⟩
    | ok hits =>
      have hgiven := ((hsettles hits).1 hout).1 c (List.mem_singleton.2 rfl)
      rw [herror] at hgiven
      exact absurd hgiven (Verdict.not_given_error e)

/-- Where every candidate has a verdict, the search finds the first one that is favoured. -/
theorem outcome_firstOf_of_given {candidates : List Candidate}
    (hgiven : ∀ c ∈ candidates, (g.verdict registry c.record).Given) :
    (g.firstOf registry candidates).outcome =
      .ok ((candidates.filter fun c => (g.verdict registry c.record).favours).map
        (·.index)).head? := by
  induction candidates with
  | nil => rfl
  | cons c rest ih =>
    obtain ⟨hc, hrest⟩ := List.forall_mem_cons.1 hgiven
    obtain ⟨answer, hanswer⟩ := hc
    have hnext := outcome_firstOf_cons registry g c rest
    rw [hanswer] at hnext
    rw [List.filter_cons, hanswer]
    cases answer with
    | true => exact hnext
    | false => exact hnext.trans (ih hrest)

/-- A search that fails has met a record without a verdict. -/
theorem exists_not_given_of_firstOf {candidates : List Candidate} {e : Error}
    (h : (g.firstOf registry candidates).outcome = .error e) :
    ∃ c ∈ candidates, ¬ (g.verdict registry c.record).Given := by
  refine Classical.byContradiction fun hnone => ?_
  have hgiven : ∀ c ∈ candidates, (g.verdict registry c.record).Given := fun c hc =>
    Classical.byContradiction fun hnot => hnone ⟨c, hc, hnot⟩
  rw [outcome_firstOf_of_given hgiven] at h
  cases h

/-- **What a search has seen when it finds a record**: no on all records before it, yes on it. What
comes after it is not looked at. -/
theorem exists_split_of_firstOf {candidates : List Candidate} {i : Nat}
    (h : (g.firstOf registry candidates).outcome = .ok (some i)) :
    ∃ before c after, candidates = before ++ c :: after ∧ c.index = i ∧
      (∀ d ∈ before, g.verdict registry d.record = .ok false) ∧
      g.verdict registry c.record = .ok true := by
  induction candidates with
  | nil => cases h
  | cons c rest ih =>
    have hnext := outcome_firstOf_cons registry g c rest
    split at hnext
    next hyes =>
      rw [hnext] at h
      exact ⟨[], c, rest, rfl, Option.some.inj (Except.ok.inj h), by simp, hyes⟩
    next hno =>
      obtain ⟨before, d, after, rfl, hindex, hbefore, hd⟩ := ih (hnext ▸ h)
      exact ⟨c :: before, d, after, rfl, hindex, List.forall_mem_cons.2 ⟨hno, hbefore⟩, hd⟩
    next =>
      obtain ⟨e, he⟩ := hnext
      rw [he] at h
      cases h

/-- **The first match agrees with all matches, failures included.** If all matches are found, the
search one record at a time finds the head of them; if the search fails, finding all fails as well;
and if it finds a record, that record is the only match among those up to it. So evaluation with the
option to find the first match only gives the first of the indices that it gives without. -/
theorem first_agrees_with_matching (registry : Registry) (g : Group) (records : List Json) :
    (∀ indices, (g.matching registry records).outcome = .ok indices →
        (g.first registry records).outcome = .ok indices.head?) ∧
      (∀ e, (g.first registry records).outcome = .error e →
        ∃ e', (g.matching registry records).outcome = .error e') ∧
      (∀ i, (g.first registry records).outcome = .ok (some i) →
        (g.matching registry (records.take (i + 1))).outcome = .ok [i]) ∧
      ∀ indices, (g.evaluate registry false records).outcome = .ok indices →
        (g.evaluate registry true records).outcome = .ok (indices.take 1) := by
  have hall {indices : List Nat} (h : (g.matching registry records).outcome = .ok indices) :
      (g.first registry records).outcome = .ok indices.head? := by
    obtain ⟨hgiven, rfl⟩ := outcome_matching_eq_ok_iff.1 h
    exact outcome_firstOf_of_given hgiven
  refine ⟨fun indices => hall, fun e h => ?_, fun i h => ?_, fun indices h => ?_⟩
  · obtain ⟨c, hc, hnot⟩ := exists_not_given_of_firstOf h
    cases hmatching : (g.matching registry records).outcome with
    | error e' => exact ⟨e', rfl⟩
    | ok indices => exact absurd ((outcome_matching_eq_ok_iff.1 hmatching).1 c hc) hnot
  · obtain ⟨before, c, after, hsplit, rfl, hbefore, hc⟩ := exists_split_of_firstOf h
    refine outcome_matching_eq_ok_iff.2 ?_
-- up to its position the first match is the only record that holds
    rw [Candidate.ofRecords_take hsplit, List.forall_mem_append, List.forall_mem_singleton]
    have hnone : (before.filter fun d => (g.verdict registry d.record).favours) = [] :=
      List.filter_eq_nil_iff.2 fun d hd => by rw [hbefore d hd]; simp [Verdict.favours]
    have hone : ([c].filter fun d => (g.verdict registry d.record).favours) = [c] :=
      List.filter_eq_self.2 fun d hd => by
        rw [List.mem_singleton.1 hd, hc]
        rfl
    refine ⟨⟨fun d hd => ⟨false, hbefore d hd⟩, true, hc⟩, ?_⟩
    rw [List.filter_append, hnone, hone]
    rfl
  · unfold evaluate at h ⊢
    split at h
    next => cases h
    next =>
      have hmatching : (g.matching registry records).outcome = .ok indices := h
      show (g.first registry records >>= fun hit => Pure.pure hit.toList).outcome = _
      rw [Traced.outcome_bind_of_ok (hall hmatching)]
      cases indices <;> rfl

end Group

end RecordFilter
