import RecordFilter.Proofs.Evaluation.Lookup
import RecordFilter.Proofs.Session.Recomputation

/-!
# Sessions report unknown predicates first

Whatever calls were made before, a session whose tree names a predicate that is not registered says
so and calls none, unless it has no records.

* `Session.Recalls` — the invariant: remembered matches are those that evaluating gives.
* `Session.recalls_perform`, `Session.recalls_run` — one call keeps it, and so does a sequence.
* `Session.predicates_found_first` — **predicates are all found before the first is called.**
-/

namespace RecordFilter

namespace Session

/-! ## What is remembered -/

/-- **Remembered matches are those that evaluating gives.** The tree may be any. -/
def Recalls (s : Session) : Prop :=
  ∀ indices, s.memo = some indices →
    (s.root.evaluate s.registry s.request.options.first s.records).outcome = .ok indices

/-- Where nothing is remembered, nothing is remembered wrongly. -/
theorem recalls_of_memo_eq_none {s : Session} (h : s.memo = none) : s.Recalls := by
  intro indices hmemo
  rw [h] at hmemo
  cases hmemo

namespace Recalls

variable {s : Session}

/-- Finding the matches keeps what is remembered right. -/
theorem matchingIndices (h : s.Recalls) : s.matchingIndices.1.Recalls := by
  unfold Session.matchingIndices
  split
  next => exact h
  next =>
    dsimp only
    split
    next indices hout =>
      intro indices' hmemo
      obtain rfl : indices = indices' := Option.some.inj hmemo
      exact hout
    next => exact h

/-- So does giving the results. -/
theorem results (h : s.Recalls) : s.results.1.Recalls := by
  unfold Session.results
  split
  · exact h
  · exact h.matchingIndices

/-- So does replacing the records. -/
theorem setRecords (h : s.Recalls) (records : List Json) : (s.setRecords records).1.Recalls := by
  unfold Session.setRecords
  dsimp only
  split
  · split
    · exact recalls_of_memo_eq_none rfl
    · exact h
  · exact recalls_of_memo_eq_none rfl

/-- The matches are evaluated, or they are what evaluating would give. -/
theorem outcome_matchingIndices (h : s.Recalls) : s.matchingIndices.2.outcome =
    (s.root.evaluate s.registry s.request.options.first s.records).outcome := by
  unfold Session.matchingIndices
  split
  next indices hmemo => exact (h indices hmemo).symm
  next =>
    dsimp only
    split <;> rfl

/-- Where evaluating fails without a call, nothing is remembered and the failure is met again. -/
theorem matchingIndices_of_fail (h : s.Recalls) {e : Error}
    (hfail : s.root.evaluate s.registry s.request.options.first s.records = Traced.fail e) :
    s.matchingIndices.2 = Traced.fail e := by
  unfold Session.matchingIndices
  split
  next indices hmemo =>
    have hok := h indices hmemo
    rw [hfail] at hok
    cases hok
  next => rw [hfail]; rfl

end Recalls

variable {s : Session}

/-- The matching records are those at the matching positions. -/
theorem matching_eq (s : Session) : s.matching.2 =
    s.matchingIndices.2 >>= fun indices => pure (s.matchingIndices.1.recordsAt indices) := rfl

/-- The results are what is selected of the matching records. -/
theorem results_eq_of_ne_nil (h : s.records ≠ []) :
    s.results.2 = s.matching.2 >>= fun hits => pure (s.matching.1.select hits) := by
  have hempty : ¬ s.records.isEmpty = true := by simpa using h
  rw [Session.results, if_neg hempty]

/-! ## Calls -/

/-- **One call keeps the invariant.** -/
theorem recalls_perform (h : s.Recalls) (operation : Operation) :
    (s.perform operation).1.Recalls := by
  cases operation with
  | results => exact h.results
  | matching => exact h.matchingIndices
  | explain => exact h
  | setRecords records => exact h.setRecords records

/-- **A sequence of calls keeps the invariant.** -/
theorem recalls_run (h : s.Recalls) (operations : List Operation) :
    (s.run operations).1.Recalls := by
  induction operations generalizing s with
  | nil => exact h
  | cons operation rest ih => exact ih (recalls_perform h operation)

/-! ## What a session reports -/

/-- A session without records answers, and calls nothing. -/
theorem Recalls.of_no_records (h : s.Recalls) (hnone : s.records = []) :
    s.results.2 = pure (.default s.request.options.default) ∧ s.matching.2 = pure [] := by
  have hevaluate : s.root.evaluate s.registry s.request.options.first s.records = pure [] := by
    rw [hnone, Group.evaluate_eq_searchWith]
    exact s.root.searchWith_nil _
  have hindices : s.matchingIndices.2 = pure [] := by
    unfold Session.matchingIndices
    split
    next indices hmemo =>
      have hok := h indices hmemo
      rw [hevaluate] at hok
      obtain rfl := Except.ok.inj hok
      rfl
    next => rw [hevaluate]; rfl
  constructor
  · rw [Session.results, hnone]
    rfl
  · rw [matching_eq, hindices, pure_bind]
    rfl

/-- **A missing predicate is reported without a call.** -/
theorem Recalls.of_missing (h : s.Recalls) (hsome : s.records ≠ []) {before after : List Clause}
    {clause : Clause} (hclauses : s.root.clauses = before ++ clause :: after)
    (hbefore : ∀ c ∈ before, s.registry.contains c.predicate = true)
    (hmissing : s.registry.contains clause.predicate = false) :
    s.results.2 = Traced.fail (.unknownPredicate clause.predicate) ∧
      s.matching.2 = Traced.fail (.unknownPredicate clause.predicate) := by
  have hindices := h.matchingIndices_of_fail
    (Group.evaluate_of_missing hclauses hbefore hmissing hsome)
  have hmatching : s.matching.2 = Traced.fail (.unknownPredicate clause.predicate) := by
    rw [matching_eq, hindices]
    rfl
  refine ⟨?_, hmatching⟩
  rw [results_eq_of_ne_nil hsome, hmatching]
  rfl

/-- **If no predicate is missing the errors are those of predicates.** -/
theorem Recalls.exists_fault (h : s.Recalls)
    (hfound : ∀ clause ∈ s.root.clauses, s.registry.contains clause.predicate = true) {e : Error}
    (herror : s.results.2.outcome = .error e ∨ s.matching.2.outcome = .error e) :
    ∃ clause ∈ s.root.clauses, ∃ fault, e = .predicate clause.predicate fault := by
  have hmatching : s.matching.2.outcome = .error e →
      ∃ clause ∈ s.root.clauses, ∃ fault, e = .predicate clause.predicate fault := by
    intro hmatching
    rw [matching_eq, Traced.outcome_bind_eq_error_iff, h.outcome_matchingIndices] at hmatching
    rcases hmatching with hevaluate | ⟨indices, -, hpure⟩
    · exact Group.exists_fault_of_evaluate hfound hevaluate
    · cases hpure
  rcases herror with hresults | herror
  · by_cases hnone : s.records = []
    · rw [(h.of_no_records hnone).1] at hresults
      cases hresults
    · rw [results_eq_of_ne_nil hnone, Traced.outcome_bind_eq_error_iff] at hresults
      rcases hresults with herror | ⟨hits, -, hpure⟩
      · exact hmatching herror
      · cases hpure
  · exact hmatching herror

/-- **All predicates are found before the first is called.** After any calls a session with records
reports the first name in the text of the query that has no predicate, both for the answer and for
the matches, and calls nothing; if there is none, its errors are those of predicates that were
called. Evaluation looks each name up once and does without the registry from then on. A session
without records answers, whatever its tree names. -/
theorem predicates_found_first (s : Session) (hfresh : s.memo = none)
    (operations : List Operation) :
    ∃ last replies, s.run operations = (last, replies) ∧
      (∀ before clause after, last.records ≠ [] →
        last.root.clauses = before ++ clause :: after →
        (∀ c ∈ before, last.registry.contains c.predicate = true) →
        last.registry.contains clause.predicate = false →
          last.results.2 = Traced.fail (.unknownPredicate clause.predicate) ∧
            last.matching.2 = Traced.fail (.unknownPredicate clause.predicate)) ∧
      ((∀ clause ∈ last.root.clauses, last.registry.contains clause.predicate = true) →
        ∀ e, last.results.2.outcome = .error e ∨ last.matching.2.outcome = .error e →
          ∃ clause ∈ last.root.clauses, ∃ fault, e = .predicate clause.predicate fault) ∧
      (∀ onlyFirst, last.root.evaluate last.registry onlyFirst last.records =
        last.root.evaluateGathered last.registry onlyFirst last.records) ∧
      (last.records = [] →
        last.results.2 = pure (.default last.request.options.default) ∧
          last.matching.2 = pure []) := by
  have hlast := recalls_run (recalls_of_memo_eq_none hfresh) operations
  refine ⟨_, _, rfl, ?_, ?_, ?_, ?_⟩
  · intro before clause after hsome hclauses hbefore hmissing
    exact hlast.of_missing hsome hclauses hbefore hmissing
  · intro hfound e herror
    exact hlast.exists_fault hfound herror
  · intro onlyFirst
    exact Group.evaluate_eq_evaluateGathered _ onlyFirst _
  · intro hnone
    exact hlast.of_no_records hnone

/-! ### A name behind a test that decides -/

/-- The last name has no predicate. The record passes the first test, so that evaluation would not
reach the name. -/
def sampleUnknown : Session where
  request := Request.ofQuery "a present or b present and b bogus"
  normalized := ⟨[], false⟩
  bound := []
  config := {}
  registry := Group.sampleRegistry
  scalar := false
  root := ⟨.root, .any,
    [.clause ⟨.path ["a"], ⟨"t", "t", "present"⟩, false, [], []⟩,
      .group (GroupPath.root.child 0) .all
        [.clause ⟨.path ["b"], ⟨"t", "t", "present"⟩, false, [], []⟩,
          .clause ⟨.path ["b"], ⟨"t", "t", "bogus"⟩, false, [], []⟩]]⟩
  records := [.object [("a", .null)]]
  memo := none

/-- The case of a query with an unknown predicate. -/
theorem predicates_found_first_sample :
    sampleUnknown.memo = none ∧
      ∃ last replies,
        sampleUnknown.run [.setRecords [], .results, .setRecords sampleUnknown.records] =
          (last, replies) ∧
        last.results.2 = Traced.fail (.unknownPredicate ⟨"t", "t", "bogus"⟩) ∧
        last.matching.2 = Traced.fail (.unknownPredicate ⟨"t", "t", "bogus"⟩) := by
  refine ⟨rfl, ?_⟩
  obtain ⟨last, replies, hrun, hmissing, -⟩ := predicates_found_first sampleUnknown rfl
    [.setRecords [], .results, .setRecords sampleUnknown.records]
  obtain rfl := (Prod.mk.inj hrun).1
  exact ⟨_, replies, hrun, hmissing (sampleUnknown.root.clauses.take 2) _ [] (by decide) rfl
    (by decide) (by decide)⟩

end Session

end RecordFilter
