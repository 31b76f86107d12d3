import RecordFilter.Proofs.History.Standing
import RecordFilter.Proofs.Session.Lookup
import RecordFilter.Proofs.Session.Operations

/-!
# Sessions call predicates once

Which predicates a session calls follows from what it has replied. It evaluates its records when it
is asked about them for the first time, and again until it has an answer; from then on it calls
nothing, until other records are accepted.

* `Session.calls_of_needsMatches`, `Session.calls_of_not_needsMatches` — which calls of a session
  call predicates.
* `AnsweredSince` — replies that end with records that were answered for.
* `Session.Remembers` — the invariant: matches are remembered if and only if there was an answer.
* `Session.remembers_perform`, `Session.remembers_run` — one call keeps it, and so does a sequence.
* `Session.run_of_failing` — a session whose evaluation fails stays as it is.
* `Session.calls_follow_replies` — **when predicates are called, and which.**
-/

namespace RecordFilter

/-! ## Replies -/

/-- The calls of a session that need its matches. -/
def Operation.NeedsMatches (operation : Operation) : Prop :=
  operation = .results ∨ operation = .matching

namespace Reply

/-- The error of a call that failed. -/
def error? : Reply → Option Error
  | .results (.error e) | .matching (.error e) | .explain (.error e) | .setRecords (.error e) =>
    some e
  | _ => none

/-- An answer or the matches were given. -/
def answers : Reply → Bool
  | .results (.ok _) | .matching (.ok _) => true
  | _ => false

/-- Other records were accepted. -/
def replaces : Reply → Bool
  | .setRecords (.ok _) => true
  | _ => false

end Reply

/-- **There was an answer since other records were accepted last**, or since the beginning. -/
def AnsweredSince (replies : List Reply) : Prop :=
  ∃ reply, reply.answers = true ∧ Stands (fun later => later.replaces = true) replies reply

/-- Before the first reply nothing has been answered. -/
theorem not_answeredSince_nil : ¬ AnsweredSince [] := by
  rintro ⟨reply, -, hstands⟩
  exact not_stands_nil hstands

/-- The last reply is an answer, or it leaves the answers before it in place. -/
theorem answeredSince_concat {replies : List Reply} {reply : Reply} :
    AnsweredSince (replies ++ [reply]) ↔
      reply.answers = true ∨ AnsweredSince replies ∧ reply.replaces = false := by
  unfold AnsweredSince
  simp only [stands_concat, Bool.not_eq_true]
  constructor
  · rintro ⟨answer, hanswers, rfl | ⟨hstands, hreplaces⟩⟩
    · exact .inl hanswers
    · exact .inr ⟨⟨answer, hanswers, hstands⟩, hreplaces⟩
  · rintro (hanswers | ⟨⟨answer, hanswers, hstands⟩, hreplaces⟩)
    · exact ⟨reply, hanswers, .inl rfl⟩
    · exact ⟨answer, hanswers, .inr ⟨hstands, hreplaces⟩⟩

namespace Session

variable {s : Session}

/-! ## One call -/

/-- **One fresh evaluation** of the tree on the records. -/
def evaluation (s : Session) : Traced (List Nat) :=
  s.root.evaluate s.registry s.request.options.first s.records

/-- The session with the predicates of another registry. -/
def withRegistry (s : Session) (registry : Registry) : Session := { s with registry }

variable {operation : Operation}

/-- Asking for the matching records looks the matches up. -/
theorem calls_matching (s : Session) : s.calls .matching = s.matchingIndices.2.calls := by
  show s.matching.2.calls = _
  rw [matching_eq, Traced.calls_bind_pure]

/-- Asking for the answer looks the matches up, unless there are no records. -/
theorem calls_results (hsome : s.records ≠ []) :
    s.calls .results = s.matchingIndices.2.calls := by
  show s.results.2.calls = _
  rw [results_eq_of_ne_nil hsome, Traced.calls_bind_pure]
  exact calls_matching s

/-- **With records, what needs the matches looks them up.** -/
theorem calls_of_needsMatches (hsome : s.records ≠ []) (hneeds : operation.NeedsMatches) :
    s.calls operation = s.matchingIndices.2.calls := by
  rcases hneeds with rfl | rfl
  · exact calls_results hsome
  · exact calls_matching s

/-- **What does not need the matches calls nothing.** -/
theorem calls_of_not_needsMatches (hneeds : ¬ operation.NeedsMatches) :
    s.calls operation = [] := by
  cases operation with
  | results => exact absurd (.inl rfl) hneeds
  | matching => exact absurd (.inr rfl) hneeds
  | explain => exact calls_explain s
  | setRecords records => exact calls_setRecords s records

/-- With records, the session after an answer is the one that has looked the matches up. -/
theorem results_fst_of_ne_nil (hsome : s.records ≠ []) : s.results.1 = s.matchingIndices.1 := by
  have hempty : ¬ s.records.isEmpty = true := by simpa using hsome
  rw [Session.results, if_neg hempty]
  rfl

/-- What needs the matches leaves the session as finding them does. -/
theorem perform_fst_of_needsMatches (hsome : s.records ≠ []) (hneeds : operation.NeedsMatches) :
    (s.perform operation).1 = s.matchingIndices.1 := by
  rcases hneeds with rfl | rfl
  · exact results_fst_of_ne_nil hsome
  · rfl

/-- What needs the matches fails if and only if looking them up does, and with the same error. -/
theorem error?_of_needsMatches (hsome : s.records ≠ []) (hneeds : operation.NeedsMatches)
    {e : Error} :
    (s.perform operation).2.error? = some e ↔ s.matchingIndices.2.outcome = .error e := by
  have hmatching : s.matching.2.outcome =
      s.matchingIndices.2.outcome.map s.matchingIndices.1.recordsAt := by
    rw [matching_eq, Traced.outcome_bind_pure]
  rcases hneeds with rfl | rfl
  · rw [perform, results_eq_of_ne_nil hsome, Traced.outcome_bind_pure, hmatching]
    cases s.matchingIndices.2.outcome <;> simp [Reply.error?, Except.map]
  · rw [perform, hmatching]
    cases s.matchingIndices.2.outcome <;> simp [Reply.error?, Except.map]

/-- A reply that needs the matches is an answer unless it is an error. -/
theorem answers_of_needsMatches (hneeds : operation.NeedsMatches) :
    (s.perform operation).2.answers = (s.perform operation).2.error?.isNone := by
  rcases hneeds with rfl | rfl
  · rw [perform]
    cases s.results.2.outcome <;> rfl
  · rw [perform]
    cases s.matching.2.outcome <;> rfl

/-- What needs the matches replaces no records. -/
theorem replaces_of_needsMatches (hneeds : operation.NeedsMatches) :
    (s.perform operation).2.replaces = false := by
  rcases hneeds with rfl | rfl <;> rfl

/-! ### Looking the matches up -/

/-- Remembered matches are given without a call. -/
theorem matchingIndices_of_some {indices : List Nat} (hmemo : s.memo = some indices) :
    s.matchingIndices = (s, Traced.pure indices) := by
  rw [matchingIndices, hmemo]

/-- Matches that are found are remembered. -/
theorem matchingIndices_of_ok {indices : List Nat} (hmemo : s.memo = none)
    (hout : s.evaluation.outcome = .ok indices) :
    s.matchingIndices = ({ s with memo := some indices }, s.evaluation) := by
  rw [evaluation] at hout ⊢
  rw [matchingIndices, hmemo]
  dsimp only
  rw [hout]

/-- **A failure is not remembered.** -/
theorem matchingIndices_of_error {e : Error} (hmemo : s.memo = none)
    (hout : s.evaluation.outcome = .error e) : s.matchingIndices = (s, s.evaluation) := by
  rw [evaluation] at hout ⊢
  rw [matchingIndices, hmemo]
  dsimp only
  rw [hout]

/-- Where nothing is remembered, the matches come from an evaluation. -/
theorem matchingIndices_snd_of_none (hmemo : s.memo = none) :
    s.matchingIndices.2 = s.evaluation := by
  cases hout : s.evaluation.outcome with
  | ok indices => rw [matchingIndices_of_ok hmemo hout]
  | error e => rw [matchingIndices_of_error hmemo hout]

/-- Finding the matches leaves the records alone. -/
theorem records_matchingIndices (s : Session) : s.matchingIndices.1.records = s.records := by
  cases hmemo : s.memo with
  | some indices => rw [matchingIndices_of_some hmemo]
  | none =>
    cases hout : s.evaluation.outcome with
    | ok indices => rw [matchingIndices_of_ok hmemo hout]
    | error e => rw [matchingIndices_of_error hmemo hout]

/-- Matches that are found are remembered, and matches that are remembered are found. -/
theorem memo_matchingIndices_of_ok {indices : List Nat}
    (h : s.matchingIndices.2.outcome = .ok indices) : s.matchingIndices.1.memo.isSome = true := by
  cases hmemo : s.memo with
  | some known => rw [matchingIndices_of_some hmemo, hmemo, Option.isSome_some]
  | none =>
    rw [matchingIndices_snd_of_none hmemo] at h
    rw [matchingIndices_of_ok hmemo h, Option.isSome_some]

/-- If looking the matches up fails then nothing was remembered, nothing is afterwards, and
evaluating them is what failed. -/
theorem of_matchingIndices_error {e : Error} (h : s.matchingIndices.2.outcome = .error e) :
    s.memo = none ∧ s.evaluation.outcome = .error e ∧ s.matchingIndices.1 = s := by
  cases hmemo : s.memo with
  | some known =>
    rw [matchingIndices_of_some hmemo] at h
    cases h
  | none =>
    rw [matchingIndices_snd_of_none hmemo] at h
    exact ⟨rfl, h, by rw [matchingIndices_of_error hmemo h]⟩

/-! ### Other records -/

/-- New records are not matched yet. -/
theorem memo_setRecords_of_ok {records : List Json} (h : (s.setRecords records).2 = .ok ()) :
    (s.setRecords records).1.memo = none := by
  unfold setRecords at h ⊢
  dsimp only at h ⊢
  split
  next hflip =>
    rw [if_pos hflip] at h
    cases hbuild : Group.build s.config (isScalar records) s.bound with
    | ok root => rfl
    | error e => rw [hbuild] at h; cases h
  next => rfl

/-! ## Matches and replies -/

/-- **What a session remembers follows from its replies**: after an answer it has the matches,
unless it has no records, and without one it has none. -/
structure Remembers (s : Session) (replies : List Reply) : Prop where
  recalls : s.Recalls
  answered : AnsweredSince replies → s.records = [] ∨ s.memo.isSome = true
  fresh : ¬ AnsweredSince replies → s.memo = none

namespace Remembers

variable {replies : List Reply} {reply : Reply}

/-- A reply that is no answer, and after which the session is as before, changes nothing. -/
theorem concat (h : s.Remembers replies) (hanswers : reply.answers = false)
    (hreplaces : reply.replaces = false) : s.Remembers (replies ++ [reply]) := by
  have hiff : AnsweredSince (replies ++ [reply]) ↔ AnsweredSince replies := by
    simp [answeredSince_concat, hanswers, hreplaces]
  exact ⟨h.recalls, fun hsince => h.answered (hiff.1 hsince),
    fun hsince => h.fresh fun hbefore => hsince (hiff.2 hbefore)⟩

/-- After an answer a session without records needs no matches. -/
theorem concat_answer (hrecalls : s.Recalls) (hanswers : reply.answers = true)
    (hknown : s.records = [] ∨ s.memo.isSome = true) : s.Remembers (replies ++ [reply]) :=
  ⟨hrecalls, fun _ => hknown,
    fun hsince => absurd (answeredSince_concat.2 (.inl hanswers)) hsince⟩

end Remembers

/-- A session without records answers whatever needs the matches, and calls nothing. -/
theorem Recalls.perform_of_no_records (h : s.Recalls) (hnone : s.records = [])
    (hneeds : operation.NeedsMatches) :
    s.calls operation = [] ∧ (s.perform operation).2.error? = none ∧
      (s.perform operation).1.records = [] := by
  obtain ⟨hresults, hmatching⟩ := h.of_no_records hnone
  rcases hneeds with rfl | rfl
  · rw [calls, operate, perform, hresults]
    refine ⟨rfl, rfl, ?_⟩
    rw [Session.results, hnone]
    exact hnone
  · rw [calls, operate, perform, hmatching]
    exact ⟨rfl, rfl, (records_matchingIndices s).trans hnone⟩

variable {replies : List Reply}

/-- What needs the matches remembers them. -/
theorem Remembers.perform_of_needsMatches (h : s.Remembers replies)
    (hneeds : operation.NeedsMatches) :
    (s.perform operation).1.Remembers (replies ++ [(s.perform operation).2]) := by
  have hrecalls := recalls_perform h.recalls operation
  have hanswers := answers_of_needsMatches (s := s) hneeds
  by_cases hnone : s.records = []
  · obtain ⟨-, herror, hrecords⟩ := h.recalls.perform_of_no_records hnone hneeds
    rw [herror] at hanswers
    exact .concat_answer hrecalls hanswers (.inl hrecords)
  · rw [perform_fst_of_needsMatches hnone hneeds] at hrecalls ⊢
    cases herror : (s.perform operation).2.error? with
    | none =>
      rw [herror] at hanswers
      refine .concat_answer hrecalls hanswers (.inr ?_)
      cases hout : s.matchingIndices.2.outcome with
      | ok indices => exact memo_matchingIndices_of_ok hout
      | error e =>
        rw [(error?_of_needsMatches hnone hneeds).2 hout] at herror
        cases herror
    | some e =>
      rw [herror] at hanswers
      obtain ⟨-, -, hsame⟩ :=
        of_matchingIndices_error ((error?_of_needsMatches hnone hneeds).1 herror)
      rw [hsame]
      exact h.concat hanswers (replaces_of_needsMatches hneeds)

/-- **One call keeps the invariant.** -/
theorem remembers_perform (h : s.Remembers replies) (operation : Operation) :
    (s.perform operation).1.Remembers (replies ++ [(s.perform operation).2]) := by
  cases operation with
  | results => exact h.perform_of_needsMatches (.inl rfl)
  | matching => exact h.perform_of_needsMatches (.inr rfl)
  | explain => exact h.concat rfl rfl
  | setRecords records =>
    rw [perform]
    cases hout : (s.setRecords records).2 with
    | error e =>
      rw [setRecords_of_error hout]
      exact h.concat rfl rfl
    | ok =>
      -- other records: no answer was given for them yet
      refine ⟨h.recalls.setRecords records, fun hsince => ?_,
        fun _ => memo_setRecords_of_ok hout⟩
      rcases answeredSince_concat.1 hsince with hanswers | ⟨-, hreplaces⟩
      · cases hanswers
      · cases hreplaces

/-- **A sequence of calls keeps the invariant.** -/
theorem remembers_run (h : s.Remembers replies) (operations : List Operation) :
    (s.run operations).1.Remembers (replies ++ (s.run operations).2) := by
  induction operations generalizing s replies with
  | nil => rwa [run, List.append_nil]
  | cons operation rest ih =>
    have hrest := ih (remembers_perform h operation)
    rwa [List.append_assoc, List.singleton_append] at hrest

/-! ## What is called -/

/-- After an answer nothing is called. -/
theorem Remembers.calls_of_answered (h : s.Remembers replies) (hneeds : operation.NeedsMatches)
    (hsince : s.records = [] ∨ AnsweredSince replies) : s.calls operation = [] := by
  by_cases hnone : s.records = []
  · exact (h.recalls.perform_of_no_records hnone hneeds).1
  · have hmemo := (h.answered (hsince.resolve_left hnone)).resolve_left hnone
    obtain ⟨indices, hmemo⟩ := Option.isSome_iff_exists.1 hmemo
    rw [calls_of_needsMatches hnone hneeds, matchingIndices_of_some hmemo]
    rfl

/-- **Without an answer the calls are those of one fresh evaluation.** -/
theorem Remembers.calls_of_not_answered (h : s.Remembers replies) (hneeds : operation.NeedsMatches)
    (hsome : s.records ≠ []) (hsince : ¬ AnsweredSince replies) :
    s.calls operation = s.evaluation.calls := by
  rw [calls_of_needsMatches hsome hneeds, matchingIndices_snd_of_none (h.fresh hsince)]

/-! ## Failures -/

/-- What fails has met the failure of the evaluation. -/
theorem Recalls.of_error (h : s.Recalls) (hneeds : operation.NeedsMatches) {e : Error}
    (herror : (s.perform operation).2.error? = some e) :
    s.records ≠ [] ∧ s.memo = none ∧ s.evaluation.outcome = .error e ∧
      (s.perform operation).1 = s := by
  have hsome : s.records ≠ [] := by
    intro hnone
    rw [(h.perform_of_no_records hnone hneeds).2.1] at herror
    cases herror
  obtain ⟨hmemo, hout, hsame⟩ :=
    of_matchingIndices_error ((error?_of_needsMatches hsome hneeds).1 herror)
  exact ⟨hsome, hmemo, hout, (perform_fst_of_needsMatches hsome hneeds).trans hsame⟩

/-- A session whose evaluation fails stays as it is, unless other records are accepted. -/
theorem perform_of_failing (hsome : s.records ≠ []) (hmemo : s.memo = none) {e : Error}
    (hout : s.evaluation.outcome = .error e)
    (hkept : (s.perform operation).2.replaces = false) : (s.perform operation).1 = s := by
  have hneeds (hneeds : operation.NeedsMatches) : (s.perform operation).1 = s := by
    rw [perform_fst_of_needsMatches hsome hneeds, matchingIndices_of_error hmemo hout]
  cases operation with
  | results => exact hneeds (.inl rfl)
  | matching => exact hneeds (.inr rfl)
  | explain => rfl
  | setRecords records =>
    rw [perform] at hkept ⊢
    cases hset : (s.setRecords records).2 with
    | ok => rw [hset] at hkept; cases hkept
    | error e => exact setRecords_of_error hset

/-- **So it does over a sequence of calls.** -/
theorem run_of_failing (hsome : s.records ≠ []) (hmemo : s.memo = none) {e : Error}
    (hout : s.evaluation.outcome = .error e) {operations : List Operation}
    (hkept : ∀ reply ∈ (s.run operations).2, reply.replaces = false) :
    (s.run operations).1 = s := by
  induction operations with
  | nil => rfl
  | cons operation rest ih =>
    rw [run] at hkept ⊢
    have hfirst := perform_of_failing hsome hmemo hout (hkept _ List.mem_cons_self)
    rw [hfirst] at hkept ⊢
    exact ih fun reply hreply => hkept reply (List.mem_cons_of_mem _ hreply)

/-- **A failure repeats itself**: as long as no other records are accepted, whatever needs the
matches makes the same calls and fails with the same error. -/
theorem Recalls.repeats (h : s.Recalls) (hneeds : operation.NeedsMatches) {e : Error}
    (herror : (s.perform operation).2.error? = some e) {between : List Operation}
    (hkept : ∀ reply ∈ ((s.perform operation).1.run between).2, reply.replaces = false)
    {again : Operation} (hagain : again.NeedsMatches) :
    (((s.perform operation).1.run between).1).calls again = s.calls operation ∧
      ((((s.perform operation).1.run between).1).perform again).2.error? = some e := by
  obtain ⟨hsome, hmemo, hout, hsame⟩ := h.of_error hneeds herror
  rw [hsame] at hkept ⊢
  rw [run_of_failing hsome hmemo hout hkept, calls_of_needsMatches hsome hagain,
    calls_of_needsMatches hsome hneeds, error?_of_needsMatches hsome hagain,
    matchingIndices_snd_of_none hmemo]
  exact ⟨rfl, hout⟩

/-! ## Without predicates -/

/-- **Compiling does not depend on predicates.** -/
theorem compile_withRegistry (registry other : Registry) (config : Config) (records : List Json)
    (request : Request) :
    compile other config records request =
      (compile registry config records request).map (·.withRegistry other) := by
  unfold compile
  cases request.options.validate with
  | error e => rfl
  | ok =>
    cases Normalized.ofQuery (operators config request.options) request.query with
    | error e => rfl
    | ok normalized =>
      show (Token.resolveAll _ _ _ >>= _) = Except.map _ (Token.resolveAll _ _ _ >>= _)
      cases Token.resolveAll request.bindings config.defaultBindings normalized.tokens with
      | error e => rfl
      | ok bound =>
        show (Group.build _ _ _ >>= _) = Except.map _ (Group.build _ _ _ >>= _)
        cases Group.build config (isScalar records) bound <;> rfl

/-- **Neither do other records and the text of the tree.** -/
theorem perform_withRegistry (s : Session) (other : Registry) (hneeds : ¬ operation.NeedsMatches) :
    (s.withRegistry other).perform operation =
      ((s.perform operation).1.withRegistry other, (s.perform operation).2) := by
  cases operation with
  | results => exact absurd (.inl rfl) hneeds
  | matching => exact absurd (.inr rfl) hneeds
  | explain => rfl
  | setRecords records =>
    show (_, _) = (_, _)
    unfold perform setRecords withRegistry
    dsimp only
    split
    · split <;> rfl
    · rfl

/-! ## Calls after any calls -/

/-- **When predicates are called, and which.** Compiling calls none, and nor do other records and
the text of the tree: they would be the same with other predicates. After any calls, the answer and
the matches call none if there are no records, or if there was an answer since other records were
accepted last; otherwise they make the calls of one fresh evaluation. If that fails then, whatever
else is called, they make these calls and fail with this error again until other records are
accepted. -/
theorem calls_follow_replies {registry : Registry} {config : Config} {records : List Json}
    {request : Request} (h : compile registry config records request = .ok s)
    (operations : List Operation) :
    (∀ other, compile other config records request = .ok (s.withRegistry other)) ∧
    ∃ last replies, s.run operations = (last, replies) ∧
      (∀ operation, ¬ operation.NeedsMatches → last.calls operation = [] ∧
        ∀ other, (last.withRegistry other).perform operation =
          ((last.perform operation).1.withRegistry other, (last.perform operation).2)) ∧
      (∀ operation, operation.NeedsMatches → last.records = [] ∨ AnsweredSince replies →
        last.calls operation = []) ∧
      (∀ operation, operation.NeedsMatches → last.records ≠ [] → ¬ AnsweredSince replies →
        last.calls operation = last.evaluation.calls) ∧
      ∀ operation e, operation.NeedsMatches → (last.perform operation).2.error? = some e →
        ∀ between after between', (last.perform operation).1.run between = (after, between') →
          (∀ reply ∈ between', reply.replaces = false) →
          ∀ again, again.NeedsMatches →
            after.calls again = last.calls operation ∧
              (after.perform again).2.error? = some e := by
  obtain ⟨-, -, -, -, hs⟩ := compile_eq_ok h
  have hmemo : s.memo = none := by rw [hs]
  have hbegin : s.Remembers [] :=
    ⟨recalls_of_memo_eq_none hmemo, fun hsince => absurd hsince not_answeredSince_nil,
      fun _ => hmemo⟩
  have hlast := remembers_run hbegin operations
  rw [List.nil_append] at hlast
  refine ⟨fun other => ?_, _, _, rfl, ?_, ?_, ?_, ?_⟩
  · rw [compile_withRegistry registry other, h]
    rfl
  · intro operation hneeds
    exact ⟨calls_of_not_needsMatches hneeds, fun other => perform_withRegistry _ other hneeds⟩
  · intro operation hneeds hsince
    exact hlast.calls_of_answered hneeds hsince
  · intro operation hneeds hsome hsince
    exact hlast.calls_of_not_answered hneeds hsome hsince
  · rintro operation e hneeds herror between after replies hrun hkept again hagain
    obtain ⟨rfl, rfl⟩ := Prod.mk.inj hrun
    exact hlast.recalls.repeats hneeds herror hkept hagain

/-! ### A predicate that fails on the second record -/

/-- A predicate that fails on null. -/
def nullFault : Registry :=
  ⟨[(⟨"builtin", "tests", "filled"⟩, fun value _ _ =>
    if value matches some .null then .error (.failed "null") else .ok value.isSome)]⟩

/-- A record that is filled, and one that is not. -/
def sampleRecords : List Json := [.object [("a", .bool true)], .object [("a", .null)]]

/-- Calls that fail, without other records. -/
def sampleFailing : List Operation := [.results, .explain, .matching]

/-- The case of a session whose predicate fails once. -/
theorem calls_follow_replies_sample :
    ∃ s, compile nullFault {} sampleRecords (Request.ofQuery "a filled") = .ok s ∧
      ∃ last replies, s.run sampleFailing = (last, replies) ∧ ¬ AnsweredSince replies ∧
        last.evaluation.calls.length = 2 ∧ last.calls .results = last.evaluation.calls ∧
        last.calls .explain = [] := by
  have hok : (compile nullFault {} sampleRecords (Request.ofQuery "a filled")).isOk = true := by
    decide +kernel
  obtain ⟨s, h⟩ := exists_of_isOk hok
  have hfacts : (compile nullFault {} sampleRecords (Request.ofQuery "a filled")).toOption.all
      (fun s => !(s.run sampleFailing).1.records.isEmpty &&
        (s.run sampleFailing).2.all (fun reply => !reply.answers) &&
        (s.run sampleFailing).1.evaluation.calls.length == 2) = true := by
    decide +kernel
  rw [h] at hfacts
  simp only [Except.toOption, Option.all_some, Bool.and_eq_true, Bool.not_eq_true',
    List.isEmpty_eq_false_iff, List.all_eq_true, beq_iff_eq] at hfacts
  obtain ⟨⟨hsome, hreplies⟩, hlength⟩ := hfacts
  obtain ⟨-, last, replies, hrun, hquiet, -, hcalls, -⟩ := calls_follow_replies h sampleFailing
  rw [hrun] at hsome hreplies hlength
  have hsince : ¬ AnsweredSince replies := by
    rintro ⟨reply, hanswers, hstands⟩
    rw [hreplies reply hstands.mem] at hanswers
    cases hanswers
  exact ⟨s, h, last, replies, hrun, hsince, hlength, hcalls .results (.inl rfl) hsome hsince,
    (hquiet .explain (by simp [Operation.NeedsMatches])).1⟩

end Session

end RecordFilter
