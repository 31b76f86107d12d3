import RecordFilter.Proofs.Evaluation.Effects
import RecordFilter.Proofs.Except.Success
import RecordFilter.Query.Session

/-!
# Sessions remember nothing that shows

A session keeps its tree and its matches from one call to the next. Its replies are those of a
session that keeps neither, compiles its tokens and evaluates its records at every call.

* `Operation`, `Reply`, `Session.run` — the calls of a session, and a sequence of them.
* `Recomputation` — tokens, settings and records, with the shape of the last records that had one.
* `Session.Reflects` — the invariant: what a session remembers is what recomputing gives.
* `Session.reflects_perform`, `Session.reflects_run` — one call keeps it and replies alike, and so
  does a sequence.
* `Session.compile_eq_ok` — the parts of a compiled session.
* `Session.run_eq_recomputed` — from compilation on, sessions cannot be told from recomputation.
-/

namespace RecordFilter

/-! ## Calls -/

/-- A call of a session. -/
inductive Operation where
  | results
  | matching
  | explain
  | setRecords (records : List Json)

/-- What a call gives. -/
inductive Reply where
  | results (outcome : Except Error Selection)
  | matching (outcome : Except Error (List Json))
  | explain (outcome : Except Error String)
  | setRecords (outcome : Except Error Unit)

namespace Session

/-- One call: the session after it, and the reply. -/
def perform (s : Session) : Operation → Session × Reply
  | .results => (s.results.1, .results s.results.2.outcome)
  | .matching => (s.matching.1, .matching s.matching.2.outcome)
  | .explain => (s, .explain (.ok s.explain))
  | .setRecords records => ((s.setRecords records).1, .setRecords (s.setRecords records).2)

/-- **A sequence of calls**: the session after it, and all replies. -/
def run (s : Session) : List Operation → Session × List Reply
  | [] => (s, [])
  | operation :: rest =>
    let after := (s.perform operation).1.run rest
    (after.1, (s.perform operation).2 :: after.2)

end Session

/-! ## Recomputing -/

/-- **A session without memory.** -/
structure Recomputation where
  options : Options
  bound : List Bound
  config : Config
  registry : Registry
  /-- The records that were accepted last. -/
  records : List Json
  /-- Whether the last accepted records that were not empty are scalar. -/
  shape : Bool

namespace Recomputation

/-- The tree, compiled anew. -/
def tree (r : Recomputation) : Except Error Group := Group.build r.config r.shape r.bound

/-- The matching indices, evaluated anew. -/
def indices (r : Recomputation) : Except Error (List Nat) := do
  let root ← r.tree
  (root.evaluate r.registry r.options.first r.records).outcome

/-- The matching records. -/
def matching (r : Recomputation) : Except Error (List Json) :=
  r.indices.map fun indices => indices.filterMap fun i => r.records[i]?

/-- The answer for matching records. -/
def select (r : Recomputation) (hits : List Json) : Selection :=
  let project := fun record => (r.options.pluck.map (·.project record)).getD record
  match hits with
  | [] => .default r.options.default
  | hit :: _ => if r.options.first then .one (project hit) else .many (hits.map project)

/-- The answer as the options ask for it. -/
def results (r : Recomputation) : Except Error Selection := r.matching.map r.select

/-- The tree as text. -/
def explain (r : Recomputation) : Except Error String := r.tree.map Group.explain

/-- Other records; without any the shape stays. -/
def withRecords (r : Recomputation) (records : List Json) : Recomputation :=
  { r with records, shape := if records.isEmpty then r.shape else isScalar records }

/-- Accepts other records if the tokens compile for them. -/
def setRecords (r : Recomputation) (records : List Json) : Recomputation × Except Error Unit :=
  match (r.withRecords records).tree with
  | .ok _ => (r.withRecords records, .ok ())
  | .error e => (r, .error e)

/-- One call. -/
def perform (r : Recomputation) : Operation → Recomputation × Reply
  | .results => (r, .results r.results)
  | .matching => (r, .matching r.matching)
  | .explain => (r, .explain r.explain)
  | .setRecords records => ((r.setRecords records).1, .setRecords (r.setRecords records).2)

/-- A sequence of calls. -/
def run (r : Recomputation) : List Operation → Recomputation × List Reply
  | [] => (r, [])
  | operation :: rest =>
    let after := (r.perform operation).1.run rest
    (after.1, (r.perform operation).2 :: after.2)

/-- The session without memory for a request, if it compiles. -/
def compile (registry : Registry) (config : Config) (records : List Json) (request : Request) :
    Except Error Recomputation := do
  request.options.validate
  let normalized ← Normalized.ofQuery (Session.operators config request.options) request.query
  let bound ← Token.resolveAll request.bindings config.defaultBindings normalized.tokens
  let r : Recomputation :=
    { options := request.options, bound, config, registry, records, shape := isScalar records }
  let _ ← r.tree
  return r

end Recomputation

/-! ## What sessions remember -/

namespace Session

/-- **What a session remembers is what recomputing gives.** -/
structure Reflects (s : Session) (r : Recomputation) : Prop where
  options : s.request.options = r.options
  bound : s.bound = r.bound
  config : s.config = r.config
  registry : s.registry = r.registry
  records : s.records = r.records
  shape : s.scalar = r.shape
  /-- The tree is the one that compiling gives. -/
  tree : r.tree = .ok s.root
  /-- Remembered matches are those that evaluating gives. -/
  memo : ∀ indices, s.memo = some indices → r.indices = .ok indices

namespace Reflects

variable {s : Session} {r : Recomputation}

/-- The recomputed positions are those of an evaluation of the root. -/
theorem indices_eq (h : Reflects s r) :
    r.indices = (s.root.evaluate s.registry s.request.options.first s.records).outcome := by
  rw [Recomputation.indices, h.tree, h.registry, h.options, h.records]
  rfl

/-- Remembered indices are indices of the records. -/
theorem lt_length (h : Reflects s r) {indices : List Nat} (hmemo : s.memo = some indices) :
    ∀ i ∈ indices, i < s.records.length := by
  have hindices := h.memo indices hmemo
  rw [h.indices_eq] at hindices
  exact Group.lt_length_of_evaluate hindices

/-! ### Matches and answers -/

/-- Looking up the matches keeps the invariant, and gives what evaluating gives. -/
theorem matchingIndices (h : Reflects s r) :
    Reflects s.matchingIndices.1 r ∧ s.matchingIndices.2.outcome = r.indices := by
  unfold Session.matchingIndices
  split
  next indices hmemo => exact ⟨h, (h.memo indices hmemo).symm⟩
  next =>
    dsimp only
    split
    next indices hout =>
      refine ⟨{ h with memo := ?_ }, h.indices_eq.symm⟩
      intro indices' hmemo
      obtain rfl : indices = indices' := Option.some.inj hmemo
      rw [h.indices_eq, hout]
    next e hout => exact ⟨h, h.indices_eq.symm⟩

/-- The matching records are those that are recomputed. -/
theorem matching (h : Reflects s r) :
    Reflects s.matching.1 r ∧ s.matching.2.outcome = r.matching := by
  obtain ⟨hafter, hout⟩ := h.matchingIndices
  refine ⟨hafter, ?_⟩
  show (s.matchingIndices.2 >>= fun indices =>
    Pure.pure (s.matchingIndices.1.recordsAt indices)).outcome = _
  have hrecords : s.matchingIndices.1.recordsAt = fun indices =>
      indices.filterMap fun i => r.records[i]? := by
    funext indices
    rw [recordsAt, hafter.records]
  rw [Traced.outcome_bind_pure, hout, hrecords, Recomputation.matching]

/-- A record is projected by the options of the recomputation. -/
theorem project_eq (h : Reflects s r) (record : Json) :
    s.project record = (r.options.pluck.map (·.project record)).getD record := by
  rw [Session.project, h.options]
  cases r.options.pluck <;> rfl

/-- Hits are selected by the options of the recomputation. -/
theorem select_eq (h : Reflects s r) (hits : List Json) : s.select hits = r.select hits := by
  have hproject : s.project = fun record => (r.options.pluck.map (·.project record)).getD record :=
    funext h.project_eq
  cases hits with
  | nil => simp only [Session.select, Recomputation.select, h.options]
  | cons hit rest => simp only [Session.select, Recomputation.select, hproject, h.options]

/-- Recomputing needs no case for the empty record list: it has no matches. -/
theorem results_of_isEmpty (h : Reflects s r) (hempty : s.records.isEmpty = true) :
    r.results = .ok (.default r.options.default) := by
  have hindices : r.indices = .ok [] := by
    rw [h.indices_eq, List.isEmpty_iff.1 hempty, Group.outcome_evaluate_nil]
  rw [Recomputation.results, Recomputation.matching, hindices]
  rfl

/-- The results are those that are recomputed. -/
theorem results (h : Reflects s r) :
    Reflects s.results.1 r ∧ s.results.2.outcome = r.results := by
  unfold Session.results
  split
  next hempty =>
    rw [h.results_of_isEmpty hempty, h.options]
    exact ⟨h, rfl⟩
  next =>
    obtain ⟨hafter, hout⟩ := h.matching
    refine ⟨hafter, ?_⟩
    show (s.matching.2 >>= fun hits => Pure.pure (s.matching.1.select hits)).outcome = _
    have hselect : s.matching.1.select = r.select := funext hafter.select_eq
    rw [Traced.outcome_bind_pure, hout, hselect, Recomputation.results]

/-- The explanation is the one that is recomputed. -/
theorem explain_eq (h : Reflects s r) : r.explain = .ok s.explain := by
  rw [Recomputation.explain, h.tree]
  rfl

/-! ### Other records -/

/-- The shape that other records give. -/
theorem shape_withRecords (h : Reflects s r) {records : List Json}
    (hsame : ¬ (!records.isEmpty && isScalar records != s.scalar) = true) :
    (r.withRecords records).shape = s.scalar := by
  unfold Recomputation.withRecords
  cases hempty : records.isEmpty with
  | true => simp [h.shape]
  | false => simpa [hempty] using hsame

/-- Replacing the records keeps the invariant, also when it fails, and replies alike. -/
theorem setRecords (h : Reflects s r) (records : List Json) :
    Reflects (s.setRecords records).1 (r.setRecords records).1 ∧
      (s.setRecords records).2 = (r.setRecords records).2 := by
  unfold Session.setRecords
  dsimp only
  split
  next hflip =>
    have hshape : (r.withRecords records).shape = isScalar records := by
      rw [Bool.and_eq_true, Bool.not_eq_true'] at hflip
      simp [Recomputation.withRecords, hflip.1]
    have htree : (r.withRecords records).tree =
        Group.build s.config (isScalar records) s.bound := by
      rw [Recomputation.tree, hshape, h.config, h.bound]
      rfl
    rw [Recomputation.setRecords, htree]
    cases hbuild : Group.build s.config (isScalar records) s.bound with
    | ok root =>
      refine ⟨{ h with
        records := rfl
        shape := hshape.symm
        tree := htree.trans hbuild
        memo := ?_ }, rfl⟩
      intro indices hmemo
      cases hmemo
    | error e => exact ⟨h, rfl⟩
  next hsame =>
    -- the shape stays, so compiling anew gives the tree that the session has
    have hshape := h.shape_withRecords hsame
    have htree : (r.withRecords records).tree = .ok s.root := by
      rw [← h.tree, Recomputation.tree, hshape, h.shape]
      rfl
    rw [Recomputation.setRecords, htree]
    refine ⟨{ h with
      records := rfl
      shape := hshape.symm
      tree := htree
      memo := ?_ }, rfl⟩
    intro indices hmemo
    cases hmemo

end Reflects

/-! ## Sequences of calls -/

variable {s : Session} {r : Recomputation}

/-- **One call keeps the invariant and replies alike.** -/
theorem reflects_perform (h : Reflects s r) (operation : Operation) :
    Reflects (s.perform operation).1 (r.perform operation).1 ∧
      (s.perform operation).2 = (r.perform operation).2 := by
  cases operation with
  | results => exact ⟨h.results.1, congrArg Reply.results h.results.2⟩
  | matching => exact ⟨h.matching.1, congrArg Reply.matching h.matching.2⟩
  | explain => exact ⟨h, congrArg Reply.explain h.explain_eq.symm⟩
  | setRecords records =>
    exact ⟨(h.setRecords records).1, congrArg Reply.setRecords (h.setRecords records).2⟩

/-- **A sequence of calls keeps the invariant and replies alike.** -/
theorem reflects_run (h : Reflects s r) (operations : List Operation) :
    Reflects (s.run operations).1 (r.run operations).1 ∧
      (s.run operations).2 = (r.run operations).2 := by
  induction operations generalizing s r with
  | nil => exact ⟨h, rfl⟩
  | cons operation rest ih =>
    obtain ⟨hafter, hreply⟩ := reflects_perform h operation
    obtain ⟨hlast, hreplies⟩ := ih hafter
    refine ⟨hlast, ?_⟩
    rw [run, Recomputation.run, hreply, hreplies]

/-! ## From compilation on -/

variable {registry : Registry} {config : Config} {records : List Json} {request : Request}

/-- **What a compiled session holds**: each part comes from the part before it. -/
theorem compile_eq_ok (h : compile registry config records request = .ok s) :
    request.options.validate = .ok () ∧
    Normalized.ofQuery (operators config request.options) request.query = .ok s.normalized ∧
    Token.resolveAll request.bindings config.defaultBindings s.normalized.tokens = .ok s.bound ∧
    Group.build config (isScalar records) s.bound = .ok s.root ∧
    s = { request, normalized := s.normalized, bound := s.bound, config, registry,
          scalar := isScalar records, root := s.root, records, memo := none } := by
  obtain ⟨_, hvalid, h⟩ := exists_of_bind_eq_ok h
  obtain ⟨normalized, hnormalized, h⟩ := exists_of_bind_eq_ok h
  obtain ⟨bound, hbound, h⟩ := exists_of_bind_eq_ok h
  obtain ⟨root, hroot, h⟩ := exists_of_bind_eq_ok h
  obtain rfl := Except.ok.inj h
  exact ⟨hvalid, hnormalized, hbound, hroot, rfl⟩

/-- **A compiled session has a session without memory beside it.** -/
theorem exists_reflects_of_compile (h : compile registry config records request = .ok s) :
    ∃ r, Recomputation.compile registry config records request = .ok r ∧ Reflects s r := by
  obtain ⟨hvalid, hnormalized, hbound, hroot, hs⟩ := compile_eq_ok h
  let r : Recomputation :=
    { options := request.options, bound := s.bound, config, registry, records,
      shape := isScalar records }
-- nothing is remembered yet, so that the recomputation begins with the same tree
  have htree : r.tree = .ok s.root := hroot
  have hcompile : Recomputation.compile registry config records request =
      r.tree >>= fun _ => Pure.pure r := by
    rw [Recomputation.compile, hvalid, hnormalized]
    show Token.resolveAll _ _ _ >>= _ = _
    rw [hbound]
    rfl
  rw [hs]
  refine ⟨r, by rw [hcompile, htree]; rfl, ?_⟩
  exact {
    options := rfl
    bound := rfl
    config := rfl
    registry := rfl
    records := rfl
    shape := rfl
    tree := htree
    memo := fun indices hmemo => by cases hmemo }

/-- A refused change of records leaves the session as it was, its matches included. -/
theorem setRecords_of_error {records : List Json} {e : Error}
    (h : (s.setRecords records).2 = .error e) : (s.setRecords records).1 = s := by
  unfold setRecords at h ⊢
  dsimp only at h ⊢
  split
  next hflip =>
    rw [if_pos hflip] at h
    cases hbuild : Group.build s.config (isScalar records) s.bound with
    | ok root => rw [hbuild] at h; cases h
    | error e' => rfl
  next hsame =>
    rw [if_neg hsame] at h
    cases h

/-- **Sessions cannot be told from recomputation**: after every sequence of calls all replies are
those of a session without memory, and the tree, the shape, the records and the remembered matches
are as recomputing gives them. Remembered indices are valid, a refused change of records changes
nothing, and no records keep the shape. -/
theorem run_eq_recomputed (h : compile registry config records request = .ok s)
    (operations : List Operation) :
    ∃ r last replies, Recomputation.compile registry config records request = .ok r ∧
      s.run operations = (last, replies) ∧ (r.run operations).2 = replies ∧
      Reflects last (r.run operations).1 ∧
      (∀ indices, last.memo = some indices → ∀ i ∈ indices, i < last.records.length) ∧
      (∀ records e, (last.setRecords records).2 = .error e →
        (last.setRecords records).1 = last) ∧
      (last.setRecords []).1.scalar = last.scalar := by
  obtain ⟨r, hcompile, hreflects⟩ := exists_reflects_of_compile h
  obtain ⟨hlast, hreplies⟩ := reflects_run hreflects operations
  refine ⟨r, _, _, hcompile, rfl, hreplies.symm, hlast, ?_, ?_, rfl⟩
  · intro indices hmemo
    exact hlast.lt_length hmemo
  · intro records e herror
    exact setRecords_of_error herror

/-! ### A session whose tokens compile for scalar records only -/

/-- A predicate that tests presence. -/
def presence : Registry := ⟨[(⟨"builtin", "tests", "present"⟩, fun value _ _ => .ok value.isSome)]⟩

/-- Calls between which the shape of the records would change. -/
def sampleOperations : List Operation :=
  [.results, .setRecords [.object []], .results, .setRecords [], .explain, .matching]

/-- The case of a run with replaced records. -/
theorem run_eq_recomputed_sample :
    ∃ s, compile presence {} [.bool true] (Request.ofQuery "present") = .ok s ∧
      ∃ r last replies,
        Recomputation.compile presence {} [.bool true] (Request.ofQuery "present") = .ok r ∧
        s.run sampleOperations = (last, replies) ∧ (r.run sampleOperations).2 = replies ∧
        Reflects last (r.run sampleOperations).1 ∧
        (∀ indices, last.memo = some indices → ∀ i ∈ indices, i < last.records.length) ∧
        (∀ records e, (last.setRecords records).2 = .error e →
          (last.setRecords records).1 = last) ∧
        (last.setRecords []).1.scalar = last.scalar := by
  have hok : (compile presence {} [.bool true] (Request.ofQuery "present")).isOk = true := by
    decide +kernel
  cases h : compile presence {} [.bool true] (Request.ofQuery "present") with
  | error e => rw [h] at hok; cases hok
  | ok s => exact ⟨s, rfl, run_eq_recomputed h sampleOperations⟩

end Session

end RecordFilter
