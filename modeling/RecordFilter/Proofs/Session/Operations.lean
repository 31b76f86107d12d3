import RecordFilter.Proofs.Evaluation.Traced
import RecordFilter.Proofs.Session.Recomputation

/-!
# Sessions as traced computations

Predicates are called in traced computations only. Here all that is done with a session is traced,
compiling and other records as well: each step of it could call predicates, so that it is a fact
about these computations which of them do.

* `Session.compiling`, `Session.replacing`, `Session.explaining` — compiling a request, putting
  other records in place and showing the tree.
* `Session.compiling_eq_ofExcept`, `Session.replacing_eq` — **they call nothing**, and give what
  they give untraced.
* `Session.operate`, `Session.calls` — one call of a session with the predicate calls that it makes;
  `Session.operate_eq_perform` — otherwise it is that call.
-/

namespace RecordFilter

namespace Traced

variable {α β : Type}

/-- A result or an error may stand for a step of a traced computation. -/
instance : MonadLift (Except Error) Traced := ⟨ofExcept⟩

/-- A sequence of steps without calls has none. -/
theorem ofExcept_bind (x : Except Error α) (f : α → Except Error β) :
    ofExcept (x >>= f) = ofExcept x >>= fun a => ofExcept (f a) := by
  cases x with
  | error e => rfl
  | ok a => exact (bind_of_ok (x := ofExcept (.ok a)) rfl fun a => ofExcept (f a)).symm

/-- What comes of a computation as a part of a reply. -/
def reply (x : Traced α) (wrap : Except Error α → Reply) : Traced Reply :=
  ⟨x.calls, .ok (wrap x.outcome)⟩

end Traced

namespace Session

variable {s : Session}

/-! ## Steps that could call predicates -/

/-- **Compiling a request**, where each step could call predicates. -/
def compiling (registry : Registry) (config : Config) (records : List Json) (request : Request) :
    Traced Session := do
  request.options.validate
  let normalized ← Normalized.ofQuery (operators config request.options) request.query
  let bound ← Token.resolveAll request.bindings config.defaultBindings normalized.tokens
  let scalar := isScalar records
  let root ← Group.build config scalar bound
  return {
    request, normalized, bound, config, registry, scalar, root, records
    memo := none }

/-- **Compiling calls nothing.** -/
theorem compiling_eq_ofExcept (registry : Registry) (config : Config) (records : List Json)
    (request : Request) :
    compiling registry config records request =
      Traced.ofExcept (compile registry config records request) := by
  unfold compiling compile
  simp only [Traced.ofExcept_bind]
  rfl

/-- **Putting other records in place**, where compiling the tree could call predicates. -/
def replacing (s : Session) (records : List Json) : Session × Traced Unit :=
  let scalar := isScalar records
  if !records.isEmpty && scalar != s.scalar then
    let run : Traced Group := liftM (Group.build s.config scalar s.bound)
    match run.outcome with
    | .ok root => ({ s with root, scalar, records, memo := none }, do let _ ← run)
    | .error _ => (s, do let _ ← run)
  else ({ s with records, memo := none }, return ())

/-- **Other records call nothing.** -/
theorem replacing_eq (s : Session) (records : List Json) :
    s.replacing records =
      ((s.setRecords records).1, Traced.ofExcept (s.setRecords records).2) := by
  unfold replacing setRecords
  dsimp only
  split
  · cases Group.build s.config (isScalar records) s.bound with
    | ok root => rfl
    | error e => rfl
  · rfl

/-- Showing the tree. -/
def explaining (s : Session) : Traced String := return s.explain

/-! ## One call -/

/-- **One call of a session** with the predicate calls that it makes. -/
def operate (s : Session) : Operation → Session × Traced Reply
  | .results => (s.results.1, s.results.2.reply .results)
  | .matching => (s.matching.1, s.matching.2.reply .matching)
  | .explain => (s, s.explaining.reply .explain)
  | .setRecords records => ((s.replacing records).1, (s.replacing records).2.reply .setRecords)

/-- **The predicate calls of one call of a session.** -/
def calls (s : Session) (operation : Operation) : List Call := (s.operate operation).2.calls

/-- **But for its predicate calls** it is a call of the session. -/
theorem operate_eq_perform (s : Session) (operation : Operation) :
    s.operate operation =
      ((s.perform operation).1, ⟨s.calls operation, .ok (s.perform operation).2⟩) := by
  cases operation with
  | results | matching | explain => rfl
  | setRecords records =>
    rw [operate, calls, operate, perform, replacing_eq]
    rfl

/-- Showing the tree calls nothing. -/
theorem calls_explain (s : Session) : s.calls .explain = [] := rfl

/-- Nor does putting other records in place, whether they are accepted or not. -/
theorem calls_setRecords (s : Session) (records : List Json) :
    s.calls (.setRecords records) = [] := by
  rw [calls, operate, replacing_eq]
  rfl

end Session

end RecordFilter
