import RecordFilter.Query.Builder
import RecordFilter.Query.Evaluation
import RecordFilter.Query.Normalized
import RecordFilter.Query.Request

/-!
# Sessions

A compiled query on its records. Compiling meets every error that does not depend on a predicate;
the matches of the current records are remembered.

* `Session` — the compiled query, its records and the remembered matches.
* `Session.compile` — the session of a request, or the first error.
* `Session.setRecords` — other records; the tree is compiled anew when records change between
  objects and scalars.
* `Session.matching`, `Session.results` — the matching records, and the answer that the options ask
  for.
-/

namespace RecordFilter

/-- Scalar records: there are some, and none is an object. Clauses then test whole records. -/
def isScalar (records : List Json) : Bool := !records.isEmpty && records.all fun r => !r.isObject

/-- A compiled query on its records. -/
structure Session where
  request : Request
  normalized : Normalized
  /-- The resolved tokens, from which the tree can be compiled anew. -/
  bound : List Bound
  config : Config
  registry : Registry
  /-- Whether clauses test whole records. -/
  scalar : Bool
  root : Group
  records : List Json
  /-- The matching indices among the current records, once they are known. -/
  memo : Option (List Nat)

/-- The answer of a query. -/
inductive Selection where
  /-- All matching records, projected. -/
  | many (values : List Json)
  /-- The first matching record, projected. -/
  | one (value : Json)
  /-- The default value. -/
  | default (value : Json)

/-- The value of an answer. -/
def Selection.value : Selection → Json
  | .many values => .array values
  | .one v | .default v => v

namespace Session

/-! ## Compiling -/

/-- The operator literals in effect: those of the options, else those of the configuration. -/
def operators (config : Config) (options : Options) : Operators :=
  ⟨options.opAnd.getD config.andOps, options.opOr.getD config.orOps⟩

/-- **Compiles a request.** Options are checked first, then the text, the bindings and the
clauses. -/
def compile (registry : Registry) (config : Config) (records : List Json) (request : Request) :
    Except Error Session := do
  request.options.validate
  let normalized ← Normalized.ofQuery (operators config request.options) request.query
  let bound ← Token.resolveAll request.bindings config.defaultBindings normalized.tokens
  let scalar := isScalar records
  let root ← Group.build config scalar bound
  return {
    request, normalized, bound, config, registry, scalar, root, records
    memo := none }

/-! ## Records -/

/-- **Puts other records in place** and forgets the matches. If the records change between objects
and scalars the tree is compiled for them; when that fails the session stays as it is. No records
keep the present reading. -/
def setRecords (s : Session) (records : List Json) : Session × Except Error Unit :=
  let scalar := isScalar records
  if !records.isEmpty && scalar != s.scalar then
    match Group.build s.config scalar s.bound with
    | .ok root => ({ s with root, scalar, records, memo := none }, .ok ())
    | .error e => (s, .error e)
  else ({ s with records, memo := none }, .ok ())

/-! ## Answers -/

/-- The matching indices, remembered or evaluated, and the session that remembers them. With the
option `first` they are the first one at most. -/
def matchingIndices (s : Session) : Session × Traced (List Nat) :=
  match s.memo with
  | some indices => (s, Traced.pure indices)
  | none =>
    let run := s.root.evaluate s.registry s.request.options.first s.records
    match run.outcome with
    | .ok indices => ({ s with memo := some indices }, run)
    | .error _ => (s, run)

/-- The records at indices. -/
def recordsAt (s : Session) (indices : List Nat) : List Json :=
  indices.filterMap fun i => s.records[i]?

/-- **The matching records**, as they are. -/
def matching (s : Session) : Session × Traced (List Json) :=
  let (s, run) := s.matchingIndices
  (s, do
    let indices ← run
    return s.recordsAt indices)

/-- A record as the options project it. -/
def project (s : Session) (record : Json) : Json :=
  match s.request.options.pluck with
  | some pluck => pluck.project record
  | none => record

/-- The answer for matching records. -/
def select (s : Session) (hits : List Json) : Selection :=
  match hits with
  | [] => .default s.request.options.default
  | hit :: _ =>
    if s.request.options.first then .one (s.project hit) else .many (hits.map s.project)

/-- **The answer of the query** as its options ask for it; without records it is the default, and
nothing is evaluated. -/
def results (s : Session) : Session × Traced Selection :=
  if s.records.isEmpty then (s, Traced.pure (.default s.request.options.default))
  else
    let (s, run) := s.matching
    (s, do
      let hits ← run
      return s.select hits)

/-- The tree as text. -/
def explain (s : Session) : String := s.root.explain

end Session

end RecordFilter
