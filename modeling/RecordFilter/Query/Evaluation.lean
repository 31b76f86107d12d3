import RecordFilter.Predicate.Registry
import RecordFilter.Query.Group

/-!
# Evaluation

Which records a tree matches. Items are evaluated one after the other, each on the candidates that
the items before it left undecided, so that no predicate is called where it could not matter.

* `Call`, `Traced` — a predicate call, and a computation with the calls that it made.
* `Item.select` — the candidates that an item matches, in order.
* `Group.matching`, `Group.first` — all matching records, or the first one when records are taken
  one at a time.
* `Group.evaluate` — either, after every predicate of the tree has been found.
-/

namespace RecordFilter

/-! ## Calls -/

/-- A record with its position. -/
structure Candidate where
  index : Nat
  record : Json

/-- A call of a predicate: the clause that made it and the value that it tested. -/
structure Call where
  clause : Clause
  index : Nat
  value : Option Json

/-- A computation that calls predicates: the calls in order, and what came of it. -/
structure Traced (α : Type) where
  calls : List Call
  outcome : Except Error α

namespace Traced

variable {α β : Type}

/-- A result without calls. -/
def pure (a : α) : Traced α := ⟨[], .ok a⟩

/-- An error without calls. -/
def fail (e : Error) : Traced α := ⟨[], .error e⟩

/-- A result or an error, without calls. -/
def ofExcept (x : Except Error α) : Traced α := ⟨[], x⟩

/-- One computation, then the next on its result; after an error nothing is called. -/
def bind (x : Traced α) (f : α → Traced β) : Traced β :=
  match x.outcome with
  | .error e => ⟨x.calls, .error e⟩
  | .ok a =>
    let y := f a
    ⟨x.calls ++ y.calls, y.outcome⟩

/-- One traced computation after another: the calls of the second follow those of the first, and a
failure ends both. -/
instance : Monad Traced where
  pure := pure
  bind := bind

end Traced

/-! ## Clauses -/

section

variable (registry : Registry)

/-- Whether a clause holds of a candidate: one call. -/
def Clause.test (predicate : Predicate) (clause : Clause) (c : Candidate) : Traced Bool :=
  let value := clause.subject.lookup c.record
  { calls := [⟨clause, c.index, value⟩]
    outcome :=
      match predicate value clause.args clause.kwargs with
      | .ok answer => .ok (answer != clause.negate)
      | .error fault => .error (.predicate clause.predicate fault) }

/-- The candidates of which a clause holds, tested in order. -/
def Clause.filter (predicate : Predicate) (clause : Clause) :
    List Candidate → Traced (List Candidate)
  | [] => Traced.pure []
  | c :: rest => do
    let holds ← clause.test predicate c
    let hits ← Clause.filter predicate clause rest
    return if holds then c :: hits else hits

/-- The candidates that a clause matches. -/
def Clause.select (clause : Clause) (candidates : List Candidate) : Traced (List Candidate) :=
  match registry.resolve clause.predicate with
  | .ok predicate => clause.filter predicate candidates
  | .error e => Traced.fail e

/-! ## Items and groups -/

/-- The candidates without those of a list. -/
def Candidate.without (candidates hits : List Candidate) : List Candidate :=
  candidates.filter fun c => !(hits.any fun hit => hit.index == c.index)

mutual

/-- **The candidates that an item matches**, in order. -/
def Item.select : Item → List Candidate → Traced (List Candidate)
  | .clause c, candidates => c.select registry candidates
  | .group _ .all items, candidates => Item.narrow items candidates
  | .group _ .any items, candidates => do
    let left ← Item.exhaust items candidates
    return Candidate.without candidates left

/-- The candidates that all items match: each item sees what the items before it kept. -/
def Item.narrow : List Item → List Candidate → Traced (List Candidate)
  | [], candidates => Traced.pure candidates
  | item :: rest, candidates =>
    if candidates.isEmpty then Traced.pure candidates
    else do
      let kept ← item.select candidates
      Item.narrow rest kept

/-- The candidates that no item matches: each item sees what no item before it matched. -/
def Item.exhaust : List Item → List Candidate → Traced (List Candidate)
  | [], candidates => Traced.pure candidates
  | item :: rest, candidates =>
    if candidates.isEmpty then Traced.pure candidates
    else do
      let hits ← item.select candidates
      Item.exhaust rest (Candidate.without candidates hits)

end

namespace Candidate

/-- Records with their positions. -/
def ofRecords (records : List Json) : List Candidate :=
  records.zipIdx.map fun (record, index) => ⟨index, record⟩

end Candidate

namespace Group

/-- **The indices of all matching records**, ascending. -/
def matching (g : Group) (records : List Json) : Traced (List Nat) := do
  let hits ← g.toItem.select registry (Candidate.ofRecords records)
  return hits.map (·.index)

/-- The first candidate that matches when candidates are tested one at a time. -/
def firstOf (g : Group) : List Candidate → Traced (Option Nat)
  | [] => Traced.pure none
  | c :: rest => do
    let hits ← g.toItem.select registry [c]
    if hits.isEmpty then firstOf g rest else return some c.index

/-- **The index of the first matching record**, tested one at a time. -/
def first (g : Group) (records : List Json) : Traced (Option Nat) :=
  g.firstOf registry (Candidate.ofRecords records)

/-- The error that a clause names a predicate that is not registered: of the first such clause. -/
def unresolved? (g : Group) : Option Error :=
  (g.clauses.find? fun clause => !registry.contains clause.predicate).map fun clause =>
    .unknownPredicate clause.predicate

/-- **Evaluation**: every predicate of the tree is found before a record is tested; without records
nothing is looked for. -/
def evaluate (g : Group) (onlyFirst : Bool) (records : List Json) : Traced (List Nat) :=
  match if records.isEmpty then none else g.unresolved? registry with
  | some e => Traced.fail e
  | none =>
    if onlyFirst then do
      let hit ← g.first registry records
      return hit.toList
    else g.matching registry records

end Group

end

end RecordFilter
