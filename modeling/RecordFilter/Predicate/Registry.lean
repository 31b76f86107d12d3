import RecordFilter.Predicate.Resolution

/-!
# Registries

Predicates under their qualified names. The engine has none of its own: a host registers them and
hands the registry to every query.

* `Predicate` — a test of an optional value with arguments; it answers or fails.
* `Registry.register`, `Registry.resolve`, `Registry.invoke` — store, find and call predicates.
* `Registry.names` — the names, ascending.
-/

namespace RecordFilter

/-- A named test. The value is absent where a record lacks the attribute; then come the positional
and the keyword arguments. -/
abbrev Predicate := Option Json → List Json → Dict Json → Except PredicateFault Bool

/-- Predicates under their names, in ascending order of names. -/
structure Registry where
  entries : List (PredicateName × Predicate) := []

namespace Registry

/-- A registry without predicates. -/
def empty : Registry := {}

/-- Sets the predicate of a name among entries in order. -/
def insertEntry (name : PredicateName) (predicate : Predicate) :
    List (PredicateName × Predicate) → List (PredicateName × Predicate)
  | [] => [(name, predicate)]
  | entry :: rest =>
    if name = entry.1 then (name, predicate) :: rest
    else if name.lt entry.1 then (name, predicate) :: entry :: rest
    else entry :: insertEntry name predicate rest

/-- The registry with a predicate under a name. -/
def insert (r : Registry) (name : PredicateName) (predicate : Predicate) : Registry :=
  ⟨insertEntry name predicate r.entries⟩

/-- **Registers a predicate** under a qualified name; it replaces an earlier one of that name. -/
def register (r : Registry) (name : String) (predicate : Predicate) : Except Error Registry :=
  match PredicateName.qualified name with
  | .ok name => .ok (r.insert name predicate)
  | .error e => .error e

/-- The predicate of a name. -/
def find? (r : Registry) (name : PredicateName) : Option Predicate :=
  (r.entries.find? fun entry => entry.1 = name).map (·.2)

/-- The predicate of a name, or the error that there is none. -/
def resolve (r : Registry) (name : PredicateName) : Except Error Predicate :=
  match r.find? name with
  | some predicate => .ok predicate
  | none => .error (.unknownPredicate name)

/-- **Calls a predicate**; its failure carries the name. -/
def invoke (r : Registry) (name : PredicateName) (value : Option Json) (args : List Json)
    (kwargs : Dict Json) : Except Error Bool :=
  match r.resolve name with
  | .error e => .error e
  | .ok predicate => (predicate value args kwargs).mapError (.predicate name)

/-- Whether a name has a predicate. -/
def contains (r : Registry) (name : PredicateName) : Bool := (r.find? name).isSome

/-- The number of names. -/
def size (r : Registry) : Nat := r.entries.length

/-- Whether there is no predicate. -/
def isEmpty (r : Registry) : Bool := r.entries.isEmpty

/-- The names, ascending. -/
def names (r : Registry) : List PredicateName := r.entries.map (·.1)

end Registry

end RecordFilter
