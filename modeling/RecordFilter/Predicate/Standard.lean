import RecordFilter.Predicate.Matching

/-!
# Standard predicates

The predicates of the command line, under their names.

* `Standard.testsWith`, `Standard.entriesWith`, `Standard.registryWith` — names and predicates, and
  all of them registered, with patterns left to an engine of regular expressions.
* `Standard.tests`, `Standard.registry` — the same with the engine at hand.
-/

namespace RecordFilter.Standard

open RecordFilter.Pattern

section

variable (engine : Engine)

/-- Leaves in `builtin.tests` with their predicates. -/
def testsWith : List (String × Predicate) := [
  ("equals", equals), ("eq", equals), ("==", equals),
  ("ne", differs), ("!=", differs),
  ("greaterthan", compares (· == .gt)), ("gt", compares (· == .gt)), (">", compares (· == .gt)),
  ("ge", compares (· != .lt)), (">=", compares (· != .lt)),
  ("lessthan", compares (· == .lt)), ("lt", compares (· == .lt)), ("<", compares (· == .lt)),
  ("le", compares (· != .gt)), ("<=", compares (· != .gt)),
  ("in", isIn), ("contains", contains),
  ("match", isMatch engine), ("search", isFound engine),
  ("startswith", startsWith), ("endswith", endsWith),
  ("defined", defined), ("none", isNone), ("truthy", truthy)]

/-- All standard predicates with their names. -/
def entriesWith : List (PredicateName × Predicate) :=
  (testsWith engine).map (fun (leaf, predicate) => (⟨"builtin", "tests", leaf⟩, predicate)) ++
    [(⟨"sift", "extra", "between"⟩, between)]

/-- **The standard registry** over an engine of regular expressions. -/
def registryWith : Registry :=
  (entriesWith engine).foldl (fun r (name, predicate) => r.insert name predicate) Registry.empty

end

/-- Leaves in `builtin.tests` with their predicates, over the engine at hand. -/
def tests : List (String × Predicate) := testsWith Regex.engine

/-- **The standard registry.** -/
def registry : Registry := registryWith Regex.engine

end RecordFilter.Standard
