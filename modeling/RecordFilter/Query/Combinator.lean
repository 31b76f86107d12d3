/-!
# Combinators

How the items of a group combine. Operators in a query, and tokens for them, name a combinator.

* `Combinator` — all items have to match, or any item.
* `Combinator.name`, `Combinator.operator` — the combinator and its canonical operator as words.
-/

namespace RecordFilter

/-- How the items of a group combine. -/
inductive Combinator where
  /-- Every item has to match. -/
  | all
  /-- One matching item is enough. -/
  | any
  deriving DecidableEq, Repr

namespace Combinator

/-- The word for the combinator. -/
def name : Combinator → String
  | .all => "all"
  | .any => "any"

/-- The canonical operator that stands for the combinator in a query. -/
def operator : Combinator → String
  | .all => "and"
  | .any => "or"

end Combinator

end RecordFilter
