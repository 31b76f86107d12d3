import RecordFilter.Query.Parens
import RecordFilter.Query.Piece

/-!
# Normalized queries

From the text of a query to a token list that is one group and has no redundant parentheses.

* `Normalized` — the tokens, and whether their outer parentheses were added.
* `Normalized.ofQuery` — the tokens of a text, or the first reason why it has none: nothing in it,
  parentheses or backticks that do not pair, an ill-formed marker.
-/

namespace RecordFilter

/-- A query as one group of tokens. -/
structure Normalized where
  tokens : List Token
  /-- Whether the outer parentheses were added. -/
  wrapped : Bool
  deriving DecidableEq, Repr

namespace Normalized

/-- The number of runs of backticks in a text; `inRun` tells whether one goes on at its head. -/
def backtickRunsFrom : (inRun : Bool) → List Char → Nat
  | _, [] => 0
  | inRun, c :: rest =>
    if c = '`' then (if inRun then 0 else 1) + backtickRunsFrom true rest
    else backtickRunsFrom false rest

/-- The number of runs of backticks in a text. -/
def backtickRuns (cs : List Char) : Nat := backtickRunsFrom false cs

/-- **The tokens of a query as one group.** -/
def ofQuery (ops : Operators) (query : String) : Except Error Normalized :=
  if Text.isBlank query then .error .emptyQuery
  else if !Parens.balanced query.toList then .error (.unbalancedParens (.inQuery query))
  else if backtickRuns query.toList % 2 ≠ 0 then .error (.oddBackticks query)
  else
    match Token.scan ops query with
    | .error e => .error e
    | .ok [] => .error .emptyQuery
    | .ok tokens =>
      let stripped := (Token.stripParens tokens).2
      .ok ⟨Token.enclose stripped, !Token.isGroup stripped⟩

/-- The canonical text of the tokens. -/
def text (n : Normalized) : String := Token.render n.tokens

end Normalized

end RecordFilter
