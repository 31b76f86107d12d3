import RecordFilter.Pattern.Syntax

/-!
# Matching

* `Assertion.holds` — a condition at a position of a text.
* `Regex.ends` — the positions where matches end that begin at one of the given positions; sets of
  positions ascend.
* `Regex.matchesAt`, `Regex.occursIn` — whether a match begins at a position, or anywhere.
-/

namespace RecordFilter.Pattern

/-- Whether the condition holds between the characters before and from `position` on. -/
def Assertion.holds (text : Array Char) (position : Nat) (condition : Assertion) : Bool :=
  let before := if position = 0 then none else text[position - 1]?
  let after := text[position]?
  match condition with
  | .textStart => position == 0
  | .textEnd => position == text.size
  | .lineStart => before.all (· == '\n')
  | .lineEnd => after.all (· == '\n')
  | .lineStartCrlf => before.all fun c => c == '\n' || (c == '\r' && after != some '\n')
  | .lineEndCrlf => after.all fun c => c == '\r' || (c == '\n' && before != some '\r')
  | .boundary word => before.any word != after.any word
  | .noBoundary word => before.any word == after.any word
  | .wordStart word => !before.any word && after.any word
  | .wordEnd word => before.any word && !after.any word
  | .wordStartHalf word => !before.any word
  | .wordEndHalf word => !after.any word

/-- The union of two ascending lists of positions. -/
def mergePositions : List Nat → List Nat → List Nat
  | [], right => right
  | left, [] => left
  | a :: as, b :: bs =>
    if a < b then a :: mergePositions as (b :: bs)
    else if b < a then b :: mergePositions (a :: as) bs
    else a :: mergePositions as bs
termination_by left right => left.length + right.length

/-- `count` steps from a set of positions. -/
def iterate (step : List Nat → List Nat) : (count : Nat) → List Nat → List Nat
  | 0, positions => positions
  | count + 1, positions => iterate step count (step positions)

/-- The positions reached by at most `count` steps; it ends early when nothing is new. -/
def reach (step : List Nat → List Nat) : (count : Nat) → List Nat → List Nat
  | 0, positions => positions
  | count + 1, positions =>
    let wider := mergePositions positions (step positions)
    if wider.length = positions.length then positions else reach step count wider

namespace Regex

/-- **Where matches end** that begin at one of the positions. A text has one position more than
characters, so that many rounds reach everything that any number of repetitions can. -/
def ends (text : Array Char) : Regex → List Nat → List Nat
  | .empty, positions => positions
  | .chars set, positions =>
    (positions.filter fun p => text[p]?.any set).map (· + 1)
  | .assertion condition, positions => positions.filter fun p => condition.holds text p
  | .seq first second, positions => second.ends text (first.ends text positions)
  | .either left right, positions =>
    mergePositions (left.ends text positions) (right.ends text positions)
  | .times body least most, positions =>
    let required := iterate (body.ends text) least positions
    match most with
    | some most => reach (body.ends text) (most - least) required
    | none => reach (body.ends text) (text.size + 1) required

/-- **Whether a match begins anywhere in a text.** -/
def occursIn (r : Regex) (text : Array Char) : Bool :=
  !(r.ends text (List.range (text.size + 1))).isEmpty

end Regex

end RecordFilter.Pattern
