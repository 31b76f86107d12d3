import RecordFilter.Pattern.Engine
import RecordFilter.Predicate.Comparison

/-!
# Pattern predicates

Predicates that test a value with a regular expression, given an engine of regular expressions.

* `program` — the expression of a text, or the complaint about it.
* `patternTest` — the common part: the pattern is the first argument, the keyword arguments
  `ignorecase` and `multiline` are settings; strings and the texts of numbers are tested.
* `isMatch`, `isFound` — the expression matches at the start, or anywhere.
-/

namespace RecordFilter.Standard

open RecordFilter.Pattern

/-- The text of a pattern argument: a string as it is, other values as JSON. -/
def patternText : Json → String
  | .string text => text
  | value => value.compact

/-- The text of a value that patterns are tested on: strings and numbers have one. -/
def subjectText? : Json → Option String
  | .string text => some text
  | .number n => some n.text
  | _ => none

/-- The settings that the keyword arguments ask for. -/
def patternSettings (kwargs : Dict Json) : Settings :=
  { ignoreCase := flag kwargs "ignorecase" false, multiLine := flag kwargs "multiline" false }

variable (engine : Engine)

/-- **The expression of a text**, if it is one and its program is not too large. -/
def program (settings : Settings) (text : String) : Except PredicateFault engine.Expr :=
  match engine.read settings text with
  | .error _ => .error .badPattern
  | .ok e => if engine.fits e then .ok e else .error .largePattern

/-- **A test with a regular expression.** The pattern is read before the value is looked at. Where
it has to match at the start it is read as the inside of a group after `^`. -/
def patternTest (atStart : Bool) : Predicate := fun value args kwargs => do
  let pattern := patternText (← argument args 0 "match")
  let text := if atStart then anchoredText pattern else pattern
  let e ← program engine (patternSettings kwargs) text
  return (value.bind subjectText?).any fun subject => engine.found e subject.toList.toArray

/-- The expression matches at the start; with `multiline`, at the start of a line. -/
def isMatch : Predicate := patternTest engine true

/-- The expression matches somewhere. -/
def isFound : Predicate := patternTest engine false

end RecordFilter.Standard
