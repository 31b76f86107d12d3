import RecordFilter.Pattern.Matching
import RecordFilter.Pattern.Reader

/-!
# Engines of regular expressions

Predicates know regular expressions only through an engine: it reads a text as an expression, says
whether the program of the expression is small enough, and searches a text for a match.

* `Engine` — what an engine offers, and the notions its documentation is written in.
* `anchoredText` — a text as the inside of a group behind `^`.
* `Regex.engine` — the engine at hand.
-/

namespace RecordFilter.Pattern

/-! ## Engines -/

/-- What is set before a text is read as an expression. -/
structure Settings where
  /-- Case does not matter. -/
  ignoreCase : Bool := false
  /-- `^` and `$` match at line breaks. -/
  multiLine : Bool := false

/-- Why a text is refused as an expression. -/
inductive SyntaxFault where
  /-- A parenthesis that closes no group. -/
  | unopenedGroup
  /-- Parts are nested deeper in each other than is allowed. -/
  | nestLimit
  /-- Any other reason. -/
  | other
  deriving DecidableEq

/-- **An engine of regular expressions.** Predicates use `read`, `fits` and `found`; the other
notions say what expressions are and what they match. -/
structure Engine where
  /-- Expressions as they are read, with the settings in effect. -/
  Expr : Type
  /-- A text as an expression. -/
  read : Settings → String → Except SyntaxFault Expr
  /-- Whether the program of an expression keeps to the limit of size. -/
  fits : Expr → Bool
  /-- Whether a text has a match of the expression. -/
  found : Expr → Array Char → Bool
  /-- The expression `^`. -/
  hat : Settings → Expr
  /-- A group `(?:…)` of an expression. -/
  group : Expr → Expr
  /-- Two expressions, one after the other. -/
  concat : Expr → Expr → Expr
  /-- Whether a text ends inside of a comment, so that what is written behind it is a part of the
  comment. -/
  endsInComment : Settings → String → Bool
  /-- Whether the expression matches a text from one offset to another. -/
  spans : Expr → Array Char → (start stop : Nat) → Bool

/-- A text as the inside of a group behind `^`. -/
def anchoredText (text : String) : String := "^(?:" ++ text ++ ")"

/-! ## The engine at hand -/

/-- The flags to begin with. -/
def Settings.flags (settings : Settings) : Flags :=
  { ignoreCase := settings.ignoreCase, multiLine := settings.multiLine }

namespace Regex

/-- Why a text that is no expression is refused, by what could be read of it if groups nested
without a limit. -/
def fault (f : Flags) (text : String) : SyntaxFault :=
  match readAhead? (250 + text.length) f text.toList with
  | some (_, []) => .nestLimit
  | some (_, _ :: _) => .unopenedGroup
  | none => .other

/-- Whether a text is an expression and a parenthesis behind it is lost. -/
def endsInComment (f : Flags) (text : String) : Bool :=
  (read? f text).isSome && (readAhead? 250 f (text.toList ++ [')'])).any (·.2.isEmpty)

/-- **The engine at hand.** It knows the general categories and scripts but only a few of the other
properties of Unicode, and measures an expression by its parts. -/
abbrev engine : Engine where
  Expr := Regex
  read settings text :=
    match read? settings.flags text with
    | some r => .ok r
    | none => .error (fault settings.flags text)
  fits r := r.size ≤ maxSize
  found r text := r.occursIn text
  hat settings := .assertion settings.flags.lineStart
  group r := r
  concat first second := Reading.sequence [some second, some first]
  endsInComment settings text := endsInComment settings.flags text
  spans r text start stop := (r.ends text [start]).contains stop

end Regex

end RecordFilter.Pattern
