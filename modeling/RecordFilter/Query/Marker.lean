import RecordFilter.Error
import RecordFilter.Text.Alphanumeric

/-!
# Binding markers

The words that stand for bound values: `?` for the next positional value and `:name` for a named
one, where several leading colons count as one.

* `Marker.ofWord?` — the marker that a word is, if any; a word that starts like a named marker but
  has an ill-formed name is an error.
-/

namespace RecordFilter

/-- A binding marker. -/
inductive Marker where
  | positional
  | named (name : String)
  deriving DecidableEq, Repr

namespace Marker

/-- What follows the leading colons of a word. -/
def nameAfterColons (word : List Char) : List Char := word.dropWhile (· == ':')

/-- **The marker that a word is.** A word of colons only is no marker, nor is one that does not
start with a colon. -/
def ofWord? (word : String) : Except Error (Option Marker) :=
  if word = "?" then .ok (some .positional)
  else
    let cs := word.toList
    let name := nameAfterColons cs
    if name.length = cs.length ∨ name = [] then .ok none
    else if name.all Text.isNameChar then .ok (some (.named (String.ofList name)))
    else .error (.invalidMarker word)

end Marker

end RecordFilter
