import RecordFilter.Error
import RecordFilter.Text.Separated
import RecordFilter.Text.Whitespace

/-!
# Configuration

What all queries of one engine share: operator literals, the namespaces of predicate names and named
values.

* `Config` — the settings, with their defaults.
* `Config.validate` — the first rule that a configuration breaks, if any.
-/

namespace RecordFilter

/-- The settings that all queries share. -/
structure Config where
  /-- Literals for "all items". -/
  andOps : List String := ["and", "AND", "&&"]
  /-- Literals for "any item". -/
  orOps : List String := ["or", "OR", "||"]
  /-- The two parts before an unqualified predicate name. -/
  defaultNamespace : String := "builtin.tests"
  /-- Short prefixes and the two parts that each stands for. -/
  prefixes : Dict String := [("x", "sift.extra")]
  /-- Named values that every query can use. -/
  defaultBindings : Dict Json := []

namespace Config

/-! ## Rules -/

/-- A text of two non-empty parts with one dot between them. -/
def isTwoParts (text : String) : Bool :=
  match Text.splitFirst? '.' text.toList with
  | some (first, second) => !first.isEmpty && !second.isEmpty && !second.contains '.'
  | none => false

/-- A literal that can be an operator: not empty, and without whitespace. -/
def isOperator (literal : String) : Bool := !literal.isEmpty && !Text.hasWhitespace literal

/-- A prefix without dots that stands for a namespace of two parts. -/
def isPrefixEntry (entry : String × String) : Bool :=
  !entry.1.isEmpty && !entry.1.toList.contains '.' && isTwoParts entry.2

/-- **The rules of a configuration**, in the order in which they are checked. -/
def fault? (config : Config) : Option ConfigFault :=
  if config.andOps.isEmpty || config.orOps.isEmpty then some .noOperators
  else
    match config.andOps.find? fun op => config.orOps.contains op with
    | some op => some (.sharedOperator op)
    | none =>
      if !(config.andOps ++ config.orOps).all isOperator then some .malformedOperator
      else if !isTwoParts config.defaultNamespace then
        some (.malformedNamespace config.defaultNamespace)
      else
        match List.find? (fun entry => !isPrefixEntry entry) config.prefixes with
        | some (short, text) => some (.malformedPrefix short text)
        | none => none

/-- A configuration that keeps all rules, or the first fault. -/
def validate (config : Config) : Except Error Config :=
  match config.fault? with
  | some fault => .error (.config fault)
  | none => .ok config

end Config

end RecordFilter
