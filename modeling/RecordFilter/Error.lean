import RecordFilter.Json.Printer
import RecordFilter.Predicate.Name
import RecordFilter.Query.GroupPath

/-!
# Errors

Everything that can go wrong, by cause, and the one place where causes become words.

* `Error` — the causes; a fault type for each family with several.
* `Error.message` — the wording.
* `Error.kind` — the cause without its particulars, for statements about which error arises.
-/

namespace RecordFilter

/-! ## Causes -/

/-- Why a configuration is refused. -/
inductive ConfigFault where
  /-- The text is no configuration document; the reader's own words follow. -/
  | unreadable (detail : String)
  /-- A value has no form in a configuration document. -/
  | unwritable (detail : String)
  /-- One of the two operator lists is empty. -/
  | noOperators
  /-- A literal in both operator lists. -/
  | sharedOperator (literal : String)
  /-- An operator that is empty or has whitespace in it. -/
  | malformedOperator
  /-- A default namespace that is not of two parts. -/
  | malformedNamespace (text : String)
  /-- A prefix that is empty or dotted, or whose namespace is not of two parts. -/
  | malformedPrefix (short text : String)
  deriving DecidableEq

/-- Why an option is refused. -/
inductive OptionFault where
  | notBoolean (key : String) (value : Json)
  | pluckItem (value : Json)
  | pluckValue (value : Json)
  | operatorItem (key : String) (value : Json)
  | operatorValue (key : String) (value : Json)
  /-- A projection onto no field, or onto a field without a name. -/
  | emptyPluck
  /-- An operator list that is empty, or an operator that is empty or has whitespace in it. -/
  | malformedOperator

/-- Where parentheses do not pair. -/
inductive ParenFault where
  /-- In the text of a query. -/
  | inQuery (query : String)
  /-- A token after the outer group. -/
  | afterOuterGroup
  /-- A closing parenthesis without an open group. -/
  | unexpectedClose
  /-- An operator outside of any group. -/
  | operatorOutside
  /-- A group that is never closed. -/
  | unclosed
  deriving DecidableEq

/-- Why a clause, or an operator between clauses, is refused. -/
inductive ClauseFault where
  /-- A clause without terms. -/
  | empty (clause : String)
  | attributeNotName (clause : String)
  | noPredicate (clause : String)
  | noPredicateAfterNot (clause : String)
  /-- An operator with no item before it. -/
  | leadingOperator (group : GroupPath)
  /-- An operator with no item after it. -/
  | trailingOperator (group : GroupPath)
  | outsideGroups (term : String)
  deriving DecidableEq

/-- Why a predicate could not answer. -/
inductive PredicateFault where
  /-- The predicate's own words. -/
  | failed (text : String)
  /-- A regular expression that cannot be read. -/
  | badPattern
  /-- A regular expression that is too large. -/
  | largePattern
  deriving DecidableEq

/-- Everything that can go wrong with a query, its options and its configuration. -/
inductive Error where
  | io (detail : String)
  | config (fault : ConfigFault)
  | invalidOption (fault : OptionFault)
  | emptyQuery
  | unbalancedParens (fault : ParenFault)
  | oddBackticks (query : String)
  | bindingCount (expected supplied : Nat)
  | invalidMarker (word : String)
  | missingBinding (name : String)
  /-- A binding marker as the name of a keyword argument. -/
  | invalidKeyword (key : String)
  | invalidPredicateName (name : String)
  | invalidClause (fault : ClauseFault)
  | missingCombinator (group : GroupPath)
  | emptyGroup (group : GroupPath)
  | unknownPredicate (name : PredicateName)
  | predicate (name : PredicateName) (fault : PredicateFault)

/-! ## Words -/

/-- What is said of a configuration that cannot be used. -/
def ConfigFault.message : ConfigFault → String
  | .unreadable detail => "Failed to parse config: " ++ detail
  | .unwritable detail => "Failed to serialize config: " ++ detail
  | .noOperators => "and_ops and or_ops must not be empty"
  | .sharedOperator literal => "'" ++ literal ++ "' is both an and and an or operator"
  | .malformedOperator => "operators must be non-empty and contain no whitespace"
  | .malformedNamespace text =>
    "default_namespace '" ++ text ++ "' must look like 'namespace.subspace'"
  | .malformedPrefix short text => "Invalid prefix mapping '" ++ short ++ "' = '" ++ text ++ "'"

/-- What is said of options that cannot be used. -/
def OptionFault.message : OptionFault → String
  | .notBoolean key value => key ++ " must be a boolean, got " ++ value.compact
  | .pluckItem value => "pluck fields must be strings, got " ++ value.compact
  | .pluckValue value => "pluck must be a field or list of fields, got " ++ value.compact
  | .operatorItem key value => key ++ " entries must be strings, got " ++ value.compact
  | .operatorValue key value => key ++ " must be a string or list, got " ++ value.compact
  | .emptyPluck => "pluck needs at least one non-empty field"
  | .malformedOperator => "operators must be non-empty and contain no whitespace"

/-- What is said of parentheses that do not pair up. -/
def ParenFault.message : ParenFault → String
  | .inQuery query => query
  | .afterOuterGroup => "input continues after the outer group"
  | .unexpectedClose => "unexpected ')'"
  | .operatorOutside => "operator outside of any group"
  | .unclosed => "unclosed group"

/-- What is said of a clause that cannot be built. -/
def ClauseFault.message : ClauseFault → String
  | .empty clause => clause
  | .attributeNotName clause => clause ++ ": attribute must be a name"
  | .noPredicate clause => clause ++ ": missing predicate"
  | .noPredicateAfterNot clause => clause ++ ": missing predicate after 'not'"
  | .leadingOperator group => "operator without a preceding clause in group " ++ group.text
  | .trailingOperator group => "group " ++ group.text ++ " ends with an operator"
  | .outsideGroups term => term ++ ": outside of any group"

/-- What is said of a predicate that cannot be called or fails. -/
def PredicateFault.message : PredicateFault → String
  | .failed text => text
  | .badPattern => "regex parse error: not a regular expression"
  | .largePattern => "Compiled regex exceeds size limit of 10485760 bytes."

/-- **The wording of an error.** -/
def Error.message : Error → String
  | .io detail => "IO error: " ++ detail
  | .config fault => "Configuration error: " ++ fault.message
  | .invalidOption fault => "Invalid query option: " ++ fault.message
  | .emptyQuery => "Empty query"
  | .unbalancedParens fault => "Unbalanced parentheses in query: " ++ fault.message
  | .oddBackticks query => "Odd number of backticks in query: " ++ query
  | .bindingCount expected supplied =>
    "Query expects " ++ toString expected ++ " positional binding(s), " ++ toString supplied ++
      " supplied"
  | .invalidMarker word =>
    "Invalid binding marker '" ++ word ++ "': names use letters, digits and '_'"
  | .missingBinding name => "No binding supplied for :" ++ name
  | .invalidKeyword key =>
    "Invalid keyword argument: binding marker '" ++ key ++ "' cannot be used as a keyword name"
  | .invalidPredicateName name => "Invalid predicate name: " ++ name
  | .invalidClause fault => "Invalid clause: " ++ fault.message
  | .missingCombinator group =>
    "Group " ++ group.text ++ " mixes several items without an and/or operator"
  | .emptyGroup group => "Group " ++ group.text ++ " is empty"
  | .unknownPredicate name => "Unknown predicate: " ++ name.text
  | .predicate name fault => "Predicate " ++ name.text ++ " failed: " ++ fault.message

/-! ## Kinds -/

/-- An error without its particulars. -/
inductive ErrorKind where
  | io | config | invalidOption | emptyQuery | unbalancedParens | oddBackticks | bindingCount
  | invalidMarker | missingBinding | invalidKeyword | invalidPredicateName | invalidClause
  | missingCombinator | emptyGroup | unknownPredicate | predicate
  deriving DecidableEq, Repr

/-- What kind of error it is. -/
def Error.kind : Error → ErrorKind
  | .io _ => .io
  | .config _ => .config
  | .invalidOption _ => .invalidOption
  | .emptyQuery => .emptyQuery
  | .unbalancedParens _ => .unbalancedParens
  | .oddBackticks _ => .oddBackticks
  | .bindingCount _ _ => .bindingCount
  | .invalidMarker _ => .invalidMarker
  | .missingBinding _ => .missingBinding
  | .invalidKeyword _ => .invalidKeyword
  | .invalidPredicateName _ => .invalidPredicateName
  | .invalidClause _ => .invalidClause
  | .missingCombinator _ => .missingCombinator
  | .emptyGroup _ => .emptyGroup
  | .unknownPredicate _ => .unknownPredicate
  | .predicate _ _ => .predicate

end RecordFilter
