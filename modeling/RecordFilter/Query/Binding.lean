import RecordFilter.Query.Literal
import RecordFilter.Query.Marker
import RecordFilter.Query.Token

/-!
# Bindings

Markers in a query stand for values that its caller supplies. Resolution replaces them in one pass
from left to right; a substituted value is never read again.

* `Bindings` — positional and named values.
* `Term`, `Bound` — the terms of clauses, and tokens after resolution.
* `Bindings.value?` — the value of a name: the caller's, else the configuration's, else the
  engine's.
* `Token.resolve` — the resolved tokens, if exactly the positional values that the markers call for
  are supplied and every name has a value.
-/

namespace RecordFilter

/-! ## Values for markers -/

/-- The values that a caller binds to markers. -/
structure Bindings where
  /-- Values for the markers `?`, in order. -/
  positional : List Json := []
  /-- Values for the markers `:name`. -/
  named : Dict Json := []

namespace Bindings

/-- Names that always have a value. -/
def engineDefaults : Dict Json :=
  [("false", .bool false), ("none", .null), ("null", .null), ("true", .bool true)]

/-- **The value of a name**: the caller's goes before the configuration's, which goes before the
engine's. -/
def value? (bindings : Bindings) (defaults : Dict Json) (name : String) : Option Json :=
  (Dict.find? name bindings.named).or
    ((Dict.find? name defaults).or (Dict.find? name engineDefaults))

end Bindings

/-! ## Resolved tokens -/

/-- An argument that a keyword segment passes. -/
inductive KeywordArg where
  | named (key : String) (value : Json)
  | positional (value : Json)

/-- A part of a clause. -/
inductive Term where
  /-- Text of the query. -/
  | word (text : String)
  /-- A substituted value. -/
  | value (value : Json)
  | keywords (args : List KeywordArg)

/-- A token after resolution. -/
inductive Bound where
  | opening
  | closing
  | operator (combinator : Combinator)
  | term (term : Term)

/-- How an argument shows in messages. -/
def KeywordArg.display : KeywordArg → String
  | .named key value => key ++ "=" ++ value.compact
  | .positional value => value.compact

namespace Term

/-- How a term shows in messages. -/
def display : Term → String
  | .word text => text
  | .value v => v.compact
  | .keywords args => "`" ++ Text.join "&" (args.map KeywordArg.display) ++ "`"

/-- The text of a term that can be a name: a word or a substituted string. -/
def text? : Term → Option String
  | .word text => some text
  | .value (.string text) => some text
  | _ => none

end Term

/-! ## Counting -/

/-- Whether a keyword's key or value is the marker `?`. -/
def isPositionalMarker (text : String) : Bool :=
  match Marker.ofWord? text with
  | .ok (some .positional) => true
  | _ => false

/-- The number of markers `?` in a keyword entry, its name included. -/
def KeywordPair.positionalCount (pair : KeywordPair) : Nat :=
  ((pair.key :: pair.value.toList).filter isPositionalMarker).length

/-- The number of markers `?` in a token. -/
def Token.positionalCount : Token → Nat
  | .positional => 1
  | .keywords pairs => (pairs.map KeywordPair.positionalCount).foldr (· + ·) 0
  | _ => 0

/-! ## Resolution -/

/-- What resolving takes: the positional values that are left. It returns them with the result. -/
abbrev Resolving (α : Type) := List Json → Except Error (α × List Json)

namespace Resolving

variable {α β : Type}

/-- A result that takes nothing. -/
def pure (a : α) : Resolving α := fun left => .ok (a, left)

/-- A failure. -/
def fail (e : Error) : Resolving α := fun _ => .error e

/-- One step, then the next on the values that are left. -/
def bind (x : Resolving α) (f : α → Resolving β) : Resolving β := fun left =>
  match x left with
  | .ok (a, left) => f a left
  | .error e => .error e

/-- Resolving one thing after another: the second takes values from what the first has left. -/
instance : Monad Resolving where
  pure := pure
  bind := bind

/-- The results of all steps, in order. -/
def each (f : α → Resolving β) : List α → Resolving (List β)
  | [] => pure []
  | a :: rest => do
    let b ← f a
    let bs ← each f rest
    return b :: bs

end Resolving

section

variable (bindings : Bindings) (defaults : Dict Json)

/-- The value of a marker; `?` takes the next positional value. -/
def Marker.take : Marker → Resolving Json
  | .positional => fun left =>
    match left with
    | [] => .error (.bindingCount 0 0)
    | value :: left => .ok (value, left)
  | .named name =>
    match bindings.value? defaults name with
    | some value => Resolving.pure value
    | none => Resolving.fail (.missingBinding name)

/-- The argument of a keyword entry: markers are replaced, other texts are literals. A marker cannot
name a keyword. -/
def KeywordPair.resolve (pair : KeywordPair) : Resolving KeywordArg :=
  match Marker.ofWord? pair.key with
  | .error e => Resolving.fail e
  | .ok (some marker) =>
    match pair.value with
    | some _ => Resolving.fail (.invalidKeyword pair.key)
    | none => do return .positional (← marker.take bindings defaults)
  | .ok none =>
    match pair.value with
    | none => Resolving.pure (.positional (Json.ofLiteral pair.key))
    | some value =>
      match Marker.ofWord? value with
      | .error e => Resolving.fail e
      | .ok (some marker) => do return .named pair.key (← marker.take bindings defaults)
      | .ok none => Resolving.pure (.named pair.key (Json.ofLiteral value))

/-- A token with its markers replaced. -/
def Token.resolve : Token → Resolving Bound
  | .opening => Resolving.pure .opening
  | .closing => Resolving.pure .closing
  | .operator combinator => Resolving.pure (.operator combinator)
  | .word text => Resolving.pure (.term (.word text))
  | .positional => do return .term (.value (← Marker.positional.take bindings defaults))
  | .named name => do return .term (.value (← (Marker.named name).take bindings defaults))
  | .keywords pairs => do
    return .term (.keywords (← Resolving.each (KeywordPair.resolve bindings defaults) pairs))

/-- **Resolution**: the tokens with all markers replaced. The number of positional values is checked
first; of other errors the leftmost counts. -/
def Token.resolveAll (tokens : List Token) : Except Error (List Bound) :=
  let expected := (tokens.map Token.positionalCount).foldr (· + ·) 0
  if expected ≠ bindings.positional.length then
    .error (.bindingCount expected bindings.positional.length)
  else
    match Resolving.each (Token.resolve bindings defaults) tokens bindings.positional with
    | .ok (bound, _) => .ok bound
    | .error e => .error e

end

end RecordFilter
