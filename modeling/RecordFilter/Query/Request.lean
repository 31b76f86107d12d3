import RecordFilter.Query.Binding
import RecordFilter.Query.Options

/-!
# Requests

What a caller asks for: the text of a query, values for its markers, and options.

* `Request` — the request; `bind`, `bindAll`, `bindNamed`, `withMap` and the option setters extend
  it step by step.
-/

namespace RecordFilter

/-- A query with values for its markers and with options. -/
structure Request where
  query : String
  bindings : Bindings := {}
  options : Options := {}

namespace Request

/-- A request without bindings and with the default options. -/
def ofQuery (query : String) : Request := { query }

/-- Adds values for the next markers `?`. -/
def bindAll (r : Request) (values : List Json) : Request :=
  { r with bindings := { r.bindings with positional := r.bindings.positional ++ values } }

/-- Adds the value for the next marker `?`. -/
def bind (r : Request) (value : Json) : Request := r.bindAll [value]

/-- Binds a value to a name. -/
def bindNamed (r : Request) (name : String) (value : Json) : Request :=
  { r with bindings := { r.bindings with named := Dict.insert name value r.bindings.named } }

/-- **Applies a combined map**: reserved keys set options, other keys bind names. Options that the
map does not mention keep their values. -/
def withMap (r : Request) (map : Dict Json) : Except Error Request :=
  match r.options.merge map with
  | (_, .error e) => .error e
  | (options, .ok named) =>
    .ok { r with
      options
      bindings := { r.bindings with named := Dict.union r.bindings.named named } }

/-- Replaces all options. -/
def withOptions (r : Request) (options : Options) : Request := { r with options }

/-- The request with one more value for the placeholders. -/
def withDefault (r : Request) (value : Json) : Request :=
  { r with options := { r.options with default := value } }

/-- The request that asks for the first match only, or for all. -/
def withFirst (r : Request) (first : Bool) : Request :=
  { r with options := { r.options with first } }

/-- The request with another selection of fields. -/
def withPluck (r : Request) (pluck : Pluck) : Request :=
  { r with options := { r.options with pluck := some pluck } }

/-- The request with debugging on or off. -/
def withDebug (r : Request) (debug : Bool) : Request :=
  { r with options := { r.options with debug } }

end Request

end RecordFilter
