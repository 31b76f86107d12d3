import RecordFilter.Json.Basic

/-!
# TOML values

* `Toml` — a value of a TOML document; tables keep the order in which they are written.
* `Toml.toJson` — the JSON value that stands for it: a date-time becomes an object with one member
  that holds its text, and a number that is not finite becomes null.
* `Toml.ofJson?` — the value that stands for a JSON value, if there is one: TOML has no null, and
  its integers have 64 bits with a sign.
-/

namespace RecordFilter

/-- A value of a TOML document. -/
inductive Toml where
  | string (text : String)
  | integer (value : Int)
  | float (value : Double)
  /-- An infinity, or what is not a number. -/
  | notFinite
  | boolean (value : Bool)
  /-- A date, a time or both, in canonical text. -/
  | dateTime (text : String)
  | array (items : List Toml)
  | table (entries : List (String × Toml))

namespace Toml

/-- The key under which the text of a date-time stands. -/
def dateTimeKey : String := "$__toml_private_datetime"

mutual

/-- **The JSON value that stands for a TOML value.** -/
def toJson : Toml → Json
  | .string text => .string text
  | .integer n => .number (.integer n)
  | .float x => .number (.double x)
  | .notFinite => .null
  | .boolean b => .bool b
  | .dateTime text => .object [(dateTimeKey, .string text)]
  | .array items => .array (toJsonItems items)
  | .table entries => .object (Dict.ofList (toJsonEntries entries))

/-- The items of an array, as JSON values. -/
def toJsonItems : List Toml → List Json
  | [] => []
  | item :: rest => toJson item :: toJsonItems rest

/-- The entries of a table, as JSON members. -/
def toJsonEntries : List (String × Toml) → List (String × Json)
  | [] => []
  | (key, value) :: rest => (key, toJson value) :: toJsonEntries rest

end

/-- Whether an integer has 64 bits, one of them its sign. -/
def fits (n : Int) : Bool := -(twoTo 63 : Int) ≤ n && n < twoTo 63

mutual

/-- **The TOML value that stands for a JSON value**, if there is one. -/
def ofJson? : Json → Option Toml
  | .null => none
  | .bool b => some (.boolean b)
  | .number (.integer n) => if fits n then some (.integer n) else none
  | .number (.double x) => some (.float x)
  | .string text => some (.string text)
  | .array items => (ofJsonItems? items).map .array
  | .object members => (ofJsonMembers? members).map .table

/-- The items of a JSON array, if each of them has a counterpart. -/
def ofJsonItems? : List Json → Option (List Toml)
  | [] => some []
  | item :: rest => do
    let item ← ofJson? item
    return item :: (← ofJsonItems? rest)

/-- The members of a JSON object, if each of them has a counterpart. -/
def ofJsonMembers? : List (String × Json) → Option (List (String × Toml))
  | [] => some []
  | (key, value) :: rest => do
    let value ← ofJson? value
    return (key, value) :: (← ofJsonMembers? rest)

end

/-- The entries of a value that reads as a table: a table, or a date-time with its text. -/
def entries? : Toml → Option (List (String × Toml))
  | .table entries => some entries
  | .dateTime text => some [(dateTimeKey, .string text)]
  | _ => none

/-- The text of a string. -/
def string? : Toml → Option String
  | .string text => some text
  | _ => none

/-- The texts of an array of strings. -/
def strings? : Toml → Option (List String)
  | .array items => items.mapM string?
  | _ => none

end Toml

end RecordFilter
