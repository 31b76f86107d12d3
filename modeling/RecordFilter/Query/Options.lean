import RecordFilter.Error
import RecordFilter.Query.Attribute
import RecordFilter.Text.Whitespace

/-!
# Options

How a query returns its matches, and the map that sets options and named bindings together.

* `Pluck`, `Pluck.project` — a projection onto one field or several.
* `Options` — default value, first match only, projection, timing, operator literals.
* `Options.setKey` — what one entry of a map does; `Options.merge` — a whole map, key by key. The
  keys that are no option's are named bindings.
* `Options.validate` — the rules that options keep.
-/

namespace RecordFilter

/-! ## Projections -/

/-- A projection of matched records. -/
inductive Pluck where
  /-- A record becomes the value of a field. -/
  | field (path : String)
  /-- A record becomes an object of these fields. -/
  | fields (paths : List String)
  deriving DecidableEq, Repr

namespace Pluck

/-- The value at a dotted path, null where the record has none. -/
def get (record : Json) (path : String) : Json :=
  ((Attribute.ofPath path).lookup record).getD .null

/-- **What a record becomes.** -/
def project (record : Json) : Pluck → Json
  | .field path => get record path
  | .fields paths => .object (Dict.ofList (paths.map fun path => (path, get record path)))

/-- The fields. -/
def paths : Pluck → List String
  | .field path => [path]
  | .fields paths => paths

/-- A projection needs a field, and its fields need names. -/
def isValid (p : Pluck) : Bool := !p.paths.isEmpty && p.paths.all fun path => !path.isEmpty

end Pluck

/-! ## Options -/

/-- How a query returns its matches. -/
structure Options where
  /-- What is returned when nothing matches. -/
  default : Json := .null
  /-- Return the first match only, by itself. -/
  first : Bool := false
  pluck : Option Pluck := none
  /-- Report how long evaluation took. -/
  debug : Bool := false
  /-- Literals for "all items" in place of the configuration's. -/
  opAnd : Option (List String) := none
  /-- Literals for "any item" in place of the configuration's. -/
  opOr : Option (List String) := none

namespace Options

/-- A list of literals that can be operators: none empty or with whitespace, one at least. -/
def areOperators (literals : List String) : Bool :=
  !literals.isEmpty && literals.all fun op => !op.isEmpty && !Text.hasWhitespace op

/-- **The rules of options**, in the order in which they are checked. -/
def fault? (o : Options) : Option OptionFault :=
  if !(o.pluck.all Pluck.isValid) then some .emptyPluck
  else if !(o.opAnd.all areOperators && o.opOr.all areOperators) then some .malformedOperator
  else none

/-- Options that keep all rules, or the first fault. -/
def validate (o : Options) : Except Error Unit :=
  match o.fault? with
  | some fault => .error (.invalidOption fault)
  | none => .ok ()

/-! ## Values of options -/

/-- A boolean option. -/
def asBool (key : String) (value : Json) : Except OptionFault Bool :=
  match value with
  | .bool b => .ok b
  | _ => .error (.notBoolean key value)

/-- The strings of a list, or a fault at the first item that is none. -/
def asStrings (fault : Json → OptionFault) : List Json → Except OptionFault (List String)
  | [] => .ok []
  | .string s :: rest => (asStrings fault rest).map (s :: ·)
  | item :: _ => .error (fault item)

/-- A projection: null for none, a field, or a list of fields. -/
def asPluck (value : Json) : Except OptionFault (Option Pluck) :=
  match value with
  | .null => .ok none
  | .string path => .ok (some (.field path))
  | .array items => (asStrings .pluckItem items).map fun paths => some (.fields paths)
  | _ => .error (.pluckValue value)

/-- Operator literals: null for the configuration's, one literal, or a list. -/
def asOperators (key : String) (value : Json) : Except OptionFault (Option (List String)) :=
  match value with
  | .null => .ok none
  | .string op => .ok (some [op])
  | .array items => (asStrings (.operatorItem key) items).map some
  | _ => .error (.operatorValue key value)

/-! ## Merging -/

/-- The keys that set options. -/
def reservedKeys : List String := ["default", "first", "pluck", "debug", "op_and", "op_or"]

/-- **What one entry does**: the options with its option set, or nothing if the key is no
option's. -/
def setKey (o : Options) (key : String) (value : Json) : Except OptionFault (Option Options) :=
  if key = "default" then .ok (some { o with default := value })
  else if key = "first" then (asBool key value).map fun b => some { o with first := b }
  else if key = "debug" then (asBool key value).map fun b => some { o with debug := b }
  else if key = "pluck" then (asPluck value).map fun p => some { o with pluck := p }
  else if key = "op_and" then (asOperators key value).map fun ops => some { o with opAnd := ops }
  else if key = "op_or" then (asOperators key value).map fun ops => some { o with opOr := ops }
  else .ok none

/-- Sets the options of a map's entries in order and collects the other entries. The options as they
are at the end, or where a fault stops the pass, come with either. -/
def mergeEntries (o : Options) : List (String × Json) → Options × Except OptionFault (Dict Json)
  | [] => (o, .ok [])
  | (key, value) :: rest =>
    match o.setKey key value with
    | .error fault => (o, .error fault)
    | .ok (some o) => o.mergeEntries rest
    | .ok none =>
      let (final, named) := o.mergeEntries rest
      (final, named.map ((key, value) :: ·))

/-- **Merges a map into options**: the options afterwards, and the entries that are named bindings.
Entries count in key order; what is set before a fault stays set. -/
def merge (o : Options) (map : Dict Json) : Options × Except Error (Dict Json) :=
  match o.mergeEntries map with
  | (final, .error fault) => (final, .error (.invalidOption fault))
  | (final, .ok named) =>
    match final.validate with
    | .error e => (final, .error e)
    | .ok () => (final, .ok named)

/-- Options and named bindings of a map, beside the defaults. -/
def split (map : Dict Json) : Except Error (Options × Dict Json) :=
  match ({} : Options).merge map with
  | (o, .ok named) => .ok (o, named)
  | (_, .error e) => .error e

/-! ## As JSON -/

/-- A list of strings. -/
def stringsJson (strings : List String) : Json := .array (strings.map .string)

/-- Options as an object with all six keys. -/
def toJson (o : Options) : Json :=
  let pluck := match o.pluck with
    | none => .null
    | some (.field path) => .string path
    | some (.fields paths) => stringsJson paths
  let operators (ops : Option (List String)) := match ops with
    | none => .null
    | some ops => stringsJson ops
  .object [("debug", .bool o.debug), ("default", o.default), ("first", .bool o.first),
    ("op_and", operators o.opAnd), ("op_or", operators o.opOr), ("pluck", pluck)]

/-- The strings of an array. -/
def strings? : Json → Option (List String)
  | .array items => items.mapM Json.asString?
  | _ => none

/-- Options from members under the six keys; absent keys mean null and false. -/
def ofMembers? (members : List (String × Json)) : Option Options := do
  let bool (key : String) := match Dict.find? key members with
    | none => some false
    | some value => value.asBool?
  let operators (key : String) : Option (Option (List String)) := match Dict.find? key members with
    | none | some .null => some none
    | some value => (strings? value).map some
  let pluck ← match Dict.find? "pluck" members with
    | none | some .null => some none
    | some (.string path) => some (some (Pluck.field path))
    | some value => (strings? value).map fun paths => some (Pluck.fields paths)
  return {
    default := (Dict.find? "default" members).getD .null
    first := ← bool "first"
    pluck := pluck
    debug := ← bool "debug"
    opAnd := ← operators "op_and"
    opOr := ← operators "op_or" }

/-- **Options read from a value**: an object, whose other keys count for nothing, or a list of their
values in the order of `reservedKeys`. Unlike in `merge`, operator literals are lists here. -/
def ofJson? (value : Json) : Option Options :=
  match value with
  | .object members => ofMembers? members
  | .array items =>
    if items.length ≤ reservedKeys.length then ofMembers? (reservedKeys.zip items) else none
  | _ => none

end Options

end RecordFilter
