import RecordFilter.Json.Basic
import RecordFilter.Text.Separated

/-!
# Attributes

Where a clause reads the value that it tests.

* `Attribute` — the whole record, or a dotted path into it.
* `Attribute.lookup` — the value in a record: members of objects by name, items of arrays by number.
-/

namespace RecordFilter

/-- Where a clause reads its value. -/
inductive Attribute where
  /-- The record itself. -/
  | whole
  /-- The members and items to go through, one after the other. -/
  | path (segments : List String)
  deriving DecidableEq, Repr

namespace Attribute

/-- The path that a dotted text describes. -/
def ofPath (text : String) : Attribute := .path (Text.split '.' text)

/-- An array index: digits, with an optional plus. Indices of 64 bits and more find nothing. -/
def index? (segment : String) : Option Nat :=
  let digits := match segment.toList with
    | '+' :: rest => rest
    | cs => cs
  if !digits.isEmpty && digits.all Char.isDigit then
    let value := digits.foldl (fun n c => 10 * n + (c.toNat - 48)) 0
    if value < twoTo 64 then some value else none
  else none

/-- One step into a value. -/
def step (value : Json) (segment : String) : Option Json :=
  match value with
  | .object members => Dict.find? segment members
  | .array items => (index? segment).bind fun i => items[i]?
  | _ => none

/-- **The value of an attribute in a record**, if the record has it. -/
def lookup (record : Json) : Attribute → Option Json
  | .whole => some record
  | .path segments => segments.foldlM step record

/-- The path as text; the whole record has none. -/
def text? : Attribute → Option String
  | .whole => none
  | .path segments => some (Text.join "." segments)

/-- How an attribute shows in the text of a clause. -/
def display (a : Attribute) : String := a.text?.getD "<value>"

end Attribute

end RecordFilter
