import RecordFilter.Json.Reader

/-!
# Literals

* `Json.ofLiteral` — the value of a bare word: the JSON value that it spells, else the word itself
  as a string.
-/

namespace RecordFilter.Json

/-- **The value of a bare word.** -/
def ofLiteral (word : String) : Json :=
  match ofText? word with
  | some value => value
  | none => .string word

end RecordFilter.Json
