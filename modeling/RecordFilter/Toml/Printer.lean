import RecordFilter.Text.Separated
import RecordFilter.Toml.Basic
import RecordFilter.Toml.Quoted

/-!
# Printing TOML

* `Toml.inline` — a value on one line.
* `Toml.document` — the text of a root table: what is no section on lines of its own, then every
  table under a header, and every non-empty array of tables as one header for each table.
-/

namespace RecordFilter.Toml

/-! ## On one line -/

mutual

/-- **A value on one line.** -/
def inline : Toml → String
  | .string text => quote text
  | .integer n => toString n
  | .float x => x.text
  | .notFinite => "nan"
  | .boolean b => if b then "true" else "false"
  | .dateTime text => text
  | .array items => "[" ++ inlineItems items ++ "]"
  | .table entries => "\x7b" ++ inlineEntries entries ++ "\x7d"

/-- The items of an inline array. -/
def inlineItems : List Toml → String
  | [] => ""
  | [item] => inline item
  | item :: rest => inline item ++ ", " ++ inlineItems rest

/-- The entries of an inline table. -/
def inlineEntries : List (String × Toml) → String
  | [] => ""
  | [(key, value)] => keyText key ++ " = " ++ inline value
  | (key, value) :: rest => keyText key ++ " = " ++ inline value ++ ", " ++ inlineEntries rest

end

/-! ## Sections -/

/-- Whether a value is printed as a table of its own. -/
def isTable : Toml → Bool
  | .table _ => true
  | _ => false

/-- Whether a value is printed under headers: a table, or an array of tables. -/
def isSection : Toml → Bool
  | .table _ => true
  | .array items => !items.isEmpty && items.all isTable
  | _ => false

/-- The header of a table, or of one table of an array. -/
def headerLine (repeated : Bool) (path : List String) : String :=
  let key := Text.join "." (path.map keyText)
  if repeated then "[[" ++ key ++ "]]" else "[" ++ key ++ "]"

/-- The lines of the entries that have no header. -/
def entryLines (entries : List (String × Toml)) : List String :=
  (entries.filter fun entry => !isSection entry.2).map fun entry =>
    keyText entry.1 ++ " = " ++ inline entry.2

mutual

/-- The lines of a value with headers; none for any other value. -/
def sectionLines (repeated : Bool) (path : List String) : Toml → List String
  | .table entries =>
    "" :: headerLine repeated path :: (entryLines entries ++ sectionsBelow path entries)
  | .array items => if items.all isTable then sectionItems path items else []
  | _ => []

/-- The lines of the sections in a table. -/
def sectionsBelow (path : List String) : List (String × Toml) → List String
  | [] => []
  | (key, value) :: rest => sectionLines false (path ++ [key]) value ++ sectionsBelow path rest

/-- The lines of the tables of an array. -/
def sectionItems (path : List String) : List Toml → List String
  | [] => []
  | item :: rest => sectionLines true path item ++ sectionItems path rest

end

/-- **The text of a document** by the entries of its root table. -/
def document (entries : List (String × Toml)) : String :=
  "".intercalate ((entryLines entries ++ sectionsBelow [] entries).map (· ++ "\n"))

end RecordFilter.Toml
