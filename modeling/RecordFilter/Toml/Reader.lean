import RecordFilter.Toml.Document
import RecordFilter.Toml.Quoted
import RecordFilter.Toml.Scalar

/-!
# Reading TOML

* `Toml.readValue` — a value with at most a given number of nested arrays and inline tables.
* `Toml.Line` — a header or an entry on a line of its own.
* `Toml.ofText?` — a whole text as the entries of its root table.
-/

namespace RecordFilter.Toml

/-! ## Between values -/

/-- What follows a comment; its line break is not part of it. -/
def afterComment? : List Char → Option (List Char)
  | '#' :: rest => some (rest.dropWhile isPlain)
  | _ => none

/-- Whitespace, line breaks and comments before a line break dropped from the head of a text. The
first argument bounds the number of lines. -/
def skipLines : Nat → List Char → List Char
  | 0, cs => cs
  | fuel + 1, cs =>
    let cs := skipBlank cs
    match afterBreak? ((afterComment? cs).getD cs) with
    | some rest => skipLines fuel rest
    | none => cs

/-- Skips what may stand around the items of an array. -/
def skipAround (cs : List Char) : List Char := skipLines (cs.length + 1) cs

/-! ## Values -/

/-- The items of an array after the first bracket, given a reader of values; a comma may follow the
last one. The first argument bounds their number. -/
def readItems (value : List Char → Option (Toml × List Char)) :
    Nat → List Char → Option (List Toml × List Char)
  | 0, _ => none
  | fuel + 1, cs =>
    match skipAround cs with
    | ']' :: rest => some ([], rest)
    | cs => do
      let (item, rest) ← value cs
      match skipAround rest with
      | ',' :: rest => (readItems value fuel rest).map fun (items, rest) => (item :: items, rest)
      | ']' :: rest => some ([item], rest)
      | _ => none

/-- A key, the equals sign and a value on the same line. -/
def readPair? (value : List Char → Option (Toml × List Char)) (cs : List Char) :
    Option (Entry × List Char) := do
  let (key, rest) ← readKey? cs
  let rest ← readChar? '=' rest
  let (item, rest) ← value (skipBlank rest)
  return ((key, item), skipBlank rest)

/-- The entries of an inline table after the first brace, at least one, given a reader of values.
The first argument bounds their number. -/
def readInline (value : List Char → Option (Toml × List Char)) :
    Nat → List Char → Option (List Entry × List Char)
  | 0, _ => none
  | fuel + 1, cs => do
    let (entry, rest) ← readPair? value cs
    match rest with
    | ',' :: rest =>
      (readInline value fuel rest).map fun (entries, rest) => (entry :: entries, rest)
    | '\x7d' :: rest => some ([entry], rest)
    | _ => none

/-- A word of the format, and the rest after it. -/
def readWord? (word : List Char) (value : Toml) (cs : List Char) : Option (Toml × List Char) :=
  if word.isPrefixOf cs then some (value, cs.drop word.length) else none

/-- A value that is neither an array nor an inline table. -/
def readScalar? (cs : List Char) : Option (Toml × List Char) :=
  match cs with
  | '"' :: _ | '\'' :: _ => (readString? cs).map fun (text, rest) => (.string text, rest)
  | 't' :: _ => readWord? ['t', 'r', 'u', 'e'] (.boolean true) cs
  | 'f' :: _ => readWord? ['f', 'a', 'l', 's', 'e'] (.boolean false) cs
  | _ => (readDateTime? cs).orElse fun _ => readNumber? cs

/-- **A value with at most `depth` nested arrays and inline tables**, and the text after it. -/
def readValue : (depth : Nat) → List Char → Option (Toml × List Char)
  | 0, cs => readScalar? cs
  | depth + 1, cs =>
    match cs with
    | '[' :: rest =>
      (readItems (readValue depth) (rest.length + 1) rest).map fun (items, rest) =>
        (.array items, rest)
    | '\x7b' :: rest =>
      match skipBlank rest with
      | '\x7d' :: rest => some (.table [], rest)
      | rest => do
        let (entries, rest) ← readInline (readValue depth) (rest.length + 1) rest
        return (← inlineTable? entries, rest)
    | cs => readScalar? cs

/-! ## Lines -/

/-- What a line of a document says. -/
inductive Line where
  | header (repeated : Bool) (path : List String)
  | entry (entry : Entry)

/-- A header or an entry. -/
def readLine? (cs : List Char) : Option (Line × List Char) :=
  match cs with
  | '[' :: '[' :: rest => do
    let (path, rest) ← readKey? rest
    let rest ← readChar? ']' rest
    let rest ← readChar? ']' rest
    return (.header true path, rest)
  | '[' :: rest => do
    let (path, rest) ← readKey? rest
    let rest ← readChar? ']' rest
    return (.header false path, rest)
  | _ => (readPair? (readValue depthLimit) cs).map fun (entry, rest) => (.entry entry, rest)

/-- What follows the end of a line: whitespace, perhaps a comment, and a line break or the end of
the text. -/
def afterLine? (cs : List Char) : Option (List Char) :=
  let cs := skipBlank cs
  match (afterComment? cs).getD cs with
  | [] => some []
  | cs => afterBreak? cs

/-- The lines of a document. The first argument bounds their number. -/
def readDocument : Nat → List Char → Option (List Line)
  | 0, _ => none
  | _ + 1, [] => some []
  | fuel + 1, cs =>
    match afterLine? cs with
    | some rest => readDocument fuel rest
    | none => do
      let (line, rest) ← readLine? (skipBlank cs)
      let rest ← afterLine? rest
      return line :: (← readDocument fuel rest)

/-- Lines as the entries before the first header and the sections from there on. -/
def sections : List Line → List Entry × List Section
  | [] => ([], [])
  | .entry entry :: rest =>
    let (entries, later) := sections rest
    (entry :: entries, later)
  | .header repeated path :: rest =>
    let (entries, later) := sections rest
    ([], ⟨repeated, path, entries⟩ :: later)

/-- A byte order mark at the head of a text does not count. -/
def skipMark (cs : List Char) : List Char :=
  match cs with
  | '\uFEFF' :: rest => rest
  | _ => cs

/-- **A text as the entries of its root table**, or none if it is no document. -/
def ofText? (text : String) : Option (List (String × Toml)) := do
  let cs := skipMark text.toList
  let lines ← readDocument (cs.length + 1) cs
  let (entries, later) := sections lines
  assemble? entries later

end RecordFilter.Toml
