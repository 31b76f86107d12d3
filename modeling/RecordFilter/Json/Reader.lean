import RecordFilter.Json.Basic
import RecordFilter.Number.Reader
import RecordFilter.Text.Hex

/-!
# Reading JSON

* `Json.readString` — a string after its opening quote.
* `Json.readValue` — a value with at most a given number of nested arrays and objects.
* `Json.ofText?` — a whole text as one value, nested 127 levels at most.

The whitespace of JSON is space, tab, line feed and carriage return. Of several members of one name
the last counts. A surrogate that stands alone is no character, so its escape is refused.
-/

namespace RecordFilter.Json

/-! ## Strings -/

/-- The whitespace between the parts of a JSON text. -/
def isSpace (c : Char) : Bool := c == ' ' || c == '\t' || c == '\n' || c == '\r'

/-- A text without the whitespace at its head. -/
def skipSpace (cs : List Char) : List Char := cs.dropWhile isSpace

/-- Four hexadecimal digits: one unit of UTF-16. -/
def readUnit? (cs : List Char) : Option (Nat × List Char) :=
  if 4 ≤ cs.length then (Hex.number? (cs.take 4)).map (·, cs.drop 4) else none

/-- The character of a `\u` escape: one unit, or the two of a surrogate pair. -/
def readUnicode? (cs : List Char) : Option (Char × List Char) := do
  let (unit, rest) ← readUnit? cs
  if unit < 0xD800 || 0xE000 ≤ unit then return (Char.ofNat unit, rest)
  guard (unit < 0xDC00)
  match rest with
  | '\\' :: 'u' :: rest =>
    let (low, rest) ← readUnit? rest
    guard (0xDC00 ≤ low && low < 0xE000)
    return (Char.ofNat (0x10000 + (unit - 0xD800) * 0x400 + (low - 0xDC00)), rest)
  | _ => none

/-- The character of an escape, after the backslash. -/
def readEscape? : List Char → Option (Char × List Char)
  | [] => none
  | c :: rest =>
    if c == 'u' then readUnicode? rest
    else if c == '"' || c == '\\' || c == '/' then some (c, rest)
    else if c == 'b' then some ('\x08', rest)
    else if c == 'f' then some ('\x0c', rest)
    else if c == 'n' then some ('\n', rest)
    else if c == 'r' then some ('\r', rest)
    else if c == 't' then some ('\t', rest)
    else none

/-- The characters of a string up to its closing quote, and the rest. Controls below U+0020 have to
be escaped. The first argument bounds the number of characters. -/
def readString : Nat → List Char → Option (List Char × List Char)
  | 0, _ => none
  | _ + 1, [] => none
  | fuel + 1, c :: rest =>
    if c == '"' then some ([], rest)
    else if c == '\\' then
      (readEscape? rest).bind fun (d, rest) =>
        (readString fuel rest).map fun (ds, rest) => (d :: ds, rest)
    else if c.toNat < 32 then none
    else (readString fuel rest).map fun (ds, rest) => (c :: ds, rest)

/-- A string with its opening quote. -/
def readQuoted? : List Char → Option (String × List Char)
  | '"' :: rest =>
    (readString (rest.length + 1) rest).map fun (cs, rest) => (String.ofList cs, rest)
  | _ => none

/-! ## Values -/

/-- The items of an array after the first bracket, given a reader of values. The first argument
bounds their number. -/
def readItems (value : List Char → Option (Json × List Char)) :
    Nat → List Char → Option (List Json × List Char)
  | 0, _ => none
  | fuel + 1, cs => do
    let (item, rest) ← value cs
    match skipSpace rest with
    | ',' :: rest => (readItems value fuel rest).map fun (items, rest) => (item :: items, rest)
    | ']' :: rest => some ([item], rest)
    | _ => none

/-- The members of an object after the first brace, given a reader of values. The first argument
bounds their number. -/
def readMembers (value : List Char → Option (Json × List Char)) :
    Nat → List Char → Option (List (String × Json) × List Char)
  | 0, _ => none
  | fuel + 1, cs => do
    let (key, rest) ← readQuoted? (skipSpace cs)
    match skipSpace rest with
    | ':' :: rest =>
      let (item, rest) ← value rest
      match skipSpace rest with
      | ',' :: rest =>
        (readMembers value fuel rest).map fun (members, rest) => ((key, item) :: members, rest)
      | '}' :: rest => some ([(key, item)], rest)
      | _ => none
    | _ => none

/-- A word of the text, and the rest after it. -/
def readWord? (word : List Char) (value : Json) (cs : List Char) : Option (Json × List Char) :=
  if word.isPrefixOf cs then some (value, cs.drop word.length) else none

/-- A value that is neither an array nor an object. -/
def readScalar? (cs : List Char) : Option (Json × List Char) :=
  match cs with
  | '"' :: _ => (readQuoted? cs).map fun (s, rest) => (.string s, rest)
  | 'n' :: _ => readWord? ['n', 'u', 'l', 'l'] .null cs
  | 't' :: _ => readWord? ['t', 'r', 'u', 'e'] (.bool true) cs
  | 'f' :: _ => readWord? ['f', 'a', 'l', 's', 'e'] (.bool false) cs
  | _ => (Number.read? cs).map fun (n, rest) => (.number n, rest)

/-- **A value with at most `depth` nested arrays and objects**, after optional whitespace, and the
text after it. -/
def readValue : (depth : Nat) → List Char → Option (Json × List Char)
  | 0, cs => readScalar? (skipSpace cs)
  | depth + 1, cs =>
    match skipSpace cs with
    | '[' :: rest =>
      match skipSpace rest with
      | ']' :: rest => some (.array [], rest)
      | rest =>
        (readItems (readValue depth) (rest.length + 1) rest).map fun (items, rest) =>
          (.array items, rest)
    | '{' :: rest =>
      match skipSpace rest with
      | '}' :: rest => some (.object [], rest)
      | rest =>
        (readMembers (readValue depth) (rest.length + 1) rest).map fun (members, rest) =>
          (.object (Dict.ofList members), rest)
    | cs => readScalar? cs

/-- A whole text as one value of limited nesting, with whitespace around it. -/
def ofChars? (depth : Nat) (cs : List Char) : Option Json :=
  match readValue depth cs with
  | some (value, rest) => if (skipSpace rest).isEmpty then some value else none
  | none => none

/-- **A text as a JSON value**; arrays and objects nest 127 levels deep at most. -/
def ofText? (text : String) : Option Json := ofChars? 127 text.toList

end RecordFilter.Json
