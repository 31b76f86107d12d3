import RecordFilter.Json.Basic
import RecordFilter.Text.Hex

/-!
# Printing JSON

* `Json.quote` — a string between quotes, with the escapes that JSON requires and no others.
* `Json.compact` — a value without spaces; also the form in messages and displays.
* `Json.pretty` — a value over several lines, indented by two spaces for each level.
-/

namespace RecordFilter.Json

/-! ## Strings -/

/-- One character of a string: quote, backslash and controls are escaped, the five common controls
by a letter; everything else stands for itself. -/
def escapeChar (c : Char) : List Char :=
  if c == '"' then ['\\', '"']
  else if c == '\\' then ['\\', '\\']
  else if c == '\x08' then ['\\', 'b']
  else if c == '\x0c' then ['\\', 'f']
  else if c == '\n' then ['\\', 'n']
  else if c == '\r' then ['\\', 'r']
  else if c == '\t' then ['\\', 't']
  else if c.toNat < 32 then
    ['\\', 'u', '0', '0', Hex.lower (c.toNat / 16), Hex.lower (c.toNat % 16)]
  else [c]

/-- A string as JSON text. -/
def quote (s : String) : String := "\"" ++ String.ofList (s.toList.flatMap escapeChar) ++ "\""

/-! ## Values -/

mutual

/-- **A value without spaces**, the members of objects in key order. -/
def compact : Json → String
  | .null => "null"
  | .bool b => if b then "true" else "false"
  | .number n => n.text
  | .string s => quote s
  | .array items => "[" ++ compactItems items ++ "]"
  | .object members => "\x7b" ++ compactMembers members ++ "\x7d"

/-- Items, separated by commas. -/
def compactItems : List Json → String
  | [] => ""
  | [item] => compact item
  | item :: rest => compact item ++ "," ++ compactItems rest

/-- Members, separated by commas. -/
def compactMembers : List (String × Json) → String
  | [] => ""
  | [(key, value)] => quote key ++ ":" ++ compact value
  | (key, value) :: rest => quote key ++ ":" ++ compact value ++ "," ++ compactMembers rest

end

/-- The line break before an entry of the given level. -/
def lineBreak (level : Nat) : String := "\n".pushn ' ' (2 * level)

mutual

/-- A value over several lines, at a level of indentation; empty arrays and objects stay on one
line. -/
def prettyAt (level : Nat) : Json → String
  | .array (item :: rest) =>
    "[" ++ prettyItems (level + 1) (item :: rest) ++ lineBreak level ++ "]"
  | .object (member :: rest) =>
    "\x7b" ++ prettyMembers (level + 1) (member :: rest) ++ lineBreak level ++ "\x7d"
  | value => compact value

/-- Items, each on lines of its own. -/
def prettyItems (level : Nat) : List Json → String
  | [] => ""
  | [item] => lineBreak level ++ prettyAt level item
  | item :: rest => lineBreak level ++ prettyAt level item ++ "," ++ prettyItems level rest

/-- Members, each on lines of its own. -/
def prettyMembers (level : Nat) : List (String × Json) → String
  | [] => ""
  | [(key, value)] => lineBreak level ++ quote key ++ ": " ++ prettyAt level value
  | (key, value) :: rest =>
    lineBreak level ++ quote key ++ ": " ++ prettyAt level value ++ "," ++
      prettyMembers level rest

end

/-- A value over several lines. -/
def pretty (value : Json) : String := prettyAt 0 value

end RecordFilter.Json
