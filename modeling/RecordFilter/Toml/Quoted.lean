import RecordFilter.Text.Hex

/-!
# Strings and keys of TOML

* `Toml.readString?` — a string of one of the four forms: basic or literal, on one line or several.
* `Toml.readKey?` — a dotted key of bare and quoted parts.
* `Toml.quote`, `Toml.keyText` — the basic string of a text, and a part of a key.
-/

namespace RecordFilter.Toml

/-! ## Characters -/

/-- The whitespace within a line. -/
def isBlank (c : Char) : Bool := c == ' ' || c == '\t'

/-- A text without the whitespace at its head, within the line. -/
def skipBlank (cs : List Char) : List Char := cs.dropWhile isBlank

/-- A character that may stand in a comment or a literal string: the tab and what prints. -/
def isPlain (c : Char) : Bool := c == '\t' || (0x20 ≤ c.toNat && c.toNat != 0x7F)

/-- A line break at the head of a text: what follows it. -/
def afterBreak? : List Char → Option (List Char)
  | '\n' :: rest => some rest
  | '\r' :: '\n' :: rest => some rest
  | _ => none

/-- Whitespace and line breaks dropped from the head of a text; the first argument bounds their
number. -/
def skipBlankLines : Nat → List Char → List Char
  | 0, cs => cs
  | fuel + 1, cs =>
    match afterBreak? (skipBlank cs) with
    | some rest => skipBlankLines fuel rest
    | none => skipBlank cs

/-- A character by the hexadecimal digits of its code. -/
def readCode? (digits : Nat) (cs : List Char) : Option (Char × List Char) := do
  guard (digits ≤ cs.length)
  let code ← Hex.number? (cs.take digits)
  guard (code < 0xD800 || (0xE000 ≤ code && code < 0x110000))
  return (Char.ofNat code, cs.drop digits)

/-- The character of an escape, after its backslash. -/
def readEscape? : List Char → Option (Char × List Char)
  | 'b' :: rest => some ('\x08', rest)
  | 't' :: rest => some ('\t', rest)
  | 'n' :: rest => some ('\n', rest)
  | 'f' :: rest => some ('\x0c', rest)
  | 'r' :: rest => some ('\r', rest)
  | '"' :: rest => some ('"', rest)
  | '\\' :: rest => some ('\\', rest)
  | 'u' :: rest => readCode? 4 rest
  | 'U' :: rest => readCode? 8 rest
  | _ => none

/-! ## Strings on one line -/

/-- The characters of a basic string up to its closing quote. The first argument bounds their
number. -/
def readBasic : Nat → List Char → Option (List Char × List Char)
  | 0, _ | _ + 1, [] => none
  | fuel + 1, c :: rest =>
    if c == '"' then some ([], rest)
    else if c == '\\' then
      (readEscape? rest).bind fun (d, rest) =>
        (readBasic fuel rest).map fun (ds, rest) => (d :: ds, rest)
    else if isPlain c then (readBasic fuel rest).map fun (ds, rest) => (c :: ds, rest)
    else none

/-- The characters of a literal string up to its closing apostrophe. -/
def readLiteral? (cs : List Char) : Option (List Char × List Char) :=
  match cs.dropWhile fun c => c != '\'' && isPlain c with
  | '\'' :: rest => some (cs.takeWhile fun c => c != '\'' && isPlain c, rest)
  | _ => none

/-! ## Strings over several lines -/

/-- The characters of a string over several lines up to its three closing quotes, of which up to two
more may stand before these. The first argument bounds their number. -/
def readLines (quote : Char) (escapes : Bool) : Nat → List Char → Option (List Char × List Char)
  | 0, _ | _ + 1, [] => none
  | fuel + 1, c :: rest =>
    if c == quote then
      let run := (rest.takeWhile (· == quote)).length + 1
      let after := rest.dropWhile (· == quote)
      if run < 3 then
        (readLines quote escapes fuel after).map fun (ds, rest) =>
          (List.replicate run quote ++ ds, rest)
      else if run ≤ 5 then some (List.replicate (run - 3) quote, after)
      else none
    else if escapes && c == '\\' then
      match afterBreak? (skipBlank rest) with
      | some next => readLines quote escapes fuel (skipBlankLines (next.length + 1) next)
      | none =>
        (readEscape? rest).bind fun (d, rest) =>
          (readLines quote escapes fuel rest).map fun (ds, rest) => (d :: ds, rest)
    else
      match afterBreak? (c :: rest) with
      | some next => (readLines quote escapes fuel next).map fun (ds, rest) => ('\n' :: ds, rest)
      | none =>
        if isPlain c then
          (readLines quote escapes fuel rest).map fun (ds, rest) => (c :: ds, rest)
        else none

/-- A line break right after the opening quotes does not count. -/
def skipFirstBreak (cs : List Char) : List Char := (afterBreak? cs).getD cs

/-- **A string** of any form, and what follows it. -/
def readString? (cs : List Char) : Option (String × List Char) :=
  let read := match cs with
    | '"' :: '"' :: '"' :: rest => readLines '"' true (rest.length + 1) (skipFirstBreak rest)
    | '"' :: rest => readBasic (rest.length + 1) rest
    | '\'' :: '\'' :: '\'' :: rest => readLines '\'' false (rest.length + 1) (skipFirstBreak rest)
    | '\'' :: rest => readLiteral? rest
    | _ => none
  read.map fun (text, rest) => (String.ofList text, rest)

/-! ## Keys -/

/-- A character of a part without quotes. -/
def isBare (c : Char) : Bool := c.isAlphanum || c == '_' || c == '-'

/-- A part of a key: bare, or a string on one line. -/
def readKeyPart? (cs : List Char) : Option (String × List Char) :=
  match cs with
  | '"' :: rest =>
    (readBasic (rest.length + 1) rest).map fun (text, rest) => (String.ofList text, rest)
  | '\'' :: rest => (readLiteral? rest).map fun (text, rest) => (String.ofList text, rest)
  | _ =>
    match cs.span isBare with
    | ([], _) => none
    | (part, rest) => some (String.ofList part, rest)

/-- The parts of a key with dots between them and whitespace around them. The first argument bounds
their number. -/
def readKeyParts : Nat → List Char → Option (List String × List Char)
  | 0, _ => none
  | fuel + 1, cs => do
    let (part, rest) ← readKeyPart? (skipBlank cs)
    match skipBlank rest with
    | '.' :: rest =>
      let (parts, rest) ← readKeyParts fuel rest
      return (part :: parts, rest)
    | rest => return ([part], rest)

/-- The greatest depth of nested values and the greatest number of parts of a key. -/
def depthLimit : Nat := 79

/-- **A dotted key** of a limited number of parts, and what follows it. -/
def readKey? (cs : List Char) : Option (List String × List Char) :=
  readKeyParts depthLimit cs

/-! ## Writing -/

/-- One character of a basic string. -/
def escapeChar (c : Char) : List Char :=
  if c == '"' then ['\\', '"']
  else if c == '\\' then ['\\', '\\']
  else if c.toNat < 32 || c.toNat == 0x7F then
    ['\\', 'u', '0', '0', Hex.upper (c.toNat / 16), Hex.upper (c.toNat % 16)]
  else [c]

/-- The basic string of a text. -/
def quote (text : String) : String := "\"" ++ String.ofList (text.toList.flatMap escapeChar) ++ "\""

/-- A part of a key, with quotes only where it needs them. -/
def keyText (part : String) : String :=
  if !part.isEmpty && part.toList.all isBare then part else quote part

end RecordFilter.Toml
