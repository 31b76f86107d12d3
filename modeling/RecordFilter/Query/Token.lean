import RecordFilter.Query.Combinator
import RecordFilter.Text.Percent
import RecordFilter.Text.Separated

/-!
# Tokens

The lexical tokens of a query, their canonical text, and the two-way reading of keyword segments.

* `Token` — parentheses, operators, words, binding markers and keyword segments.
* `KeywordPair.ofSegment`, `KeywordPair.text` — the entries of a keyword segment, between backticks
  written as `key=value&key`, with percent escapes.
* `Token.text`, `Token.render` — the canonical text of a token and of a list of tokens.
-/

namespace RecordFilter

/-- An entry of a keyword segment: a key with or without a value, escapes resolved. -/
structure KeywordPair where
  key : String
  value : Option String
  deriving DecidableEq, Repr

/-- A lexical token. -/
inductive Token where
  | opening
  | closing
  /-- Any literal that stands for the combinator. -/
  | operator (combinator : Combinator)
  /-- A bare word: attribute, predicate name, `not` or a literal. -/
  | word (text : String)
  /-- The marker `?`. -/
  | positional
  /-- A marker `:name`. -/
  | named (name : String)
  /-- A keyword segment. -/
  | keywords (pairs : List KeywordPair)
  deriving DecidableEq, Repr

/-! ## Keyword segments -/

namespace KeywordPair

/-- The ASCII characters that are escaped in the text of a keyword: controls, the space, and what
has a meaning inside or around a segment. -/
def isReserved (c : Char) : Bool :=
  c.toNat < 0x20 || c.toNat == 0x7F || c == ' ' || c == '%' || c == '&' || c == '=' || c == '`' ||
    c == '(' || c == ')'

/-- The entry that one part of a segment stands for; the first `=` ends the key. -/
def ofPart (part : List Char) : KeywordPair :=
  match Text.splitFirst? '=' part with
  | some (key, value) =>
    ⟨String.ofList (Percent.decode key), some (String.ofList (Percent.decode value))⟩
  | none => ⟨String.ofList (Percent.decode part), none⟩

/-- **The entries of a segment**: its parts between `&`, empty ones left out. -/
def ofSegment (body : List Char) : List KeywordPair :=
  ((Text.splitAll '&' body).filter fun part => !part.isEmpty).map ofPart

/-- A text with its reserved characters escaped. -/
def escape (text : String) : String := String.ofList (Percent.encode isReserved text.toList)

/-- The canonical text of an entry. -/
def text (pair : KeywordPair) : String :=
  match pair.value with
  | some value => escape pair.key ++ "=" ++ escape value
  | none => escape pair.key

end KeywordPair

/-! ## Canonical text -/

namespace Token

/-- The canonical text of a token. -/
def text : Token → String
  | .opening => "("
  | .closing => ")"
  | .operator combinator => combinator.operator
  | .word text => text
  | .positional => "?"
  | .named name => ":" ++ name
  | .keywords pairs => "`" ++ Text.join "&" (pairs.map KeywordPair.text) ++ "`"

/-- **The canonical text of a list of tokens**: single spaces between them. -/
def render (tokens : List Token) : String := Text.join " " (tokens.map text)

/-- A token that is neither a parenthesis nor an operator. -/
def isPlain : Token → Bool
  | .opening | .closing | .operator _ => false
  | _ => true

end Token

end RecordFilter
