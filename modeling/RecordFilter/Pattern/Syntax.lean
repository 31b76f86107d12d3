import RecordFilter.Text.Alphanumeric
import RecordFilter.Text.CaseFolding
import RecordFilter.Text.Category
import RecordFilter.Text.Property
import RecordFilter.Text.Script
import RecordFilter.Text.Whitespace

/-!
# Regular expressions

The structure of a regular expression after reading. Groups leave no trace, since only the question
whether a text matches is asked.

* `CharSet` — a set of characters, and the sets that expressions name.
* `Assertion` — a condition on a position between characters.
* `Regex` — the expressions.
* `Regex.size` — how large an expression is with its repetitions written out.
-/

namespace RecordFilter.Pattern

/-! ## Sets of characters -/

/-- A set of characters. -/
abbrev CharSet := Char → Bool

namespace CharSet

/-- The empty set. -/
def none : CharSet := fun _ => false

/-- The set of one character. -/
def single (c : Char) : CharSet := fun d => d == c

/-- The characters from `low` to `high`. -/
def range (low high : Char) : CharSet := fun c => low ≤ c && c ≤ high

/-- The characters in one of two sets. -/
def union (a b : CharSet) : CharSet := fun c => a c || b c

/-- The characters in both of two sets. -/
def intersection (a b : CharSet) : CharSet := fun c => a c && b c

/-- The characters of the first set that are not in the second. -/
def difference (a b : CharSet) : CharSet := fun c => a c && !b c

/-- The characters in exactly one of two sets. -/
def symmetricDifference (a b : CharSet) : CharSet := fun c => a c != b c

/-- The characters outside a set. -/
def complement (a : CharSet) : CharSet := fun c => !a c

/-- The set with all case variants of its characters. -/
def closeUnderCase (a : CharSet) : CharSet := fun c => (Text.caseVariants c).any a

/-- Decimal digits of any script. -/
def digit : CharSet := Text.Category.decimalNumber.contains

/-- The set of `\s`. -/
def space : CharSet := Text.isWhitespace

/-- Word characters: letters, marks, decimal digits, connectors and the two joiners. -/
def word : CharSet := fun c =>
  (Text.isAlphanumeric c && !Text.Category.otherNumber.contains c) ||
  [Text.Category.nonspacingMark, .spacingMark, .enclosingMark, .connectorPunctuation].any
    (·.contains c) ||
  c == '\u200c' || c == '\u200d'

/-- The set of `[:digit:]`. -/
def asciiDigit : CharSet := fun c => '0' ≤ c && c ≤ '9'

/-- The set of `[:lower:]`. -/
def asciiLower : CharSet := fun c => 'a' ≤ c && c ≤ 'z'

/-- The set of `[:upper:]`. -/
def asciiUpper : CharSet := fun c => 'A' ≤ c && c ≤ 'Z'

/-- The set of `[:alpha:]`. -/
def asciiAlpha : CharSet := union asciiLower asciiUpper

/-- The set of `[:alnum:]`. -/
def asciiAlnum : CharSet := union asciiAlpha asciiDigit

/-- The set of `[:word:]`. -/
def asciiWord : CharSet := union asciiAlnum (single '_')

/-- The six ASCII characters of `\s`. -/
def asciiSpace : CharSet := fun c => (9 ≤ c.toNat && c.toNat ≤ 13) || c == ' '

/-- ASCII characters that print and are not the space. -/
def asciiGraph : CharSet := fun c => 33 ≤ c.toNat && c.toNat ≤ 126

/-- Hexadecimal digits of ASCII. -/
def asciiHexDigit : CharSet := fun c =>
  asciiDigit c || ('a' ≤ c && c ≤ 'f') || ('A' ≤ c && c ≤ 'F')

/-- The set of a bracketed ASCII class such as `[:alpha:]`. -/
def ofAsciiName? (name : String) : Option CharSet :=
  match name with
  | "alnum" => some asciiAlnum
  | "alpha" => some asciiAlpha
  | "ascii" => some fun c => c.toNat < 128
  | "blank" => some fun c => c == ' ' || c == '\t'
  | "cntrl" => some fun c => c.toNat < 32 || c.toNat == 127
  | "digit" => some asciiDigit
  | "graph" => some asciiGraph
  | "lower" => some asciiLower
  | "print" => some fun c => c == ' ' || asciiGraph c
  | "punct" => some fun c => asciiGraph c && !asciiAlnum c
  | "space" => some asciiSpace
  | "upper" => some asciiUpper
  | "word" => some asciiWord
  | "xdigit" => some asciiHexDigit
  | _ => .none

/-- The union of several categories. -/
def ofCategories (categories : List Text.Category) : CharSet := fun c =>
  categories.any (·.contains c)

/-- The set of a binary property, by its name in lower case without separators. -/
def ofBinaryProperty? (name : String) : Option CharSet :=
  match name with
  | "alphabetic" | "alpha" => some fun c => Text.isAlphanumeric c &&
      !ofCategories [.decimalNumber, .otherNumber] c
  | "whitespace" | "wspace" | "space" => some Text.isWhitespace
  | "lowercase" | "lower" => some Text.isLowercase
  | "uppercase" | "upper" => some Text.isUppercase
  | "emoji" => some Text.isEmoji
  | "asciihexdigit" | "ahex" => some asciiHexDigit
  | "hexdigit" | "hex" => some fun c =>
    let code := c.toNat
    asciiHexDigit (if 0xFF10 ≤ code && code < 0xFF5F then Char.ofNat (code - 0xFEE0) else c)
  | _ => .none

/-- The set of a general category or a group of them, by a name in lower case without separators. -/
def ofCategoryName? (name : String) : Option CharSet :=
  match name with
  | "any" => some fun _ => true
  | "ascii" => some fun c => c.toNat < 128
  | "cntrl" => some Text.Category.control.contains
  | "assigned" => some (ofCategories Text.Category.every)
  | "cn" | "unassigned" => some (complement (ofCategories Text.Category.every))
  | "l" | "letter" => some (ofCategories [.uppercaseLetter, .lowercaseLetter, .titlecaseLetter,
      .modifierLetter, .otherLetter])
  | "lc" | "casedletter" =>
    some (ofCategories [.uppercaseLetter, .lowercaseLetter, .titlecaseLetter])
  | "m" | "mark" | "combiningmark" =>
    some (ofCategories [.nonspacingMark, .spacingMark, .enclosingMark])
  | "n" | "number" => some (ofCategories [.decimalNumber, .letterNumber, .otherNumber])
  | "p" | "punctuation" | "punct" => some (ofCategories [.connectorPunctuation, .dashPunctuation,
      .openPunctuation, .closePunctuation, .initialPunctuation, .finalPunctuation,
      .otherPunctuation])
  | "s" | "symbol" =>
    some (ofCategories [.mathSymbol, .currencySymbol, .modifierSymbol, .otherSymbol])
  | "z" | "separator" =>
    some (ofCategories [.spaceSeparator, .lineSeparator, .paragraphSeparator])
  | "c" | "other" => some fun c =>
    ofCategories [.control, .format, .privateUse] c || !ofCategories Text.Category.every c
  | "digit" => some digit
  | name => (Text.Category.ofName? name).map (·.contains)

/-- The set of a script, by a name in lower case without separators. -/
def ofScriptName? (name : String) : Option CharSet :=
  (Text.Script.ofName? name).map (·.contains)

/-- The set of a name that may be a binary property, a category or a script. -/
def ofProperty? (name : String) : Option CharSet :=
  ofBinaryProperty? name <|> ofCategoryName? name <|> ofScriptName? name

end CharSet

/-! ## Expressions -/

/-- A condition on a position. -/
inductive Assertion where
  | textStart
  | textEnd
  /-- After a line break or at the start of the text. -/
  | lineStart
  /-- Before a line break or at the end of the text. -/
  | lineEnd
  /-- As `lineStart`, where carriage return and line feed together are one break. -/
  | lineStartCrlf
  /-- As `lineEnd`, where carriage return and line feed together are one break. -/
  | lineEndCrlf
  /-- A word character on exactly one side. -/
  | boundary (word : CharSet)
  /-- Word characters on both sides or on none. -/
  | noBoundary (word : CharSet)
  | wordStart (word : CharSet)
  | wordEnd (word : CharSet)
  /-- No word character before. -/
  | wordStartHalf (word : CharSet)
  /-- No word character after. -/
  | wordEndHalf (word : CharSet)

/-- A regular expression. -/
inductive Regex where
  /-- Matches the empty text. -/
  | empty
  /-- One character of a set. -/
  | chars (set : CharSet)
  | assertion (condition : Assertion)
  /-- One after the other. -/
  | seq (first second : Regex)
  /-- Either of two. -/
  | either (left right : Regex)
  /-- At least `least` times, and at most `most` times if that is given. -/
  | times (body : Regex) (least : Nat) (most : Option Nat)

/-- The number of parts once all repetitions are written out. A repetition without end counts its
body as often as it is required, at least once; an optional part counts one more than its body. -/
def Regex.size : Regex → Nat
  | .empty | .chars _ | .assertion _ => 1
  | .seq first second => first.size + second.size
  | .either left right => left.size + right.size + 1
  | .times body least none => body.size * max least 1 + 1
  | .times body least (some most) => body.size * most + (most - least) + 1

/-- How large an expression may be that is used for matching. -/
def Regex.maxSize : Nat := 327680

end RecordFilter.Pattern
