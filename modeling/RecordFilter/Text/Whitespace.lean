/-!
# Whitespace

The characters with the Unicode property White_Space. They separate the words of a query and may not
occur in an operator.

* `isWhitespace` — the class.
* `isBlank` — a text of whitespace only.
-/

namespace RecordFilter.Text

/-- **The 25 characters of the property White_Space**: the controls from tab to carriage return, the
space, next line, the no-break space and the spaces and separators beyond Latin-1. -/
def isWhitespace (c : Char) : Bool :=
  let code := c.toNat
  (9 ≤ code && code ≤ 13) || code == 0x20 || code == 0x85 || code == 0xA0 || code == 0x1680 ||
  (0x2000 ≤ code && code ≤ 0x200A) || code == 0x2028 || code == 0x2029 || code == 0x202F ||
  code == 0x205F || code == 0x3000

/-- A text that is empty or holds whitespace only. -/
def isBlank (text : String) : Bool := text.toList.all isWhitespace

/-- A text with whitespace somewhere in it. -/
def hasWhitespace (text : String) : Bool := text.toList.any isWhitespace

end RecordFilter.Text
