/-!
# Separated texts

Texts whose parts are divided by a separator: dotted names, keyword lists, token lists.

* `Text.splitAll` — the parts between all occurrences of a separator; there is always one more part
  than separators.
* `Text.splitFirst?` — the parts before and after the first occurrence.
* `Text.join` — parts with a separator between them.
* `Text.contains` — one text as a part of another.
-/

namespace RecordFilter.Text

/-- The parts between the occurrences of a separator; empty parts are kept. -/
def splitAll (separator : Char) : List Char → List (List Char)
  | [] => [[]]
  | c :: rest =>
    if c = separator then [] :: splitAll separator rest
    else
      match splitAll separator rest with
      | [] => [[c]]
      | part :: parts => (c :: part) :: parts

/-- What stands before and after the first occurrence of a separator, if there is one. -/
def splitFirst? (separator : Char) : List Char → Option (List Char × List Char)
  | [] => none
  | c :: rest =>
    if c = separator then some ([], rest)
    else (splitFirst? separator rest).map fun (before, after) => (c :: before, after)

/-- The parts of a string between the occurrences of a separator. -/
def split (separator : Char) (text : String) : List String :=
  (splitAll separator text.toList).map String.ofList

/-- What stands before and after the first occurrence of a separator in a string. -/
def splitOnce? (separator : Char) (text : String) : Option (String × String) :=
  (splitFirst? separator text.toList).map fun (before, after) =>
    (String.ofList before, String.ofList after)

/-- Parts with a separator between them. -/
def join (separator : String) : List String → String
  | [] => ""
  | [part] => part
  | part :: rest => part ++ separator ++ join separator rest

/-- Whether a list of characters occurs in another, without gaps. -/
def occursIn (part : List Char) : List Char → Bool
  | [] => part.isEmpty
  | c :: rest => part.isPrefixOf (c :: rest) || occursIn part rest

/-- Whether a text has another as a part. -/
def contains (text part : String) : Bool := occursIn part.toList text.toList

/-- Whether a text starts with another. -/
def startsWith (text start : String) : Bool := start.toList.isPrefixOf text.toList

/-- Whether a text ends with another. -/
def endsWith (text ending : String) : Bool := ending.toList.isSuffixOf text.toList

end RecordFilter.Text
