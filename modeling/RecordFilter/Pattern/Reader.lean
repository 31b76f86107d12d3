import RecordFilter.Pattern.Syntax
import RecordFilter.Text.Hex

/-!
# Reading regular expressions

The grammar of regular expressions: alternatives, repetitions, groups with flags and names,
bracketed classes with set operations, escapes and assertions. There are no look-around assertions
and no references to groups.

* `Flags` — what `(?i)` and its like turn on and off; also the initial flags.
* `Reading` — a step of reading; it fails on a text that is no expression.
* `Reading.alternatives` — an expression up to the end of its group.
* `Regex.readAhead?`, `Regex.read?` — the expression at the head of a text, and a whole text as an
  expression.

Every loop has a bound that grows with the text and is not met before the text ends.
-/

namespace RecordFilter.Pattern

/-! ## State -/

/-- The flags in effect. -/
structure Flags where
  /-- `i`: case does not matter. -/
  ignoreCase : Bool := false
  /-- `m`: `^` and `$` match at line breaks. -/
  multiLine : Bool := false
  /-- `s`: the dot matches line breaks. -/
  dotAll : Bool := false
  /-- `R`: carriage return and line feed are one line break. -/
  crlf : Bool := false
  /-- `u`: classes and boundaries are those of Unicode. -/
  unicode : Bool := true
  /-- `x`: whitespace and comments in the expression count for nothing. -/
  verbose : Bool := false

/-- The condition of `^`. -/
def Flags.lineStart (f : Flags) : Assertion :=
  if !f.multiLine then .textStart else if f.crlf then .lineStartCrlf else .lineStart

/-- What is left to read, the flags, and the names of groups so far. -/
structure ReadState where
  rest : List Char
  flags : Flags
  names : List (List Char) := []

/-- A step of reading. -/
abbrev Reading (α : Type) := StateT ReadState Option α

namespace Reading

/-- The text ahead. -/
def ahead : Reading (List Char) := return (← get).rest

/-- The flags that hold where the reader stands. -/
def flags : Reading Flags := return (← get).flags

/-- Goes on at a text. -/
def goTo (rest : List Char) : Reading Unit := modify fun s => { s with rest }

/-- Drops whitespace and comments from the head of a text; the first argument bounds the number of
lines. -/
def dropVerbose : Nat → List Char → List Char
  | 0, cs => cs
  | fuel + 1, cs =>
    match cs.dropWhile Text.isWhitespace with
    | '#' :: rest => dropVerbose fuel (rest.dropWhile (· != '\n'))
    | cs => cs

/-- Where whitespace counts for nothing, goes on after it. -/
def skipVerbose : Reading Unit := do
  if (← flags).verbose then
    let cs ← ahead
    goTo (dropVerbose (cs.length + 1) cs)

/-- The next character. -/
def next : Reading Char := do
  match ← ahead with
  | c :: rest => goTo rest; return c
  | [] => failure

/-- Requires a character. -/
def expect (c : Char) : Reading Unit := do
  let d ← next
  guard (c == d)

/-! ## Characters and classes by name -/

/-- A set with its case variants where case does not matter. -/
def cased (set : CharSet) : Reading CharSet := do
  let f ← flags
  if !f.ignoreCase then return set
  else if f.unicode then return set.closeUnderCase
  else
    return fun c => set c || (c.toNat < 128 && (set c.toLower || set c.toUpper))

/-- The complement where wanted. Without Unicode it would hold parts of characters. -/
def negated (negate : Bool) (set : CharSet) : Reading CharSet := do
  if negate then
    guard (← flags).unicode
    return set.complement
  else return set

/-- The set of `\d`, `\s`, `\w` or their complements. -/
def perlClass (c : Char) : Reading CharSet := do
  let f ← flags
  let set : CharSet :=
    if c.toLower == 'd' then (if f.unicode then .digit else .asciiDigit)
    else if c.toLower == 's' then (if f.unicode then .space else .asciiSpace)
    else (if f.unicode then .word else .asciiWord)
  negated c.isUpper set

/-- The name of a property in lower case, without separators and a leading `is`. -/
def propertyName (cs : List Char) : String :=
  let plain := (cs.filter fun c => c != ' ' && c != '-' && c != '_').map Char.toLower
  match plain with
  | 'i' :: 's' :: rest => if rest == ['c'] then "isc" else String.ofList rest
  | _ => String.ofList plain

/-- The set of a property with its value, such as `general category = letter` or `script = greek`,
or of a value alone. -/
def property (cs : List Char) : Reading CharSet := do
  let isMark (c : Char) := c == '=' || c == ':' || c == '!'
  let before := cs.takeWhile fun c => !isMark c
  match cs.dropWhile fun c => !isMark c with
  | [] => (CharSet.ofProperty? (propertyName cs)).getM
  | mark :: value =>
    let name := propertyName before
    let ofValue? ←
      if name == "gc" || name == "generalcategory" then pure CharSet.ofCategoryName?
      else if name == "sc" || name == "script" then pure CharSet.ofScriptName?
      else failure
    let (inverse, value) := match mark, value with
      | '!', '=' :: value => (true, value)
      | _, value => (false, value)
    guard (mark != '!' || inverse)
    let set ← (ofValue? (propertyName value)).getM
    return if inverse then set.complement else set

/-- A Unicode class after `\p` or `\P`: one letter, or a name in braces. -/
def unicodeClass (inverse : Bool) : Reading CharSet := do
  guard (← flags).unicode
  skipVerbose
  let c ← next
  let name ←
    if c == '{' then do
      skipVerbose
      let cs ← ahead
      let name := cs.takeWhile (· != '}')
      goTo (cs.dropWhile (· != '}'))
      expect '}'
      pure name
    else do
      guard (c != '\\')
      pure [c]
  guard !name.isEmpty
  let set ← cased (← property name)
  negated inverse set

/-! ## Escapes -/

/-- A character by its code. -/
def charOfCode (code : Nat) : Reading Char := do
  guard (code < 0xD800 || (0xE000 ≤ code && code < 0x110000))
  return Char.ofNat code

/-- The character of a hexadecimal escape: digits in braces, or as many as the letter asks for. Two
digits without braces stand for a byte, which without Unicode has to be ASCII. -/
def hexEscape (digits : Nat) : Reading Char := do
  skipVerbose
  let cs ← ahead
  match cs with
  | '{' :: rest =>
    let code := rest.takeWhile (· != '}')
    goTo (rest.dropWhile (· != '}'))
    expect '}'
    let verbose := (← flags).verbose
    let code := if verbose then code.filter fun c => !Text.isWhitespace c else code
    guard !code.isEmpty
    charOfCode (← (Hex.number? code).getM)
  | _ =>
    guard (digits ≤ cs.length)
    goTo (cs.drop digits)
    let code ← (Hex.number? (cs.take digits)).getM
    guard ((← flags).unicode || digits != 2 || code < 128)
    charOfCode code

/-- What an escape stands for. -/
inductive Escape where
  | char (c : Char)
  | set (set : CharSet)
  | assertion (condition : Assertion)

/-- Punctuation that an escape leaves as it is: ASCII, and no letter, digit or angle. -/
def isEscapable (c : Char) : Bool :=
  c.toNat < 128 && !c.isAlphanum && c != '<' && c != '>'

/-- The set of word characters in effect. -/
def wordSet : Reading CharSet := return if (← flags).unicode then .word else .asciiWord

/-- A word boundary by name, `start` to `end-half`; nothing is read where no name follows. -/
def namedBoundary? : Reading (Option Assertion) := do
  match ← ahead with
  | '{' :: rest =>
    let name := rest.takeWhile fun c => c.isAlpha || c == '-'
    if name.isEmpty then return none
    goTo (rest.drop name.length)
    expect '}'
    let word ← wordSet
    match String.ofList name with
    | "start" => return some (.wordStart word)
    | "end" => return some (.wordEnd word)
    | "start-half" => return some (.wordStartHalf word)
    | "end-half" => return some (.wordEndHalf word)
    | _ => failure
  | _ => return none

/-- **An escape**, after its backslash. -/
def escape : Reading Escape := do
  let c ← next
  match c with
  | 'x' => return .char (← hexEscape 2)
  | 'u' => return .char (← hexEscape 4)
  | 'U' => return .char (← hexEscape 8)
  | 'p' => return .set (← unicodeClass false)
  | 'P' => return .set (← unicodeClass true)
  | 'd' | 's' | 'w' | 'D' | 'S' | 'W' => return .set (← perlClass c)
  | 'a' => return .char '\x07'
  | 'f' => return .char '\x0c'
  | 't' => return .char '\t'
  | 'n' => return .char '\n'
  | 'r' => return .char '\r'
  | 'v' => return .char '\x0b'
  | 'A' => return .assertion .textStart
  | 'z' => return .assertion .textEnd
  | 'B' => return .assertion (.noBoundary (← wordSet))
  | 'b' =>
    match ← namedBoundary? with
    | some condition => return .assertion condition
    | none => return .assertion (.boundary (← wordSet))
  | '<' => return .assertion (.wordStart (← wordSet))
  | '>' => return .assertion (.wordEnd (← wordSet))
  | _ =>
    guard (isEscapable c)
    return .char c

/-! ## Bracketed classes -/

/-- An ASCII class such as `[:alpha:]` at the head of a text, with what follows it. -/
def asciiClass? (cs : List Char) : Option (Bool × CharSet × List Char) :=
  match cs with
  | '[' :: ':' :: rest =>
    let (inverse, rest) := match rest with
      | '^' :: rest => (true, rest)
      | _ => (false, rest)
    match rest.dropWhile (· != ':') with
    | ':' :: ']' :: after =>
      (CharSet.ofAsciiName? (String.ofList (rest.takeWhile (· != ':')))).map
        fun set => (inverse, set, after)
    | _ => none
  | _ => none

/-- One member of a class: a character or the set of an escape. -/
def classMember : Reading Escape := do
  match ← next with
  | '\\' => escape
  | c => return .char c

/-- A character of a class. Without Unicode it has to be ASCII. -/
def classChar : Escape → Reading Char
  | .char c => do
    guard ((← flags).unicode || c.toNat < 128)
    return c
  | _ => failure

/-- A member alone, or a range of characters. A hyphen before a closing bracket or before another
hyphen makes no range. -/
def classRange : Reading CharSet := do
  let first ← classMember
  skipVerbose
  let alone : Reading CharSet := do
    match first with
    | .set set => return set
    | _ => return .single (← classChar first)
  let cs ← ahead
  guard !cs.isEmpty
  match cs with
  | '-' :: rest =>
    let f ← flags
    let follows := if f.verbose then dropVerbose (rest.length + 1) rest else rest
    match follows with
    | ']' :: _ | '-' :: _ => alone
    | _ =>
      goTo rest
      skipVerbose
      let last ← classMember
      let low ← classChar first
      let high ← classChar last
      guard (low ≤ high)
      return .range low high
  | _ => alone

/-- The operations between sets of a class. -/
inductive SetOperation where
  | intersection
  | difference
  | symmetricDifference

/-- The operation of a doubled sign at the head of a text. -/
def setOperation? : List Char → Option (SetOperation × List Char)
  | '&' :: '&' :: rest => some (.intersection, rest)
  | '-' :: '-' :: rest => some (.difference, rest)
  | '~' :: '~' :: rest => some (.symmetricDifference, rest)
  | _ => none

/-- The set that an operation between two sets in brackets yields. -/
def SetOperation.apply : SetOperation → CharSet → CharSet → CharSet
  | .intersection => CharSet.intersection
  | .difference => CharSet.difference
  | .symmetricDifference => CharSet.symmetricDifference

/-- The result of an operation that waits for its right side. -/
def complete (left : Option (SetOperation × CharSet)) (right : CharSet) : Reading CharSet :=
  match left with
  | none => return right
  | some (operation, left) => return operation.apply (← cased left) (← cased right)

/-- Hyphens at the head of a class, which stand for themselves. -/
def leadingHyphens : Nat → CharSet → Reading CharSet
  | 0, set => return set
  | fuel + 1, set => do
    match ← ahead with
    | '-' :: rest =>
      goTo rest
      skipVerbose
      leadingHyphens fuel (set.union (.single '-'))
    | [] => failure
    | _ => return set

mutual

/-- **A bracketed class**, after its bracket. -/
def bracketed : Nat → Reading CharSet
  | 0 => failure
  | fuel + 1 => do
    skipVerbose
    let inverse ← match ← ahead with
      | '^' :: rest => goTo rest; skipVerbose; pure true
      | _ => pure false
    let cs ← ahead
    let hyphens ← leadingHyphens (cs.length + 1) .none
    let start ← match ← ahead with
      | [] => failure
      | c :: rest =>
        let isFirst := rest.length + 1 == cs.length
        if c == ']' && isFirst then do
          goTo rest
          skipVerbose
          guard !(← ahead).isEmpty
          pure (CharSet.single ']')
        else pure hyphens
    let set ← members fuel none start
    negated inverse (← cased set)

/-- The members of a class up to its closing bracket, given an operation that waits for its right
side and the union of the members so far. -/
def members : Nat → Option (SetOperation × CharSet) → CharSet → Reading CharSet
  | 0, _, _ => failure
  | fuel + 1, left, set => do
    skipVerbose
    let cs ← ahead
    match asciiClass? cs with
    | some (inverse, ascii, rest) =>
      goTo rest
      let ascii ← negated inverse (← cased ascii)
      members fuel left (set.union ascii)
    | none =>
      match setOperation? cs with
      | some (operation, rest) =>
        goTo rest
        let left ← complete left set
        members fuel (some (operation, left)) .none
      | none =>
        match cs with
        | [] => failure
        | ']' :: rest =>
          goTo rest
          complete left set
        | '[' :: rest =>
          goTo rest
          let inner ← bracketed fuel
          members fuel left (set.union inner)
        | _ =>
          let range ← classRange
          members fuel left (set.union range)

end

/-! ## Repetitions -/

/-- A number in braces, with whitespace around it: none where no digit stands. -/
def count? : Reading (Option Nat) := do
  let cs := (← ahead).dropWhile Text.isWhitespace
  let digits := cs.takeWhile fun c => '0' ≤ c && c ≤ '9'
  goTo ((cs.drop digits.length).dropWhile Text.isWhitespace)
  if digits.isEmpty then return none
  let value : Nat := digits.foldl (fun n c => 10 * n + (c.toNat - 48)) 0
  guard (value < Nat.pow 2 32)
  return some value

/-- The bounds in braces, after the opening brace. -/
def bounds : Reading (Nat × Option Nat) := do
  skipVerbose
  let least ← count?
  match ← next with
  | '}' => return (← least.getM, some (← least.getM))
  | ',' =>
    skipVerbose
    match ← ahead with
    | '}' :: rest =>
      goTo rest
      return (← least.getM, none)
    | _ =>
      let least ← least.getM
      let most ← (← count?).getM
      expect '}'
      guard (least ≤ most)
      return (least, some most)
  | _ => failure

/-- A question mark after a repetition, which changes only which match is preferred. -/
def lazyMark : Reading Unit := do
  skipVerbose
  match ← ahead with
  | '?' :: rest => goTo rest
  | _ => return ()

/-- The body of a repetition: the last part so far. Flags are no body. -/
def repeatLast (least : Nat) (most : Option Nat) :
    List (Option Regex) → Reading (List (Option Regex))
  | some body :: parts => do
    lazyMark
    return some (.times body least most) :: parts
  | _ => failure

/-! ## Groups -/

/-- One flag turned on or off. -/
def Flags.set (f : Flags) (flag : Char) (on : Bool) : Option Flags :=
  match flag with
  | 'i' => some { f with ignoreCase := on }
  | 'm' => some { f with multiLine := on }
  | 's' => some { f with dotAll := on }
  | 'R' => some { f with crlf := on }
  | 'u' => some { f with unicode := on }
  | 'x' => some { f with verbose := on }
  | 'U' => some f
  | _ => none

/-- Flags up to the character that ends them: each at most once, and a minus before those that are
turned off. `last` is the minus if it came last. -/
def flagList : Nat → (seen : List Char) → (on last : Bool) → Flags →
    Reading (Flags × List Char × Char)
  | 0, _, _, _, _ => failure
  | fuel + 1, seen, on, last, f => do
    let c ← next
    if c == ':' || c == ')' then
      guard !last
      return (f, seen, c)
    else if c == '-' then
      guard on
      flagList fuel seen false true f
    else
      guard !(seen.contains c)
      let f ← (Flags.set f c on).getM
      flagList fuel (c :: seen) on false f

/-- The name of a group up to its angle: a letter or an underscore, then letters, digits and a few
signs. -/
def groupName : Reading Unit := do
  let cs ← ahead
  let name := cs.takeWhile (· != '>')
  goTo (cs.drop name.length)
  expect '>'
  let isLetter (c : Char) :=
    Text.isAlphanumeric c && !CharSet.ofCategories [.decimalNumber, .otherNumber] c
  let isLater (c : Char) := Text.isNameChar c || c == '.' || c == '[' || c == ']'
  match name with
  | [] => failure
  | first :: later =>
    guard ((first == '_' || isLetter first) && later.all isLater)
    guard !((← get).names.contains name)
    modify fun s => { s with names := name :: s.names }

/-- The opening of a group, after its parenthesis: whether it goes on with an expression, or only
changes the flags of what follows. -/
def groupOpening : Reading Bool := do
  skipVerbose
  match ← ahead with
  | '?' :: 'P' :: '<' :: rest => goTo rest; groupName; return true
  | '?' :: '<' :: '=' :: _ | '?' :: '<' :: '!' :: _ => failure
  | '?' :: '<' :: rest => goTo rest; groupName; return true
  | '?' :: rest =>
    goTo rest
    let (f, seen, last) ← flagList (rest.length + 1) [] true false (← flags)
    guard (last == ':' || !seen.isEmpty)
    modify fun s => { s with flags := f }
    return last == ':'
  | _ => return true

/-! ## Expressions -/

/-- The expression of an escape outside of classes. -/
def ofEscape : Escape → Reading Regex
  | .char c => return .chars (← cased (.single c))
  | .set set => return .chars set
  | .assertion condition => return .assertion condition

/-- The dot. Without Unicode it would match parts of characters. -/
def dot : Reading Regex := do
  let f ← flags
  guard f.unicode
  return .chars fun c => f.dotAll || (c != '\n' && !(f.crlf && c == '\r'))

/-- The condition of `^`, as an expression. -/
def caret : Reading Regex := return .assertion (← flags).lineStart

/-- The condition of `$`. -/
def dollar : Reading Regex := do
  let f ← flags
  return .assertion
    (if !f.multiLine then .textEnd else if f.crlf then .lineEndCrlf else .lineEnd)

/-- Parts in reverse, one after the other. -/
def sequence (parts : List (Option Regex)) : Regex :=
  parts.foldl
    (fun later part =>
      match part, later with
      | none, _ => later
      | some part, .empty => part
      | some part, _ => .seq part later)
    .empty

mutual

/-- **An expression** up to the end of the text or of its group: alternatives between bars. The
second argument counts the groups that may still be opened inside. -/
def alternatives : Nat → Nat → Reading Regex
  | 0, _ => failure
  | fuel + 1, depth => do
    let first ← parts fuel depth []
    match ← ahead with
    | '|' :: rest =>
      goTo rest
      let others ← alternatives fuel depth
      return .either first others
    | _ => return first

/-- The parts of one alternative, given those before them in reverse. -/
def parts : Nat → Nat → List (Option Regex) → Reading Regex
  | 0, _, _ => failure
  | fuel + 1, depth, before => do
    skipVerbose
    match ← ahead with
    | [] | '|' :: _ | ')' :: _ => return sequence before
    | c :: rest =>
      goTo rest
      match c with
      | '(' =>
        let part ← group fuel depth
        parts fuel depth (part :: before)
      | '[' =>
        let set ← bracketed (2 * rest.length + 2)
        parts fuel depth (some (.chars set) :: before)
      | '*' => parts fuel depth (← repeatLast 0 none before)
      | '+' => parts fuel depth (← repeatLast 1 none before)
      | '?' => parts fuel depth (← repeatLast 0 (some 1) before)
      | '{' =>
        guard (before.head?.any (·.isSome))
        let (least, most) ← bounds
        parts fuel depth (← repeatLast least most before)
      | '.' => parts fuel depth (some (← dot) :: before)
      | '^' => parts fuel depth (some (← caret) :: before)
      | '$' => parts fuel depth (some (← dollar) :: before)
      | '\\' => parts fuel depth (some (← ofEscape (← escape)) :: before)
      | c => parts fuel depth (some (.chars (← cased (.single c))) :: before)

/-- A group, after its parenthesis; flags alone are no part. -/
def group : Nat → Nat → Reading (Option Regex)
  | 0, _ => failure
  | _ + 1, 0 => failure
  | fuel + 1, depth + 1 => do
    let outer ← flags
    if ← groupOpening then
      let body ← alternatives fuel depth
      expect ')'
      modify fun s => { s with flags := outer }
      return some body
    else return none

end

end Reading

/-- The expression at the head of a text and what it leaves, which is nothing or begins with a
parenthesis that closes no group; `depth` groups may be opened inside of each other. -/
def Regex.readAhead? (depth : Nat) (f : Flags) (cs : List Char) : Option (Regex × List Char) :=
  ((Reading.alternatives (4 * cs.length + 4) depth).run { rest := cs, flags := f }).map
    fun (r, s) => (r, s.rest)

/-- **A text as a regular expression**, with initial flags; groups nest 250 deep at most. -/
def Regex.read? (flags : Flags) (text : String) : Option Regex :=
  let cs := text.toList
  match (Reading.alternatives (4 * cs.length + 4) 250).run { rest := cs, flags } with
  | some (r, s) => if s.rest.isEmpty then some r else none
  | none => none

end RecordFilter.Pattern
