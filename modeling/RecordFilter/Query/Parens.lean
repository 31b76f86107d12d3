import RecordFilter.Query.Token

/-!
# Parentheses

Which parentheses of a token list matter, and the removal of those that do not: a pair around terms
only, which no other item touches, groups nothing.

* `Parens.balanced` — whether parentheses pair in a text.
* `Token.stripOnce` — one pass, which removes all such pairs that the list shows;
  `Token.stripParens` — passes until nothing changes, with their number.
* `Token.isGroup` — whether a list is one group: its first parenthesis closes at its end.
-/

namespace RecordFilter

namespace Parens

/-- Whether the parentheses of a text pair, given that some are open before it. -/
def balancedFrom : (depth : Nat) → List Char → Bool
  | depth, [] => depth == 0
  | depth, c :: rest =>
    if c = '(' then balancedFrom (depth + 1) rest
    else if c = ')' then
      match depth with
      | 0 => false
      | depth + 1 => balancedFrom depth rest
    else balancedFrom depth rest

/-- Whether the parentheses of a text pair. -/
def balanced (cs : List Char) : Bool := balancedFrom 0 cs

end Parens

namespace Token

/-! ## Redundant pairs -/

/-- Whether an opening parenthesis may go: the token before it is absent, an opening parenthesis or
an operator. -/
def standsAfter : Option Token → Bool
  | none | some .opening | some (.operator _) => true
  | _ => false

/-- Whether a closing parenthesis may go: the token after it is absent, a closing parenthesis or an
operator. -/
def standsBefore : Option Token → Bool
  | none | some .closing | some (.operator _) => true
  | _ => false

/-- Whether the tokens after an opening parenthesis are one plain token at least and then a closing
parenthesis that may go. -/
def closesPlain (rest : List Token) : Bool :=
  match rest.dropWhile isPlain with
  | .closing :: after => !(rest.takeWhile isPlain).isEmpty && standsBefore after.head?
  | _ => false

/-- One pass over the tokens after `previous`; `dropping` while inside a pair that is removed. -/
def stripFrom (previous : Option Token) (dropping : Bool) : List Token → List Token
  | [] => []
  | .opening :: rest =>
    if standsAfter previous && closesPlain rest then stripFrom (some .opening) true rest
    else .opening :: stripFrom (some .opening) false rest
  | .closing :: rest =>
    if dropping then stripFrom (some .closing) false rest
    else .closing :: stripFrom (some .closing) false rest
  | token :: rest => token :: stripFrom (some token) dropping rest

/-- **One pass**: removes every pair around plain tokens only that stands alone. -/
def stripOnce (tokens : List Token) : List Token := stripFrom none false tokens

/-- Stripping never makes tokens. -/
theorem length_stripFrom_le (previous : Option Token) (dropping : Bool) (tokens : List Token) :
    (stripFrom previous dropping tokens).length ≤ tokens.length := by
  fun_induction stripFrom previous dropping tokens <;> simp_all <;> omega

/-- **Passes until nothing changes**, and how many of them removed something. -/
def stripParens (tokens : List Token) : Nat × List Token :=
  let next := stripOnce tokens
  if next.length < tokens.length then
    let (passes, final) := stripParens next
    (passes + 1, final)
  else (0, tokens)
termination_by tokens.length

/-! ## Groups -/

/-- Whether the parenthesis that closes the outermost of `depth` open groups is the last token. -/
def closesAtEnd : (depth : Nat) → List Token → Bool
  | _, [] => false
  | depth, .opening :: rest => closesAtEnd (depth + 1) rest
  | depth, .closing :: rest => if depth ≤ 1 then rest.isEmpty else closesAtEnd (depth - 1) rest
  | depth, _ :: rest => closesAtEnd depth rest

/-- **Whether a list is one group**: it starts with a parenthesis that closes at its end. -/
def isGroup : List Token → Bool
  | .opening :: rest => closesAtEnd 1 rest
  | _ => false

/-- The list as one group: as it is, or in new parentheses. -/
def enclose (tokens : List Token) : List Token :=
  if isGroup tokens then tokens else .opening :: tokens ++ [.closing]

end Token

end RecordFilter
