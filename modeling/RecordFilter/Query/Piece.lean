import RecordFilter.Query.Marker
import RecordFilter.Query.Operators
import RecordFilter.Query.Token
import RecordFilter.Text.Whitespace

/-!
# Pieces of a query text

A query text is cut into pieces from left to right, and each piece stands for one token or none. The
pieces lose nothing: their texts make up the query.

* `Piece` — a whitespace character, a parenthesis, a keyword segment, a symbolic operator or a word.
* `Piece.head` — the piece at the head of a text: symbolic operators as long as possible, words up
  to the next character that starts another piece.
* `Piece.cut`, `Piece.flatten_cut` — all pieces of a text.
* `Piece.token?` — what a piece stands for; `Token.scan` — the tokens of a text.
-/

namespace RecordFilter

/-- A part of a query text. -/
inductive Piece where
  | blank (c : Char)
  | opening
  | closing
  /-- A keyword segment: its body without backticks, between a run of `before + 1` backticks and a
  run of `after + 1`. -/
  | segment (before : Nat) (body : List Char) (after : Nat)
  /-- A run of `before + 1` backticks and a body that no backtick ends. -/
  | unclosed (before : Nat) (body : List Char)
  | symbol (literal : List Char) (combinator : Combinator)
  | word (text : List Char)
  deriving DecidableEq, Repr

namespace Piece

/-- The part of the query. -/
def text : Piece → List Char
  | .blank c => [c]
  | .opening => ['(']
  | .closing => [')']
  | .segment before body after =>
    List.replicate (before + 1) '`' ++ body ++ List.replicate (after + 1) '`'
  | .unclosed before body => List.replicate (before + 1) '`' ++ body
  | .symbol literal _ => literal
  | .word text => text

/-! ## The piece at the head of a text -/

/-- The length of the run of backticks at the head of a text. -/
def backticks (cs : List Char) : Nat := (cs.takeWhile (· == '`')).length

/-- The keyword segment at the head of a text, after its first backtick. -/
def segmentAt (cs : List Char) : Piece :=
  let inside := cs.dropWhile (· == '`')
  let body := inside.takeWhile (· != '`')
  match inside.dropWhile (· != '`') with
  | [] => .unclosed (backticks cs) body
  | _ :: rest => .segment (backticks cs) body (backticks rest)

/-- Whether a word ends before the head of a text. -/
def endsWord (ops : Operators) : List Char → Bool
  | [] => true
  | c :: rest =>
    Text.isWhitespace c || c == '(' || c == ')' || c == '`' || (ops.symbolAt? (c :: rest)).isSome

/-- The characters of a word that has begun before the head of a text. -/
def wordRest (ops : Operators) : List Char → List Char
  | [] => []
  | c :: rest => if endsWord ops (c :: rest) then [] else c :: wordRest ops rest

/-- **The piece that starts with `c`** when `rest` follows. -/
def head (ops : Operators) (c : Char) (rest : List Char) : Piece :=
  if Text.isWhitespace c then .blank c
  else if c == '(' then .opening
  else if c == ')' then .closing
  else if c == '`' then segmentAt rest
  else
    match ops.symbolAt? (c :: rest) with
    | some (literal, combinator) => .symbol literal combinator
    | none => .word (c :: wordRest ops rest)

/-- The backticks at the head of a text and what follows them are the text. -/
theorem replicate_backticks_append (cs : List Char) :
    List.replicate (backticks cs) '`' ++ cs.dropWhile (· == '`') = cs := by
  induction cs with
  | nil => rfl
  | cons c rest ih =>
    by_cases hc : c = '`'
    · subst hc
      simpa [backticks, List.replicate_succ] using ih
    · simp [backticks, hc]

/-- What a segment takes of a text stands at its head. -/
theorem text_segmentAt_isPrefix (rest : List Char) : (segmentAt rest).text <+: '`' :: rest := by
  have hrun := replicate_backticks_append rest
  unfold segmentAt
  dsimp only
  have hbody := List.takeWhile_append_dropWhile (p := (· != '`')) (l := rest.dropWhile (· == '`'))
  split
  next hend =>
    refine ⟨[], ?_⟩
    rw [hend, List.append_nil] at hbody
    simp [text, List.replicate_succ, hbody, hrun]
  next c after hend =>
    have hc : c = '`' := by
      have hstop := List.head?_dropWhile_not (· != '`') (rest.dropWhile (· == '`'))
      simpa [hend] using hstop
    subst hc
    have hclose := replicate_backticks_append after
    refine ⟨after.dropWhile (· == '`'), ?_⟩
    rw [hend, ← hclose] at hbody
    calc _ = '`' :: (List.replicate (backticks rest) '`' ++
              ((rest.dropWhile (· == '`')).takeWhile (· != '`') ++
                '`' :: (List.replicate (backticks after) '`' ++ after.dropWhile (· == '`')))) := by
          simp [text, List.replicate_succ]
      _ = '`' :: (List.replicate (backticks rest) '`' ++ rest.dropWhile (· == '`')) := by
          rw [hbody]
      _ = '`' :: rest := by rw [hrun]

/-- What is left of a text behind the characters of a word stands at its head. -/
theorem wordRest_isPrefix (ops : Operators) (cs : List Char) : wordRest ops cs <+: cs := by
  induction cs with
  | nil => exact List.prefix_refl _
  | cons c rest ih =>
    unfold wordRest
    split
    · exact List.nil_prefix
    · exact List.prefix_cons_inj c |>.2 ih

/-- **The head piece is a part of the text.** -/
theorem text_head_isPrefix (ops : Operators) (c : Char) (rest : List Char) :
    (head ops c rest).text <+: c :: rest := by
  unfold head
  split
  · exact ⟨rest, rfl⟩
  · split
    next h => exact ⟨rest, by simp [text, beq_iff_eq.1 h]⟩
    next =>
      split
      next h => exact ⟨rest, by simp [text, beq_iff_eq.1 h]⟩
      next =>
        split
        next h =>
          rw [beq_iff_eq.1 h]
          exact text_segmentAt_isPrefix rest
        next =>
          split
          next h => exact (Operators.symbolAt?_eq_some h).2.1
          next => exact List.prefix_cons_inj c |>.2 (wordRest_isPrefix ops rest)

/-- The head piece is not empty. -/
theorem text_head_ne_nil (ops : Operators) (c : Char) (rest : List Char) :
    (head ops c rest).text ≠ [] := by
  unfold head segmentAt
  dsimp only
  repeat' split
  all_goals simp [text, List.replicate_succ]
  next h => exact (Operators.symbolAt?_eq_some h).2.2

/-! ## All pieces -/

/-- **The pieces of a text**, from left to right. -/
def cut (ops : Operators) : List Char → List Piece
  | [] => []
  | c :: rest =>
    let piece := head ops c rest
    piece :: cut ops ((c :: rest).drop piece.text.length)
termination_by input => input.length
decreasing_by
  have hpos := List.length_pos_iff.2 (text_head_ne_nil ops c rest)
  simp only [List.length_drop, List.length_cons]
  omega

/-- **Nothing is lost**: the texts of the pieces make up the text. -/
theorem flatten_cut (ops : Operators) (input : List Char) :
    ((cut ops input).map text).flatten = input := by
  fun_induction cut ops input with
  | case1 => rfl
  | case2 c rest piece ih =>
    obtain ⟨after, hafter⟩ := text_head_isPrefix ops c rest
    have hdrop : (c :: rest).drop piece.text.length = after := by
      rw [← hafter]; exact List.drop_left
    rw [List.map_cons, List.flatten_cons, ih, hdrop]
    exact hafter

/-! ## Tokens -/

/-- The token of a word: a marker, a word operator or a bare word. -/
def wordToken (ops : Operators) (word : String) : Except Error Token :=
  match Marker.ofWord? word with
  | .error e => .error e
  | .ok (some .positional) => .ok .positional
  | .ok (some (.named name)) => .ok (.named name)
  | .ok none =>
    match ops.classify word with
    | some combinator => .ok (.operator combinator)
    | none => .ok (.word word)

/-- **What a piece stands for**: a token, nothing, or an error that may echo the query. -/
def token? (ops : Operators) (query : String) : Piece → Except Error (Option Token)
  | .blank _ => .ok none
  | .opening => .ok (some .opening)
  | .closing => .ok (some .closing)
  | .segment _ body _ =>
    match KeywordPair.ofSegment body with
    | [] => .ok none
    | pairs => .ok (some (.keywords pairs))
  | .unclosed _ _ => .error (.oddBackticks query)
  | .symbol _ combinator => .ok (some (.operator combinator))
  | .word text => (wordToken ops (String.ofList text)).map some

/-- The tokens that pieces stand for, or the error of the first piece that has one. -/
def tokens (ops : Operators) (query : String) : List Piece → Except Error (List Token)
  | [] => .ok []
  | piece :: rest =>
    match piece.token? ops query with
    | .error e => .error e
    | .ok token =>
      match tokens ops query rest with
      | .error e => .error e
      | .ok rest => .ok (token.toList ++ rest)

end Piece

/-- **The tokens of a query text.** -/
def Token.scan (ops : Operators) (query : String) : Except Error (List Token) :=
  Piece.tokens ops query (Piece.cut ops query.toList)

end RecordFilter
