import Mathlib.Data.List.Forall2
import Mathlib.Data.List.ReduceOption
import RecordFilter.Proofs.Except.Success
import RecordFilter.Proofs.Lexing.Pieces
import RecordFilter.Query.Normalized

/-!
# What a text is scanned into

The tokens that the pieces of a text stand for.

* `Operators.classify_eq_all_iff`, `Operators.classify_eq_any_iff` — the words of each combinator.
* `Marker.Written`, `Marker.ofWord?_eq_some_iff` — the words that are markers.
* `Piece.Reads`, `Piece.wordToken_eq_ok_iff` — what a word stands for.
* `Piece.StandsFor`, `Piece.token?_eq_ok_iff` — what a piece stands for.
* `Piece.tokens_eq_ok_iff`, `Piece.exists_piece_of_mem_tokens` — tokens are what pieces stand for.
* `Token.scan_eq_ok_iff` — **which tokens a text is scanned into.**
* `Normalized.ofQuery_eq_ok_iff` — when a query has a token list, and which.
-/

namespace RecordFilter

/-- What is in one of two related lists is related to something in the other. -/
theorem exists_mem_of_forall₂ {α β : Type} {R : α → β → Prop} {as : List α} {bs : List β}
    (h : List.Forall₂ R as bs) {a : α} (ha : a ∈ as) : ∃ b ∈ bs, R a b := by
  induction h with
  | nil => cases ha
  | cons hfirst _ ih =>
    rcases List.mem_cons.1 ha with rfl | ha
    · exact ⟨_, List.mem_cons_self, hfirst⟩
    · obtain ⟨b, hb, hrelated⟩ := ih ha
      exact ⟨b, List.mem_cons_of_mem _ hb, hrelated⟩

/-! ## Words that are literals -/

namespace Operators

variable {ops : Operators}

/-- A word is in the first list, or in the second only, or in neither. -/
theorem classify_cases (ops : Operators) (word : String) :
    (word ∈ ops.all ∧ ops.classify word = some .all) ∨
      (word ∉ ops.all ∧ word ∈ ops.any ∧ ops.classify word = some .any) ∨
      word ∉ ops.all ∧ word ∉ ops.any ∧ ops.classify word = none := by
  unfold classify
  simp only [List.contains_iff_mem]
  by_cases hall : word ∈ ops.all
  · simp [hall]
  · by_cases hany : word ∈ ops.any <;> simp [hall, hany]

/-- A word is a conjunction exactly if it is listed as one. -/
theorem classify_eq_all_iff {word : String} :
    ops.classify word = some .all ↔ word ∈ ops.all := by
  rcases ops.classify_cases word with ⟨hall, h⟩ | ⟨hall, -, h⟩ | ⟨hall, -, h⟩ <;> simp [h, hall]

/-- A word is a disjunction exactly if it is listed as one only. -/
theorem classify_eq_any_iff {word : String} :
    ops.classify word = some .any ↔ word ∈ ops.any ∧ word ∉ ops.all := by
  rcases ops.classify_cases word with ⟨hall, h⟩ | ⟨hall, hany, h⟩ | ⟨hall, hany, h⟩
  · simp [h, hall]
  · simp [h, hall, hany]
  · simp [h, hany]

/-- A word is no operator exactly if it is in neither list. -/
theorem classify_eq_none_iff {word : String} :
    ops.classify word = none ↔ word ∉ ops.all ++ ops.any := by
  rcases ops.classify_cases word with ⟨hall, h⟩ | ⟨-, hany, h⟩ | ⟨hall, hany, h⟩
  · simp [h, hall]
  · simp [h, hany]
  · simp [h, hall, hany]

end Operators

/-! ## Words that are markers -/

namespace Marker

/-- **The texts of a marker**: a question mark, or colons, one at least, and a name. -/
inductive Written : Marker → List Char → Prop
  | positional : Written .positional ['?']
  | named {colons : Nat} {name : List Char} (hne : name ≠ [])
      (hname : name.all Text.isNameChar = true) :
      Written (.named (String.ofList name)) (List.replicate (colons + 1) ':' ++ name)

/-- **A text that does not begin like a marker**: it is no question mark, and it has no colon at its
beginning unless there is nothing else in it. -/
def Unmarked (text : List Char) : Prop :=
  text ≠ ['?'] ∧ (text.head? = some ':' → ∀ c ∈ text, c = ':')

/-- A question mark is the positional marker. -/
theorem ofWord?_question : ofWord? "?" = .ok (some .positional) := rfl

/-- A question mark is known by its one character. -/
theorem eq_question_iff {word : String} : word = "?" ↔ word.toList = ['?'] := by
  rw [← String.toList_inj]
  rfl

/-- What colons and a rest that does not go on with them are read as. -/
theorem ofWord?_colons {word : String} {colons : Nat} {name : List Char}
    (hword : word.toList = List.replicate colons ':' ++ name) (hname : name.head? ≠ some ':')
    (hne : word ≠ "?") :
    ofWord? word =
      if colons = 0 ∨ name = [] then .ok none
      else if name.all Text.isNameChar then .ok (some (.named (String.ofList name)))
      else .error (.invalidMarker word) := by
  have hrest : nameAfterColons word.toList = name := by
    rw [nameAfterColons, hword, Text.dropWhile_run colons hname]
  have hlength : name.length = word.toList.length ↔ colons = 0 := by
    rw [hword, List.length_append, List.length_replicate]
    omega
  unfold ofWord?
  simp only [if_neg hne, hrest, hlength]

/-- A written marker is read as the marker. -/
theorem Written.ofWord?_eq {word : String} {text : List Char} {marker : Marker}
    (h : marker.Written text) (hword : word.toList = text) :
    ofWord? word = .ok (some marker) := by
  cases h with
  | positional =>
    rw [eq_question_iff.2 hword]
    rfl
  | @named colons name hne hname =>
    have hhead : name.head? ≠ some ':' := by
      intro hcolon
      exact absurd (List.all_eq_true.1 hname ':' (List.mem_of_mem_head? hcolon)) (by decide)
    have hquestion : word ≠ "?" := by
      intro heq
      rw [eq_question_iff.1 heq] at hword
      cases hword
    rw [ofWord?_colons hword hhead hquestion, if_neg (by simpa using hne), if_pos hname]

/-- **Which words are markers.** -/
theorem ofWord?_eq_some_iff {word : String} {marker : Marker} :
    ofWord? word = .ok (some marker) ↔ marker.Written word.toList := by
  refine ⟨fun h => ?_, fun h => h.ofWord?_eq rfl⟩
  by_cases hquestion : word = "?"
  · rw [hquestion, ofWord?_question] at h
    cases h
    rw [eq_question_iff.1 hquestion]
    exact .positional
  · obtain ⟨colons, name, hword, hhead⟩ := Text.exists_run ':' word.toList
    rw [ofWord?_colons hword hhead hquestion] at h
    split_ifs at h with hnone hname
    · cases h
    · cases h
      obtain ⟨hcolons, hne⟩ := not_or.1 hnone
      obtain ⟨colons, rfl⟩ := Nat.exists_eq_succ_of_ne_zero hcolons
      rw [hword]
      exact .named hne hname

/-- **Which words are none**, well-formed or not. -/
theorem ofWord?_eq_none_iff {word : String} :
    ofWord? word = .ok none ↔ Unmarked word.toList := by
  by_cases hquestion : word = "?"
  · rw [hquestion, ofWord?_question]
    simp [Unmarked]
  · obtain ⟨colons, name, hword, hhead⟩ := Text.exists_run ':' word.toList
    have hunmarked : Unmarked word.toList ↔ colons = 0 ∨ name = [] := by
      rw [Unmarked, and_iff_right (mt eq_question_iff.2 hquestion), hword]
      cases colons with
      | zero => simp [hhead]
      | succ colons =>
        cases name with
        | nil => simp
        | cons c name =>
          have hc : c ≠ ':' := by simpa using hhead
          exact iff_of_false (fun hall => hc (hall rfl c (by simp))) (by simp)
    rw [ofWord?_colons hword hhead hquestion, hunmarked]
    split_ifs with hnone hname <;> simp [hnone]

/-- The positional marker is written as a question mark only. -/
theorem Written.eq_question {word : String} (h : Marker.positional.Written word.toList) :
    word = "?" := by
  generalize htext : word.toList = text at h
  cases h
  exact eq_question_iff.2 htext

/-- **A named marker** ends with a colon and its name, and these alone are the same marker. -/
theorem Written.colon {text : List Char} {name : String} (h : (Marker.named name).Written text) :
    (":" ++ name).toList <:+ text ∧ (Marker.named name).Written (":" ++ name).toList := by
  cases h with
  | @named colons name hne hname =>
    have htext : (":" ++ String.ofList name).toList = ':' :: name := by simp [String.toList_append]
    rw [htext, List.replicate_succ', List.append_assoc]
    exact ⟨List.suffix_append _ _, @Written.named 0 name hne hname⟩

/-- A text of name characters is no marker. -/
theorem unmarked_of_isNameChar {text : List Char} (h : text.all Text.isNameChar = true) :
    Unmarked text := by
  have hname (c : Char) (hc : c ∈ text) : Text.isNameChar c = true := List.all_eq_true.1 h c hc
  constructor
  · rintro rfl
    exact absurd (hname '?' List.mem_cons_self) (by decide)
  · intro hcolon
    exact absurd (hname ':' (List.mem_of_mem_head? hcolon)) (by decide)

/-- A text that does not begin like a marker is the text of none. -/
theorem Unmarked.not_written {text : List Char} (h : Unmarked text) (marker : Marker) :
    ¬ marker.Written text := by
  intro hwritten
  have htext : (String.ofList text).toList = text := String.toList_ofList
  have hnone := ofWord?_eq_none_iff.2 (htext.symm ▸ h)
  rw [hwritten.ofWord?_eq htext] at hnone
  cases hnone

end Marker

/-! ## What words and pieces stand for -/

namespace Piece

variable {ops : Operators} {query : String}

/-- **What a word stands for**: a marker, an operator or itself. -/
inductive Reads (ops : Operators) (word : String) : Token → Prop
  | positional (h : Marker.positional.Written word.toList) : Reads ops word .positional
  | named {name : String} (h : (Marker.named name).Written word.toList) :
      Reads ops word (.named name)
  | operator {combinator : Combinator} (hmarker : Marker.Unmarked word.toList)
      (hclassify : ops.classify word = some combinator) : Reads ops word (.operator combinator)
  | word (hmarker : Marker.Unmarked word.toList) (hliteral : word ∉ ops.all ++ ops.any) :
      Reads ops word (.word word)

/-- A word becomes a token exactly if it is read as one. -/
theorem wordToken_eq_ok_iff {word : String} {token : Token} :
    wordToken ops word = .ok token ↔ Reads ops word token := by
  constructor
  · intro h
    unfold wordToken at h
    split at h
    next => cases h
    next hmarker =>
      cases h
      exact .positional (Marker.ofWord?_eq_some_iff.1 hmarker)
    next name hmarker =>
      cases h
      exact .named (Marker.ofWord?_eq_some_iff.1 hmarker)
    next hmarker =>
      split at h
      next combinator hclassify =>
        cases h
        exact .operator (Marker.ofWord?_eq_none_iff.1 hmarker) hclassify
      next hclassify =>
        cases h
        exact .word (Marker.ofWord?_eq_none_iff.1 hmarker)
          (Operators.classify_eq_none_iff.1 hclassify)
  · intro h
    unfold wordToken
    cases h with
    | positional hmarker => rw [hmarker.ofWord?_eq rfl]
    | named hmarker => rw [hmarker.ofWord?_eq rfl]
    | operator hmarker hclassify =>
      simp only [Marker.ofWord?_eq_none_iff.2 hmarker, hclassify]
    | word hmarker hliteral =>
      simp only [Marker.ofWord?_eq_none_iff.2 hmarker, Operators.classify_eq_none_iff.2 hliteral]

/-- **What a piece stands for**: a token or nothing. An open segment does not stand for anything. -/
inductive StandsFor (ops : Operators) : Piece → Option Token → Prop
  | blank {c : Char} : StandsFor ops (.blank c) none
  | opening : StandsFor ops .opening (some .opening)
  | closing : StandsFor ops .closing (some .closing)
  | keywords {before : Nat} {body : List Char} {after : Nat}
      (hne : KeywordPair.ofSegment body ≠ []) :
      StandsFor ops (.segment before body after) (some (.keywords (KeywordPair.ofSegment body)))
  | empty {before : Nat} {body : List Char} {after : Nat}
      (hnone : KeywordPair.ofSegment body = []) : StandsFor ops (.segment before body after) none
  | symbol {literal : List Char} {combinator : Combinator} :
      StandsFor ops (.symbol literal combinator) (some (.operator combinator))
  | word {text : List Char} {token : Token} (h : Reads ops (String.ofList text) token) :
      StandsFor ops (.word text) (some token)

/-- A word among the pieces becomes the token that the word is read as. -/
theorem token?_word_eq_ok_iff {text : List Char} {found : Option Token} :
    (word text).token? ops query = .ok found ↔
      ∃ token, wordToken ops (String.ofList text) = .ok token ∧ found = some token := by
  rw [token?]
  cases wordToken ops (String.ofList text) with
  | error e => simp [Except.map]
  | ok token => simp [Except.map, eq_comm]

/-- A piece becomes a token, or none, exactly if it stands for that. -/
theorem token?_eq_ok_iff {piece : Piece} {found : Option Token} :
    piece.token? ops query = .ok found ↔ piece.StandsFor ops found := by
  constructor
  · intro h
    cases piece with
    | blank c =>
      cases h
      exact .blank
    | opening =>
      cases h
      exact .opening
    | closing =>
      cases h
      exact .closing
    | segment before body after =>
      rw [token?] at h
      split at h
      next hnone =>
        cases h
        exact .empty hnone
      next hne =>
        cases h
        exact .keywords hne
    | unclosed before body => cases h
    | symbol literal combinator =>
      cases h
      exact .symbol
    | word text =>
      obtain ⟨token, htoken, rfl⟩ := token?_word_eq_ok_iff.1 h
      exact .word (wordToken_eq_ok_iff.1 htoken)
  · intro h
    cases h with
    | blank | opening | closing | symbol => rfl
    | keywords hne =>
      rw [token?]
      split
      next hnone => exact absurd hnone hne
      next => rfl
    | empty hnone => rw [token?, hnone]
    | word hreads => exact token?_word_eq_ok_iff.2 ⟨_, wordToken_eq_ok_iff.2 hreads, rfl⟩

/-- The tokens of some pieces are those of the first, if it has one, and those of the others. -/
theorem tokens_cons_eq_ok_iff {piece : Piece} {pieces : List Piece} {tokens : List Token} :
    Piece.tokens ops query (piece :: pieces) = .ok tokens ↔
      ∃ token? rest, piece.token? ops query = .ok token? ∧
        Piece.tokens ops query pieces = .ok rest ∧ tokens = token?.toList ++ rest := by
  rw [Piece.tokens]
  cases piece.token? ops query with
  | error e => simp
  | ok token? =>
    cases Piece.tokens ops query pieces with
    | error e => simp
    | ok rest => simp [eq_comm]

/-- **The tokens are what the pieces stand for**, in order. -/
theorem tokens_eq_ok_iff {pieces : List Piece} {tokens : List Token} :
    Piece.tokens ops query pieces = .ok tokens ↔
      ∃ images, List.Forall₂ (StandsFor ops) pieces images ∧ tokens = images.reduceOption := by
  induction pieces generalizing tokens with
  | nil => simp [Piece.tokens, List.reduceOption, eq_comm]
  | cons piece pieces ih =>
    rw [tokens_cons_eq_ok_iff]
    constructor
    · rintro ⟨image, rest, hpiece, hrest, rfl⟩
      obtain ⟨images, hstands, rfl⟩ := ih.1 hrest
      refine ⟨image :: images, .cons (token?_eq_ok_iff.1 hpiece) hstands, ?_⟩
      cases image <;> simp
    · rintro ⟨_, hstands, rfl⟩
      cases hstands with
      | @cons _ image _ images hpiece hrest =>
        have htokens := ih.2 ⟨images, hrest, rfl⟩
        refine ⟨image, images.reduceOption, token?_eq_ok_iff.2 hpiece, htokens, ?_⟩
        cases image <;> simp

/-- **Every token comes from a piece.** -/
theorem exists_piece_of_mem_tokens {pieces : List Piece} {tokens : List Token}
    (h : Piece.tokens ops query pieces = .ok tokens) {token : Token} (htoken : token ∈ tokens) :
    ∃ piece ∈ pieces, piece.StandsFor ops (some token) := by
  obtain ⟨images, hstands, rfl⟩ := tokens_eq_ok_iff.1 h
  exact exists_mem_of_forall₂ hstands.flip (List.reduceOption_mem_iff.1 htoken)

end Piece

/-- **Which tokens a text is scanned into**: what the pieces stand for that it is munched into. -/
theorem Token.scan_eq_ok_iff {ops : Operators} {query : String} {tokens : List Token} :
    Token.scan ops query = .ok tokens ↔
      ∃ pieces images, Piece.Munches ops query.toList pieces ∧
        List.Forall₂ (Piece.StandsFor ops) pieces images ∧ tokens = images.reduceOption := by
  rw [Token.scan, Piece.tokens_eq_ok_iff]
  constructor
  · rintro ⟨images, h⟩
    exact ⟨_, images, Piece.munches_cut ops query.toList, h⟩
  · rintro ⟨pieces, images, hmunches, h⟩
    rw [Piece.munches_iff.1 hmunches]
    exact ⟨images, h⟩

/-! ## Normalized queries -/

namespace Normalized

/-- **When a query has a token list**: it is not blank, its parentheses and its runs of backticks
pair, and it has tokens. -/
theorem ofQuery_eq_ok_iff {ops : Operators} {query : String} {n : Normalized} :
    ofQuery ops query = .ok n ↔
      Text.isBlank query = false ∧ Parens.balanced query.toList = true ∧
        backtickRuns query.toList % 2 = 0 ∧
        ∃ tokens, Token.scan ops query = .ok tokens ∧ tokens ≠ [] ∧
          n = ⟨Token.enclose (Token.stripParens tokens).2,
            !Token.isGroup (Token.stripParens tokens).2⟩ := by
  cases hblank : Text.isBlank query with
  | true => simp [ofQuery, hblank]
  | false =>
    cases hparens : Parens.balanced query.toList with
    | false => simp [ofQuery, hblank, hparens]
    | true =>
      by_cases hticks : backtickRuns query.toList % 2 = 0
      · cases hscan : Token.scan ops query with
        | error e => simp [ofQuery, hblank, hparens, hticks, hscan]
        | ok tokens =>
          cases tokens with
          | nil => simp [ofQuery, hblank, hparens, hticks, hscan]
          | cons token rest => simp [ofQuery, hblank, hparens, hticks, hscan, eq_comm]
      · simp [ofQuery, hblank, hparens, hticks]

end Normalized

end RecordFilter
