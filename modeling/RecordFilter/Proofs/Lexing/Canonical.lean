import RecordFilter.Proofs.Lexing.Keywords
import RecordFilter.Proofs.Lexing.Scanned

/-!
# Tokens whose text is read as them

The tokens of a text are canonical: none hides in its text anything that a scan would take for more
than the token itself.

* `Operators.Canonical` — operator literals among which are the canonical words.
* `Token.Canonical` — tokens whose text is one word that stands for them, a parenthesis, or a
  segment of entries that leave a trace.
* `Token.canonical_of_scan` — all tokens of a text are canonical.
-/

namespace RecordFilter

/-- **Operator literals with the canonical words among them**, each for its combinator, and without
whitespace. -/
structure Operators.Canonical (ops : Operators) : Prop where
  all : "and" ∈ ops.all
  any : "or" ∈ ops.any
  only_any : "or" ∉ ops.all
  noSpace : ∀ op ∈ ops.all ++ ops.any, Text.hasWhitespace op = false

/-- **A token that its text stands for.** -/
def Token.Canonical (ops : Operators) : Token → Prop
  | .opening | .closing => True
  | .keywords pairs => pairs ≠ [] ∧ ∀ pair ∈ pairs, pair.NonEmpty
  | token => Piece.IsWord ops token.text.toList ∧ Piece.wordToken ops token.text = .ok token

/-! ## Operators -/

/-- The codes of the whitespace characters. -/
def Text.whitespaceCodes : List Nat :=
  [9, 10, 11, 12, 13, 0x20, 0x85, 0xA0, 0x1680, 0x2000, 0x2001, 0x2002, 0x2003, 0x2004, 0x2005,
    0x2006, 0x2007, 0x2008, 0x2009, 0x200A, 0x2028, 0x2029, 0x202F, 0x205F, 0x3000]

/-- The codes listed are those of all whitespace. -/
theorem Text.toNat_mem_whitespaceCodes {c : Char} (h : isWhitespace c = true) :
    c.toNat ∈ whitespaceCodes := by
  simp only [isWhitespace, Bool.or_eq_true, Bool.and_eq_true, decide_eq_true_eq, beq_iff_eq] at h
  simp only [whitespaceCodes, List.mem_cons, List.not_mem_nil, or_false]
  omega

/-- No whitespace is a name character. -/
theorem Text.isWhitespace_of_isNameChar {c : Char} (h : isNameChar c = true) :
    isWhitespace c = false := by
  have hnone : ∀ n ∈ whitespaceCodes, isNameChar (Char.ofNat n) = false := by decide +kernel
  by_contra hspace
  have hname := hnone c.toNat (toNat_mem_whitespaceCodes (by simpa using hspace))
  rw [Char.ofNat_toNat, h] at hname
  cases hname

/-- **A text of name characters is one word**: whatever separates has others in it. -/
theorem Piece.isWord_of_isNameChar (ops : Operators) {cs : List Char} (hne : cs ≠ [])
    (h : cs.all Text.isNameChar = true) : IsWord ops cs := by
  have hname (c : Char) (hc : c ∈ cs) : Text.isNameChar c = true := List.all_eq_true.1 h c hc
  refine isWord_iff.2 ⟨hne, ?_, ?_⟩
  · rintro c hc (hspace | rfl | rfl | rfl)
    · rw [Text.isWhitespace_of_isNameChar (hname c hc)] at hspace
      cases hspace
    · exact absurd (hname _ hc) (by decide)
    · exact absurd (hname _ hc) (by decide)
    · exact absurd (hname _ hc) (by decide)
  · intro entry hentry hpart
    have hnames : entry.1.all Text.isNameChar = true :=
      List.all_eq_true.2 fun c hc => hname c (hpart.subset hc)
    have hsymbolic := (Operators.exists_of_mem_symbols hentry).2
    rw [Operators.isSymbolic, hnames] at hsymbolic
    cases hsymbolic

section

variable {ops : Operators}

/-- The canonical operator of a combinator stands for it. -/
theorem Operators.Canonical.wordToken_operator (hops : ops.Canonical) (combinator : Combinator) :
    Piece.wordToken ops combinator.operator = .ok (.operator combinator) := by
  refine Piece.wordToken_eq_ok_iff.2 (.operator ?_ ?_)
  · exact Marker.unmarked_of_isNameChar (by cases combinator <;> decide)
  · cases combinator with
    | all => exact Operators.classify_eq_all_iff.2 hops.all
    | any => exact Operators.classify_eq_any_iff.2 ⟨hops.any, hops.only_any⟩

/-- The canonical operator of a combinator is a canonical token. -/
theorem Operators.Canonical.canonical_operator (hops : ops.Canonical) (combinator : Combinator) :
    (Token.operator combinator).Canonical ops := by
  refine ⟨Piece.isWord_of_isNameChar ops ?_ ?_, hops.wordToken_operator combinator⟩ <;>
    cases combinator <;> decide

/-! ## Tokens of a text -/

/-- **What a word stands for is canonical.** -/
theorem Token.canonical_of_reads (hops : ops.Canonical) {word : String}
    (hword : Piece.IsWord ops word.toList) {token : Token} (h : Piece.Reads ops word token) :
    token.Canonical ops := by
  have htoken := Piece.wordToken_eq_ok_iff.2 h
  cases h with
  | positional hmarker =>
    obtain rfl := hmarker.eq_question
    exact ⟨hword, htoken⟩
  | @named name hmarker =>
    obtain ⟨hsuffix, hcolon⟩ := hmarker.colon
    have htext : (":" ++ name).toList ≠ [] := by simp [String.toList_append]
    exact ⟨hword.of_isSuffix hsuffix htext, Piece.wordToken_eq_ok_iff.2 (.named hcolon)⟩
  | operator _ _ => exact hops.canonical_operator _
  | word _ _ => exact ⟨hword, htoken⟩

/-- Whatever a piece of a text stands for is canonical. -/
theorem Token.canonical_of_standsFor (hops : ops.Canonical) {piece : Piece}
    (hpiece : Piece.FromText ops piece) {token : Token} (h : piece.StandsFor ops (some token)) :
    token.Canonical ops := by
  cases h with
  | opening | closing => trivial
  | keywords hne => exact ⟨hne, fun pair => KeywordPair.nonEmpty_of_mem_ofSegment⟩
  | symbol => exact hops.canonical_operator _
  | @word text _ hreads =>
    cases hpiece with
    | word hword =>
      have htext : (String.ofList text).toList = text := String.toList_ofList
      exact Token.canonical_of_reads hops (htext.symm ▸ hword) hreads

/-- **All tokens of a text are canonical.** -/
theorem Token.canonical_of_scan (hops : ops.Canonical) {query : String} {tokens : List Token}
    (h : Token.scan ops query = .ok tokens) : ∀ token ∈ tokens, token.Canonical ops := by
  intro token htoken
  obtain ⟨piece, hmem, hpiece⟩ := Piece.exists_piece_of_mem_tokens h htoken
  exact Token.canonical_of_standsFor hops (Piece.fromText_of_mem_cut hmem) hpiece

end

end RecordFilter
