import RecordFilter.Proofs.Lexing.Backticks
import RecordFilter.Proofs.Lexing.Canonical
import RecordFilter.Proofs.Parens.Balance

/-!
# Rendered tokens are read back

A list of canonical tokens is scanned from its canonical text: the text of each token, up to the
space or the end after it, is one piece, and the piece stands for the token.

* `Piece.Ends` — what follows the text of a token.
* `Token.piece`, `Token.fits_piece`, `Token.standsFor_piece` — the piece of a canonical token, which
  stands for it.
* `Token.scan_render` — **the tokens of a rendered list.**
* `Token.only_render`, `Token.even_backtickRuns_render` — its parentheses are those of the tokens,
  and its runs of backticks pair.
-/

namespace RecordFilter

namespace Piece

variable {ops : Operators}

/-- **What follows the text of a token** in a canonical text: nothing, or a space. -/
def Ends (t : List Char) : Prop := t = [] ∨ ∃ rest, t = ' ' :: rest

/-- A symbolic literal does not reach over a space. -/
theorem symbolAt?_append_eq_none (hops : ops.Canonical) {s t : List Char} (ht : Ends t)
    (h : ops.symbolAt? s = none) : ops.symbolAt? (s ++ t) = none := by
  rw [Operators.symbolAt?_eq_none_iff] at h ⊢
  intro entry hentry hpre
  rcases List.prefix_or_prefix_of_prefix hpre (List.prefix_append s t) with hle | ⟨u, hu⟩
  · exact h entry hentry hle
  · -- the literal goes on after `s`, and there the first character is a space
    rw [← hu, List.prefix_append_right_inj] at hpre
    cases u with
    | nil =>
      rw [List.append_nil] at hu
      exact h entry hentry (hu ▸ List.prefix_refl s)
    | cons c u =>
      rcases ht with rfl | ⟨rest, rfl⟩
      · exact List.cons_ne_nil _ _ (List.prefix_nil.1 hpre)
      · obtain ⟨rfl, -⟩ := List.cons_prefix_cons.1 hpre
        obtain ⟨⟨op, hop, hliteral⟩, -⟩ := Operators.exists_of_mem_symbols hentry
        have hspace : Text.hasWhitespace op = true := by
          rw [Text.hasWhitespace, hliteral, ← hu]
          exact List.any_eq_true.2 ⟨' ', by simp, by decide⟩
        rw [hops.noSpace op hop] at hspace
        cases hspace

/-- **A word fits before a space or an end.** -/
theorem IsWord.fits (hops : ops.Canonical) {text t : List Char} (h : IsWord ops text)
    (ht : Ends t) : (Piece.word text).Fits ops t := by
  refine .word h.1 (fun s hs hne => ?_) ?_
  · obtain ⟨c, rest, rfl⟩ := List.exists_cons_of_ne_nil hne
    obtain ⟨hfree, hnone⟩ := endsWord_cons_eq_false_iff.1 (h.2 _ hs hne)
    exact endsWord_cons_eq_false_iff.2 ⟨hfree, symbolAt?_append_eq_none hops ht hnone⟩
  · rcases ht with rfl | ⟨rest, rfl⟩
    · rfl
    · simp [endsWord, show Text.isWhitespace ' ' = true by decide]

/-- A space or an end is no backtick. -/
theorem Ends.head?_ne {t : List Char} (ht : Ends t) : t.head? ≠ some '`' := by
  rcases ht with rfl | ⟨rest, rfl⟩ <;> simp

end Piece

/-! ## Canonical tokens -/

namespace Token

variable {ops : Operators}

/-- The piece that the text of a canonical token is. -/
def piece : Token → Piece
  | .opening => .opening
  | .closing => .closing
  | .keywords pairs => .segment 0 (KeywordPair.body pairs).toList 0
  | token => .word token.text.toList

/-- The text of keywords is their body between two backticks. -/
theorem toList_text_keywords (pairs : List KeywordPair) :
    (Token.keywords pairs).text.toList = '`' :: ((KeywordPair.body pairs).toList ++ ['`']) := by
  show ("`" ++ KeywordPair.body pairs ++ "`").toList = _
  simp [String.toList_append]

/-- The piece of a token has its text. -/
theorem text_piece (token : Token) : token.piece.text = token.text.toList := by
  cases token with
  | keywords pairs =>
    rw [toList_text_keywords]
    rfl
  | opening | closing | operator _ | word _ | positional | named _ => rfl

/-- **The text of a canonical token is one piece**, before a space or an end. -/
theorem fits_piece (hops : ops.Canonical) {token : Token} (h : token.Canonical ops)
    {t : List Char} (ht : Piece.Ends t) : token.piece.Fits ops t := by
  cases token with
  | opening => exact .opening
  | closing => exact .closing
  | keywords pairs =>
    exact .segment (KeywordPair.body_ne_nil h.1 h.2)
      (fun hmem => (KeywordPair.of_mem_body hmem).2.2.2 rfl) ht.head?_ne
  | operator _ | word _ | positional | named _ => exact h.1.fits hops ht

/-- **The piece stands for the token.** -/
theorem standsFor_piece {token : Token} (h : token.Canonical ops) :
    token.piece.StandsFor ops (some token) := by
  cases token with
  | opening => exact .opening
  | closing => exact .closing
  | keywords pairs =>
    have hread := KeywordPair.ofSegment_body h.2
    have hstands := @Piece.StandsFor.keywords ops 0 (KeywordPair.body pairs).toList 0
    rw [hread] at hstands
    exact hstands h.1
  | operator _ | word _ | positional | named _ =>
    refine .word (Piece.wordToken_eq_ok_iff.1 ?_)
    rw [String.ofList_toList]
    exact h.2

/-! ## Rendered lists -/

/-- Tokens are rendered with a space between them. -/
theorem toList_render_cons_cons (token next : Token) (rest : List Token) :
    (render (token :: next :: rest)).toList =
      token.text.toList ++ ' ' :: (render (next :: rest)).toList := by
  show (token.text ++ " " ++ render (next :: rest)).toList = _
  simp [String.toList_append]

/-- **Rendered tokens are read back.** -/
theorem scan_render (hops : ops.Canonical) {tokens : List Token}
    (h : ∀ token ∈ tokens, token.Canonical ops) : scan ops (render tokens) = .ok tokens := by
  have hscan : ∃ pieces images, Piece.Munches ops (render tokens).toList pieces ∧
      List.Forall₂ (Piece.StandsFor ops) pieces images ∧ tokens = images.reduceOption := by
    induction tokens with
    | nil => exact ⟨[], [], .nil, .nil, rfl⟩
    | cons token rest ih =>
      have htoken := h token List.mem_cons_self
      obtain ⟨pieces, images, hmunches, hstands, heq⟩ :=
        ih fun token hmem => h token (List.mem_cons_of_mem _ hmem)
      have hfirst := standsFor_piece htoken
-- the last token ends with the text, every other one before a space
      cases rest with
      | nil =>
        have hfits := Piece.Munches.cons (fits_piece hops htoken (.inl rfl)) .nil
        rw [List.append_nil, text_piece] at hfits
        exact ⟨_, _, hfits, .cons hfirst .nil, rfl⟩
      | cons next rest =>
        have hspace : (Piece.blank ' ').Fits ops (render (next :: rest)).toList :=
          .blank (by decide)
        have hfits := Piece.Munches.cons (fits_piece hops htoken (.inr ⟨_, rfl⟩))
          (Piece.Munches.cons hspace hmunches)
        rw [text_piece] at hfits
        rw [toList_render_cons_cons]
        exact ⟨_, _, hfits, .cons hfirst (.cons .blank hstands), by rw [heq]; rfl⟩
  exact scan_eq_ok_iff.2 hscan

/-! ### Parentheses and backticks -/

/-- A canonical token shows a parenthesis only if it is one. -/
theorem only_text {token : Token} (h : token.Canonical ops) :
    Parens.only token.text.toList = token.paren?.toList := by
  cases token with
  | opening | closing => rfl
  | keywords pairs =>
    refine Parens.only_eq_nil fun c hc => ?_
    rw [toList_text_keywords, List.mem_cons, List.mem_append, List.mem_singleton] at hc
    rcases hc with rfl | hc | rfl
    · decide
    · exact ⟨(KeywordPair.of_mem_body hc).2.1, (KeywordPair.of_mem_body hc).2.2.1⟩
    · decide
  | operator _ | word _ | positional | named _ =>
    exact Parens.only_eq_nil fun c hc => ⟨(h.1.ne_of_mem hc).2.1, (h.1.ne_of_mem hc).2.2.1⟩

/-- **A rendered list shows the parentheses of its tokens.** -/
theorem only_render {tokens : List Token} (h : ∀ token ∈ tokens, token.Canonical ops) :
    Parens.only (render tokens).toList = parens tokens := by
  induction tokens with
  | nil => rfl
  | cons token rest ih =>
    have htoken := only_text (h token List.mem_cons_self)
    have hrest := ih fun token hmem => h token (List.mem_cons_of_mem _ hmem)
    rw [parens_cons, ← hrest, ← htoken]
    cases rest with
    | nil => exact (List.append_nil _).symm
    | cons next rest =>
      rw [toList_render_cons_cons, Parens.only_append]
      rfl

end Token

namespace Normalized

/-- Before a space or an end every run of backticks has ended. -/
theorem backtickRunsFrom_of_ends {t : List Char} (ht : Piece.Ends t) (inRun : Bool) :
    backtickRunsFrom inRun t = backtickRunsFrom false t := by
  rcases ht with rfl | ⟨rest, rfl⟩
  · rw [backtickRunsFrom, backtickRunsFrom]
  · simp [backtickRunsFrom]

end Normalized

namespace Token

variable {ops : Operators}

/-- A canonical token shows two runs of backticks or none. -/
theorem backtickRunsFrom_text_append {token : Token} (h : token.Canonical ops) {t : List Char}
    (ht : Piece.Ends t) :
    Normalized.backtickRunsFrom false (token.text.toList ++ t) % 2 =
      Normalized.backtickRunsFrom false t % 2 := by
  cases token with
  | opening | closing => rfl
  | keywords pairs =>
    have hbody := Normalized.backtickRunsFrom_append (KeywordPair.body_ne_nil h.1 h.2)
      (fun c hc => (KeywordPair.of_mem_body hc).2.2.2) true ('`' :: t)
    rw [toList_text_keywords, List.cons_append, List.append_assoc, List.singleton_append,
      Normalized.backtickRunsFrom, if_pos rfl, hbody, Normalized.backtickRunsFrom, if_pos rfl,
      Normalized.backtickRunsFrom_of_ends ht]
    simp only [Bool.false_eq_true, if_false]
    omega
  | operator _ | word _ | positional | named _ =>
    rw [Normalized.backtickRunsFrom_append h.1.1 fun c hc => (h.1.ne_of_mem hc).2.2.2]

/-- **The runs of backticks of a rendered list pair.** -/
theorem even_backtickRuns_render {tokens : List Token} (h : ∀ token ∈ tokens, token.Canonical ops) :
    Normalized.backtickRuns (render tokens).toList % 2 = 0 := by
  induction tokens with
  | nil => rfl
  | cons token rest ih =>
    have htoken := h token List.mem_cons_self
    have hrest := ih fun token hmem => h token (List.mem_cons_of_mem _ hmem)
    cases rest with
    | nil =>
      have hends := backtickRunsFrom_text_append htoken (.inl rfl)
      rwa [List.append_nil] at hends
    | cons next rest =>
      rw [toList_render_cons_cons, Normalized.backtickRuns,
        backtickRunsFrom_text_append htoken (.inr ⟨_, rfl⟩)]
      exact hrest

end Token

end RecordFilter
