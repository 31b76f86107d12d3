import RecordFilter.Proofs.Lexing.Rendering
import RecordFilter.Query.Session

/-!
# Segments of any entries

Entries may have any characters in them: separators, backticks, parentheses, percent signs, controls
and what is not ASCII. In the canonical text of a segment none of these stands as itself, so it is
one piece under all operator literals, and is read as the entries. Which encoder and decoder of
percent encoding are used makes no difference (`KeywordPair.escape_of_documented`,
`KeywordPair.ofPart_of_documented`).

* `Token.scan_keywords` — the text is scanned as the segment.
* `Token.keywords_read_back` — **which segments are read back from their text.**
-/

namespace RecordFilter.Token

variable {pairs : List KeywordPair}

/-- **The text of a segment is scanned as the segment**, whatever the operator literals are. -/
theorem scan_keywords (ops : Operators) (hne : pairs ≠ []) (h : ∀ pair ∈ pairs, pair.NonEmpty) :
    scan ops (Token.keywords pairs).text = .ok [.keywords pairs] := by
  have hread := KeywordPair.ofSegment_body h
  have hfits : (Piece.segment 0 (KeywordPair.body pairs).toList 0).Fits ops [] :=
    .segment (KeywordPair.body_ne_nil hne h) (fun hmem => (KeywordPair.of_mem_body hmem).2.2.2 rfl)
      nofun
  have hstands := @Piece.StandsFor.keywords ops 0 (KeywordPair.body pairs).toList 0
  rw [hread] at hstands
  have hmunches := Piece.Munches.cons hfits .nil
  have htext : (Piece.segment 0 (KeywordPair.body pairs).toList 0).text ++ [] =
      (Token.keywords pairs).text.toList := by
    rw [List.append_nil]
    exact text_piece (.keywords pairs)
  rw [htext] at hmunches
  exact scan_eq_ok_iff.2 ⟨_, _, hmunches, .cons (hstands hne) .nil, rfl⟩

/-- **Segments are read back from their text.** Between its backticks the text of a segment has no
backtick, no parenthesis and no whitespace, whatever its entries are. What stands there is read as
these entries if and only if each of them has a value or a key that is not empty. The whole text is
scanned as the segment if and only if there are entries besides. -/
theorem keywords_read_back (pairs : List KeywordPair) :
    (∃ body : List Char, (Token.keywords pairs).text.toList = '`' :: (body ++ ['`']) ∧
      (∀ c ∈ body, c ≠ '`' ∧ c ≠ '(' ∧ c ≠ ')' ∧ Text.isWhitespace c = false) ∧
      (KeywordPair.ofSegment body = pairs ↔
        ∀ pair ∈ pairs, pair.value = none → pair.key ≠ "")) ∧
    ((∀ ops, scan ops (Token.keywords pairs).text = .ok [.keywords pairs]) ↔
      pairs ≠ [] ∧ ∀ pair ∈ pairs, pair.value = none → pair.key ≠ "") := by
  refine ⟨⟨(KeywordPair.body pairs).toList, toList_text_keywords pairs, ?_, ?_⟩, ?_⟩
  · intro c hc
    obtain ⟨hspace, hopening, hclosing, htick⟩ := KeywordPair.of_mem_body hc
    exact ⟨htick, hopening, hclosing, hspace⟩
  · constructor
    · intro hread pair hpair
      rw [← hread] at hpair
      exact KeywordPair.nonEmpty_of_mem_ofSegment hpair
    · exact KeywordPair.ofSegment_body
  · constructor
    · intro hscan
      have hops : (Session.operators {} {}).Canonical :=
        ⟨by decide, by decide, by decide, by decide⟩
      exact canonical_of_scan hops (hscan _) _ List.mem_cons_self
    · rintro ⟨hne, h⟩ ops
      exact scan_keywords ops hne h

/-- A key that is empty, a value that is, and entries of reserved characters. -/
example : KeywordPair.ofSegment (KeywordPair.body
    [⟨"", some ""⟩, ⟨"`(&=%20)\n", none⟩, ⟨"é", some "=\u2028`"⟩]).toList =
      [⟨"", some ""⟩, ⟨"`(&=%20)\n", none⟩, ⟨"é", some "=\u2028`"⟩] := by decide +kernel

end RecordFilter.Token
