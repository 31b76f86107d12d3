import RecordFilter.Proofs.Lexing.Literals

/-!
# How a text is factored

A text that is scanned is the concatenation of its pieces, and the tokens are what the pieces stand
for. Symbols are as long as a literal can be at their place. Words have nothing in them that another
piece could begin with, and no two of them are adjacent.

* `Piece.Shaped` — what a piece of a scanned text looks like.
* `Piece.Factors` — the pieces of a scanned text.
* `Token.scan_factors` — **which pieces a scanned text has, what the tokens are, and what no word
  among them is.**
-/

namespace RecordFilter

namespace Piece

variable {ops : Operators}

/-- **What a piece of a scanned text looks like.** No segment is left open. -/
def Shaped (ops : Operators) : Piece → Prop
  | .blank c => Text.isWhitespace c = true
  | .opening | .closing => True
  | .segment _ body _ => body ≠ [] ∧ '`' ∉ body
  | .unclosed _ _ => False
  | .symbol literal combinator => (literal, combinator) ∈ ops.symbols
  | .word text =>
    text ≠ [] ∧ (∀ c ∈ text, ¬ Separates c) ∧ ∀ entry ∈ ops.symbols, ¬ entry.1 <:+: text

/-- **The pieces of a scanned text.** -/
structure Factors (ops : Operators) (input : List Char) (pieces : List Piece) : Prop where
  /-- Nothing is lost. -/
  text : (pieces.map Piece.text).flatten = input
  shaped : ∀ piece ∈ pieces, piece.Shaped ops
  /-- No symbolic literal that stands at the place of a symbol is longer. -/
  longest : ∀ {before after : List Piece} {literal : List Char} {combinator : Combinator},
    pieces = before ++ .symbol literal combinator :: after →
      ∀ entry ∈ ops.symbols, entry.1 <+: literal ++ (after.map Piece.text).flatten →
        entry.1.length ≤ literal.length
  /-- No two words are adjacent. -/
  apart : ∀ {before after : List Piece} {first second : List Char},
    pieces ≠ before ++ .word first :: .word second :: after

/-! ## Pieces at their places -/

namespace Munches

variable {input : List Char} {pieces before after : List Piece}

/-- The texts of the pieces make up the input. -/
theorem flatten (h : Munches ops input pieces) : (pieces.map Piece.text).flatten = input := by
  rw [← munches_iff.1 h, flatten_cut]

/-- **Every piece fits before the texts of those after it.** -/
theorem fits {piece : Piece} (h : Munches ops input (before ++ piece :: after)) :
    piece.Fits ops (after.map Piece.text).flatten := by
  induction before generalizing input with
  | nil =>
    cases h with
    | cons hfits hrest => rwa [hrest.flatten]
  | cons first before ih =>
    cases h with
    | cons _ hrest => exact ih hrest

/-- A symbol is the longest operator that the text begins with at its place. -/
theorem longest {literal : List Char} {combinator : Combinator}
    (h : Munches ops input (before ++ .symbol literal combinator :: after))
    {entry : List Char × Combinator} (hentry : entry ∈ ops.symbols)
    (hstarts : entry.1 <+: literal ++ (after.map Piece.text).flatten) :
    entry.1.length ≤ literal.length := by
  cases h.fits with
  | symbol _ hsymbol => exact Operators.length_le_of_symbolAt? hsymbol hentry hstarts

/-- **Words are not adjacent**: a word goes on over what the next one begins with. -/
theorem not_adjacent {first second : List Char} :
    ¬ Munches ops input (before ++ .word first :: .word second :: after) := by
  intro h
  have hfirst := h.fits
  rw [List.append_cons] at h
  cases hfirst with
  | word _ _ hends =>
    cases h.fits with
    | word hne hgoes _ =>
      have hgoes := hgoes second List.suffix_rfl hne
      rw [List.map_cons, List.flatten_cons] at hends
      exact absurd hends (by simp [text, hgoes])

end Munches

/-- A piece that fits and stands for something has its shape. -/
theorem Fits.shaped {piece : Piece} {rest : List Char} (h : piece.Fits ops rest)
    {image : Option Token} (hstands : piece.StandsFor ops image) : piece.Shaped ops := by
  cases h with
  | blank hspace => exact hspace
  | opening | closing => trivial
  | segment hne hbody _ => exact ⟨hne, hbody⟩
  | unclosed _ => cases hstands
  | symbol _ hsymbol => exact (Operators.symbolAt?_eq_some hsymbol).1
  | word hne hgoes hends => exact isWord_iff.1 (Fits.word hne hgoes hends).isWord

/-- Pieces that are cut off one after the other factor the input. -/
theorem Munches.factors {input : List Char} {pieces : List Piece} {images : List (Option Token)}
    (h : Munches ops input pieces) (hstands : List.Forall₂ (StandsFor ops) pieces images) :
    Factors ops input pieces where
  text := h.flatten
  shaped piece hpiece := by
    obtain ⟨rest, hfits⟩ := h.exists_fits_of_mem hpiece
    obtain ⟨image, -, himage⟩ := exists_mem_of_forall₂ hstands hpiece
    exact hfits.shaped himage
  longest heq entry hentry hstarts := by
    rw [heq] at h
    exact h.longest hentry hstarts
  apart heq := by
    rw [heq] at h
    exact h.not_adjacent

/-- A word that stands for itself is no literal and no marker. -/
theorem StandsFor.not_literal_or_marker {piece : Piece} {word : String}
    (h : piece.StandsFor ops (some (.word word))) :
    word ∉ ops.all ++ ops.any ∧ ∀ marker : Marker, ¬ marker.Written word.toList := by
  cases h with
  | word hreads =>
    cases hreads with
    | word hmarker hliteral => exact ⟨hliteral, hmarker.not_written⟩

end Piece

namespace Token

/-- **A scanned text is factored into its pieces**, the tokens are what these stand for, and no word
among the tokens is an operator literal or a marker. -/
theorem scan_factors {ops : Operators} {query : String} {tokens : List Token}
    (h : scan ops query = .ok tokens) :
    (∃ pieces images, Piece.Factors ops query.toList pieces ∧
      List.Forall₂ (Piece.StandsFor ops) pieces images ∧ tokens = images.reduceOption) ∧
    ∀ word, .word word ∈ tokens →
      word ∉ ops.all ++ ops.any ∧ ∀ marker : Marker, ¬ marker.Written word.toList := by
  obtain ⟨pieces, images, hmunches, hstands, htokens⟩ := scan_eq_ok_iff.1 h
  refine ⟨⟨pieces, images, hmunches.factors hstands, hstands, htokens⟩, fun word hword => ?_⟩
  rw [htokens, List.reduceOption_mem_iff] at hword
  obtain ⟨piece, -, hpiece⟩ := exists_mem_of_forall₂ hstands.flip hword
  exact hpiece.not_literal_or_marker

/-- Literals some of which begin with others or have characters of markers in them. -/
def sampleOperators : Operators := ⟨["and", "&", "&&"], ["or", "|:"]⟩

/-- A text with runs of symbols, runs of backticks and runs of colons. -/
def sampleText : String := "a|:b&&&c(`k=v``` ::n ? or :: ``&`)"

/-- The tokens of the sample text. -/
def sampleTokens : List Token :=
  [.word "a", .operator .any, .word "b", .operator .all, .operator .all, .word "c", .opening,
    .keywords [⟨"k", some "v"⟩], .named "n", .positional, .operator .any, .word "::", .closing]

/-- The case of a sample text with symbols, words and segments. -/
theorem scan_factors_sample :
    scan sampleOperators sampleText = .ok sampleTokens ∧
      (∃ pieces images, Piece.Factors sampleOperators sampleText.toList pieces ∧
        List.Forall₂ (Piece.StandsFor sampleOperators) pieces images ∧
        sampleTokens = images.reduceOption) ∧
      ∀ word, .word word ∈ sampleTokens →
        word ∉ sampleOperators.all ++ sampleOperators.any ∧
          ∀ marker : Marker, ¬ marker.Written word.toList := by
  have hscan : scan sampleOperators sampleText = .ok sampleTokens :=
    eq_ok_of_toOption_eq_some (by decide +kernel)
  exact ⟨hscan, scan_factors hscan⟩

end Token

end RecordFilter
