import RecordFilter.Proofs.Lexing.Backticks

/-!
# Texts on both sides of a separator

Where a separator stands that is part of no operator literal, a text is cut apart: what is before it
is cut as if nothing followed, unless a keyword segment is open there, and what is after it as if
nothing came before.

* `Operators.WithoutSeparators` — literals that are free of whitespace, parentheses and backticks.
* `Operators.symbolAt?_append_cons`, `Piece.endsWord_append_cons` — symbols and words end before a
  separator.
* `Piece.Fits.append_cons` — a piece that fits before a text fits if a separator follows the text.
* `Piece.cut_append_cons` — **the pieces of a text with a separator in it.**
-/

namespace RecordFilter

/-- A text without a character starts with no more than what is before that character. -/
theorem Text.isPrefix_append_cons_iff {c : Char} {literal : List Char} (h : c ∉ literal)
    (before after : List Char) : literal <+: before ++ c :: after ↔ literal <+: before := by
  induction before generalizing literal with
  | nil =>
    cases literal with
    | nil => simp
    | cons d literal =>
      have hd : d ≠ c := (List.ne_of_not_mem_cons h).symm
      simp [hd]
  | cons d before ih =>
    cases literal with
    | nil => simp
    | cons e literal =>
      rw [List.cons_append, List.cons_prefix_cons, List.cons_prefix_cons,
        ih (List.not_mem_of_not_mem_cons h)]

/-! ## Operators -/

namespace Operators

variable {ops : Operators} {c : Char}

/-- **Literals that are free of separators**: of whitespace, parentheses and backticks. -/
def WithoutSeparators (ops : Operators) : Prop :=
  ∀ op ∈ ops.all ++ ops.any, ∀ c ∈ op.toList, ¬ Piece.Separates c

/-- Operators without separators are without each of them. -/
theorem WithoutSeparators.without (h : ops.WithoutSeparators) (hc : Piece.Separates c) :
    ops.Without c :=
  fun op hop hmem => h op hop c hmem hc

/-- **The symbol at the head of a text** ends before a character that no literal has. -/
theorem symbolAt?_append_cons (h : ops.Without c) (before after : List Char) :
    ops.symbolAt? (before ++ c :: after) = ops.symbolAt? before := by
  have hfilter : (ops.symbols.filter fun entry => entry.1.isPrefixOf (before ++ c :: after)) =
      ops.symbols.filter fun entry => entry.1.isPrefixOf before := by
    refine List.filter_congr fun entry hentry => ?_
    rw [Bool.eq_iff_iff, List.isPrefixOf_iff_prefix, List.isPrefixOf_iff_prefix]
    exact Text.isPrefix_append_cons_iff (h.not_mem hentry) before after
  rw [symbolAt?, symbolAt?, hfilter]

end Operators

/-! ## Pieces -/

namespace Piece

variable {ops : Operators} {c : Char}

/-- **A word that has begun ends before a separator**, or where it would end without it. -/
theorem endsWord_append_cons (hops : ops.WithoutSeparators) (hc : Separates c)
    (before after : List Char) : endsWord ops (before ++ c :: after) = endsWord ops before := by
  cases before with
  | nil =>
    by_contra hgoes
    have hfalse : endsWord ops (c :: after) = false := by simpa [endsWord] using hgoes
    exact (endsWord_cons_eq_false_iff.1 hfalse).1 hc
  | cons d before =>
    have hsymbol := Operators.symbolAt?_append_cons (hops.without hc) (d :: before) after
    rw [List.cons_append] at hsymbol ⊢
    rw [endsWord, endsWord, hsymbol]

/-- **A piece that fits before a text** fits if a separator follows that text. Only a segment that
is left open would go on. -/
theorem Fits.append_cons (hops : ops.WithoutSeparators) (hc : Separates c) (htick : c ≠ '`')
    {piece : Piece} {rest : List Char} (h : piece.Fits ops rest) (hclosed : piece.isClosed = true)
    (after : List Char) : piece.Fits ops (rest ++ c :: after) := by
  cases h with
  | blank hspace => exact .blank hspace
  | opening => exact .opening
  | closing => exact .closing
  | segment hne hbody hrest =>
    refine .segment hne hbody ?_
    cases rest with
    | nil => simpa using htick
    | cons d rest => exact hrest
  | unclosed _ => cases hclosed
  | @symbol d cs _ combinator hfirst hsymbol =>
    refine .symbol hfirst ?_
    have hends := Operators.symbolAt?_append_cons (hops.without hc) (d :: (cs ++ rest)) after
    rw [← List.append_assoc, ← List.cons_append, hends, hsymbol]
  | @word text _ hne hgoes hends =>
    refine .word hne (fun s hs hs' => ?_) ?_
    · rw [← List.append_assoc, endsWord_append_cons hops hc]
      exact hgoes s hs hs'
    · rwa [endsWord_append_cons hops hc]

/-- Texts with a separator between them are munched one after the other. -/
theorem Munches.append_cons (hops : ops.WithoutSeparators) (hc : Separates c) (htick : c ≠ '`')
    {before after : List Char} {pieces others : List Piece} (h : Munches ops before pieces)
    (hclosed : ∀ piece ∈ pieces, piece.isClosed = true) (hafter : Munches ops (c :: after) others) :
    Munches ops (before ++ c :: after) (pieces ++ others) := by
  induction h with
  | nil => exact hafter
  | cons hfits _ ih =>
    obtain ⟨hfirst, hrest⟩ := List.forall_mem_cons.1 hclosed
    rw [List.append_assoc]
    exact .cons (hfits.append_cons hops hc htick hfirst after) (ih hrest)

/-- **A text is cut apart at a separator** outside of keyword segments, that is, where the runs of
backticks before it pair. -/
theorem cut_append_cons (hops : ops.WithoutSeparators) (hc : Separates c) (htick : c ≠ '`')
    {before : List Char} (hbefore : Normalized.backtickRuns before % 2 = 0) (after : List Char) :
    cut ops (before ++ c :: after) = cut ops before ++ cut ops (c :: after) := by
  have hclosed := (even_backtickRuns_iff (hops.without (.inr (.inr (.inr rfl))))).1 hbefore
  exact munches_iff.1
    ((munches_cut ops before).append_cons hops hc htick hclosed (munches_cut ops (c :: after)))

end Piece

end RecordFilter
