import RecordFilter.Proofs.Builder.Pairing
import RecordFilter.Proofs.Lexing.Scanned
import RecordFilter.Query.Session

/-!
# When a normalized query is one group

The parentheses of a query are counted in its text, also those inside keyword segments, which become
no tokens. A normalized query is one group if the parentheses outside of the segments pair; those of
the whole text pair in any case.

* `Piece.outside` — the text of a piece, without what is inside of keyword segments.
* `Piece.parens_of_tokens` — the parentheses of the tokens are those outside of the segments.
* `Normalized.oneGroup_iff` — when the tokens are one group; their tree is then never refused for
  its parentheses.
-/

namespace RecordFilter

/-- No literal has a parenthesis in it. -/
def Operators.WithoutParens (ops : Operators) : Prop :=
  ∀ op ∈ ops.all ++ ops.any, ∀ c ∈ op.toList, c ≠ '(' ∧ c ≠ ')'

namespace Piece

/-- The text of a piece, without what is inside of keyword segments. -/
def outside : Piece → List Char
  | .segment _ _ _ | .unclosed _ _ => []
  | piece => piece.text

variable {ops : Operators} {query : String}

/-- **A piece stands for its parentheses**, unless it is a keyword segment. -/
theorem parens_of_standsFor (hops : ops.WithoutParens) {piece : Piece}
    (hpiece : FromText ops piece) {found : Option Token} (h : piece.StandsFor ops found) :
    Token.parens found.toList = Parens.only piece.outside := by
  cases h with
  | opening | closing | keywords _ | empty _ => rfl
  | blank =>
    cases hpiece with
    | blank hspace =>
      refine (Parens.only_eq_nil fun d hd => ?_).symm
      obtain rfl := List.mem_singleton.1 hd
      constructor <;> rintro rfl <;> exact absurd hspace (by decide)
  | symbol =>
    cases hpiece with
    | symbol hsymbol =>
      obtain ⟨⟨op, hop, htext⟩, -⟩ := Operators.exists_of_mem_symbols hsymbol
      exact (Parens.only_eq_nil fun c hc => hops op hop c (htext ▸ hc)).symm
  | @word text token hreads =>
    cases hpiece with
    | word hword =>
      have honly : Parens.only text = [] :=
        Parens.only_eq_nil fun c hc => ⟨(hword.ne_of_mem hc).2.1, (hword.ne_of_mem hc).2.2.1⟩
      show _ = Parens.only text
      rw [honly]
      cases hreads <;> rfl

/-- **The parentheses of the tokens** are those outside of the keyword segments. -/
theorem parens_of_tokens (hops : ops.WithoutParens) {pieces : List Piece}
    (hpieces : ∀ piece ∈ pieces, FromText ops piece) {tokens : List Token}
    (h : Piece.tokens ops query pieces = .ok tokens) :
    Token.parens tokens = Parens.only (pieces.flatMap outside) := by
  induction pieces generalizing tokens with
  | nil =>
    obtain rfl := Except.ok.inj h
    rfl
  | cons piece pieces ih =>
    obtain ⟨token?, rest, hpiece, hrest, rfl⟩ := tokens_cons_eq_ok_iff.1 h
    rw [Token.parens_append, List.flatMap_cons, Parens.only_append,
      parens_of_standsFor hops (hpieces piece List.mem_cons_self) (token?_eq_ok_iff.1 hpiece),
      ih (fun piece hmem => hpieces piece (List.mem_cons_of_mem _ hmem)) hrest]

end Piece

/-- The text of a query outside of its keyword segments. -/
def Normalized.outside (ops : Operators) (query : String) : List Char :=
  (Piece.cut ops query.toList).flatMap Piece.outside

/-- **When a normalized query is one group**: if and only if the parentheses outside of its keyword
segments pair. Its parentheses never close more than they open then, and it is never refused for
them. -/
theorem Normalized.oneGroup_iff {ops : Operators} (hops : ops.WithoutParens) {query : String}
    {n : Normalized} (h : Normalized.ofQuery ops query = .ok n) :
    (Token.OneGroup n.tokens ↔ Parens.balanced (Normalized.outside ops query) = true) ∧
      (Token.OneGroup n.tokens → Token.Balanced n.tokens ∧
        ∀ bindings config scalar e,
          Group.ofTokens bindings config scalar n.tokens = .error e →
            e.kind ≠ .unbalancedParens) := by
  obtain ⟨-, -, -, tokens, hscan, -, rfl⟩ := ofQuery_eq_ok_iff.1 h
  have hparens : Token.parens tokens = Parens.only (Normalized.outside ops query) :=
    Piece.parens_of_tokens hops (fun _ => Piece.fromText_of_mem_cut) hscan
  refine ⟨?_, fun hgroup => ⟨hgroup.balanced, Group.paired_ofTokens hgroup⟩⟩
  calc Token.OneGroup (Token.enclose (Token.stripParens tokens).2)
      ↔ Token.Balanced (Token.stripParens tokens).2 := Token.oneGroup_enclose_iff
    _ ↔ Token.Balanced tokens := Token.balanced_stripParens tokens
    _ ↔ Parens.balanced (Token.parens tokens) = true := Token.balanced_iff
    _ ↔ Parens.balanced (Normalized.outside ops query) = true := by
        rw [hparens, Parens.balanced_only]

/-- A segment with parentheses in the wrong order, inside a group. -/
def Normalized.sampleQuery : String := "(a eq `)(`) or b eq 1"

/-- The case of that query: the parentheses of the segment do not count. -/
theorem Normalized.oneGroup_iff_sample :
    (Session.operators {} {}).WithoutParens ∧
      ∃ n, Normalized.ofQuery (Session.operators {} {}) sampleQuery = .ok n ∧
        Parens.balanced (Normalized.outside (Session.operators {} {}) sampleQuery) = true ∧
        Token.OneGroup n.tokens ∧ Token.Balanced n.tokens ∧
          ∀ bindings config scalar e,
            Group.ofTokens bindings config scalar n.tokens = .error e →
              e.kind ≠ .unbalancedParens := by
  have hops : (Session.operators {} {}).WithoutParens := by
    simp [Session.operators, Operators.WithoutParens]
  obtain ⟨n, hn⟩ : ∃ n,
      (Normalized.ofQuery (Session.operators {} {}) sampleQuery).toOption = some n :=
    Option.isSome_iff_exists.1 (by decide +kernel)
  have hquery := eq_ok_of_toOption_eq_some hn
  have houtside :
      Parens.balanced (Normalized.outside (Session.operators {} {}) sampleQuery) = true := by
    decide +kernel
  obtain ⟨hiff, hgroup⟩ := Normalized.oneGroup_iff hops hquery
  have hone := hiff.2 houtside
  exact ⟨hops, n, hquery, houtside, hone, hgroup hone⟩

/-- **A parenthesis inside a segment can stand for one outside of it**: the tokens of this query are
not one group, and their tree is refused for its parentheses. -/
theorem Normalized.exists_not_oneGroup :
    (∀ op ∈ (Session.operators {} {}).all ++ (Session.operators {} {}).any, ∀ c ∈ op.toList,
        Text.isWhitespace c = false ∧ c ≠ '(' ∧ c ≠ ')' ∧ c ≠ '`') ∧
      ∃ n, Normalized.ofQuery (Session.operators {} {}) "a eq `(` )" = .ok n ∧
        ¬ Token.OneGroup n.tokens ∧
        ∃ e, Group.ofTokens {} {} false n.tokens = .error e ∧ e.kind = .unbalancedParens := by
  refine ⟨by simp [Session.operators, Text.isWhitespace],
    ⟨[.opening, .word "a", .word "eq", .keywords [⟨"(", none⟩], .closing, .closing], true⟩,
    ?_, by decide, .unbalancedParens .unexpectedClose, ?_, rfl⟩
  · exact eq_ok_of_toOption_eq_some (by decide +kernel)
  · rfl

end RecordFilter
