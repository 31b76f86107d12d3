import RecordFilter.Proofs.Lexing.Rendering
import RecordFilter.Proofs.Parens.Irreducible
import RecordFilter.Query.Session

/-!
# Normalized queries read back

The canonical text of a normalized query has the tokens of the query: it is scanned into them, its
parentheses and backticks pair, and nothing in it is redundant. So compiling the text gives the tree
of the query.

* `Token.subset_stripParens` — removing redundant pairs adds no token.
* `Normalized.canonical_of_ofQuery` — the tokens of a normalized query are canonical.
* `Normalized.ofQuery_text` — **the text of a normalized query** has its tokens and its tree.
-/

namespace RecordFilter

/-! ## Tokens of a normalized query -/

namespace Token

/-- Dropping a pair brings in no token. -/
theorem subset_of_dropsPair {s t : List Token} (h : DropsPair s t) : t ⊆ s := by
  obtain ⟨before, plain, after, -, -, -, -⟩ := h
  intro token htoken
  simp only [List.mem_append, List.mem_cons] at htoken ⊢
  tauto

/-- **Removing redundant pairs adds no token.** -/
theorem subset_stripParens (tokens : List Token) : (stripParens tokens).2 ⊆ tokens := by
  have hdrops := drops_stripParens tokens
  generalize (stripParens tokens).2 = stripped at hdrops ⊢
  induction hdrops with
  | refl => exact List.Subset.refl tokens
  | tail _ hdrop ih => exact List.Subset.trans (subset_of_dropsPair hdrop) ih

/-- Outer parentheses are the only tokens that are added. -/
theorem mem_enclose {tokens : List Token} {token : Token} (h : token ∈ enclose tokens) :
    token ∈ tokens ∨ token = .opening ∨ token = .closing := by
  rw [enclose] at h
  split at h
  · exact .inl h
  · simp only [List.mem_append, List.mem_cons, List.not_mem_nil, or_false] at h
    tauto

end Token

namespace Normalized

variable {ops : Operators} {query : String} {n : Normalized}

/-- **The tokens of a normalized query are canonical.** -/
theorem canonical_of_ofQuery (hops : ops.Canonical) (h : ofQuery ops query = .ok n) :
    ∀ token ∈ n.tokens, token.Canonical ops := by
  obtain ⟨-, -, -, tokens, hscan, -, rfl⟩ := ofQuery_eq_ok_iff.1 h
  intro token htoken
  rcases Token.mem_enclose htoken with hmem | rfl | rfl
  · exact Token.canonical_of_scan hops hscan token (Token.subset_stripParens tokens hmem)
  · trivial
  · trivial

/-- Normalizing the tokens of a normalized query again gives the same tokens. -/
theorem enclose_stripParens_tokens (h : ofQuery ops query = .ok n)
    (hgroup : Token.OneGroup n.tokens) :
    Token.enclose (Token.stripParens n.tokens).2 = n.tokens := by
  obtain ⟨-, -, -, tokens, -, -, rfl⟩ := ofQuery_eq_ok_iff.1 h
  exact Token.enclose_stripParens_enclose (Token.irreducible_stripParens tokens) hgroup

/-! ## The text of a normalized query -/

/-- The text of one group shows its first parenthesis. -/
theorem isBlank_render {tokens : List Token} (h : Token.OneGroup tokens) :
    Text.isBlank (Token.render tokens) = false := by
  obtain ⟨inner, rfl, -⟩ := h
  obtain ⟨next, rest, hrest⟩ := List.exists_cons_of_ne_nil
    (List.append_ne_nil_of_right_ne_nil inner (List.cons_ne_nil Token.closing []))
  rw [Text.isBlank, List.cons_append, hrest, Token.toList_render_cons_cons]
  rfl

/-- The text of a normalized query is normalized to its tokens. -/
theorem ofQuery_render (hops : ops.Canonical) (h : ofQuery ops query = .ok n)
    (hgroup : Token.OneGroup n.tokens) :
    ∃ wrapped, ofQuery ops n.text = .ok ⟨n.tokens, wrapped⟩ := by
  have hcanonical := canonical_of_ofQuery hops h
  have hparens : Parens.balanced n.text.toList = true := by
    rw [text, ← Parens.balanced_only, Token.only_render hcanonical]
    exact Token.balanced_iff.1 hgroup.balanced
  have hne : n.tokens ≠ [] := by
    obtain ⟨inner, heq, -⟩ := hgroup
    rw [heq]
    exact List.cons_ne_nil _ _
  refine ⟨!Token.isGroup (Token.stripParens n.tokens).2, ofQuery_eq_ok_iff.2
    ⟨isBlank_render hgroup, hparens, Token.even_backtickRuns_render hcanonical, n.tokens,
      Token.scan_render hops hcanonical, hne, ?_⟩⟩
  rw [enclose_stripParens_tokens h hgroup]

/-- **The text of a normalized query** is normalized to the same tokens, and compiled to the same
tree, or refused with the same error. -/
theorem ofQuery_text (hops : ops.Canonical) (h : ofQuery ops query = .ok n)
    (hgroup : Token.OneGroup n.tokens) :
    (∃ wrapped, ofQuery ops n.text = .ok ⟨n.tokens, wrapped⟩) ∧
      ∀ (registry : Registry) (config : Config) (records : List Json) (request : Request),
        Session.operators config request.options = ops → request.query = query →
          (Session.compile registry config records { request with query := n.text }).map (·.root) =
            (Session.compile registry config records request).map (·.root) := by
  obtain ⟨wrapped, hback⟩ := ofQuery_render hops h hgroup
  refine ⟨⟨wrapped, hback⟩, ?_⟩
  intro registry config records request hoperators hquery
  rw [Session.compile, Session.compile]
  dsimp only
  rw [hoperators, hquery, hback, h]
  cases request.options.validate with
  | error e => rfl
  | ok u =>
    cases hbound : Token.resolveAll request.bindings config.defaultBindings n.tokens with
    | error e => simp [hbound, bind, Except.bind, Except.map]
    | ok bound =>
      cases hroot : Group.build config (isScalar records) bound with
      | error e => simp [hbound, hroot, bind, Except.bind, Except.map]
      | ok root => simp [hbound, hroot, bind, Except.bind, Except.map, pure, Except.pure]

/-- A query with operators of every spelling, markers, a segment with escapes and redundant
parentheses. -/
def sampleText : String := "((a eq ::x)&& not b in `k=%20(1)&%28`) OR (c eq ?)"

/-- A request for it, with values for its markers. -/
def sampleRequest : Request := { query := sampleText, bindings := ⟨[.null], [("x", .null)]⟩ }

/-- The case of a sample query that is normalized and read again. -/
theorem ofQuery_text_sample :
    (Session.operators {} {}).Canonical ∧
      ∃ n, ofQuery (Session.operators {} {}) sampleText = .ok n ∧ Token.OneGroup n.tokens ∧
        (∃ wrapped, ofQuery (Session.operators {} {}) n.text = .ok ⟨n.tokens, wrapped⟩) ∧
        (Session.compile .empty {} [] { sampleRequest with query := n.text }).map (·.root) =
          (Session.compile .empty {} [] sampleRequest).map (·.root) := by
  have hops : (Session.operators {} {}).Canonical :=
    ⟨by decide, by decide, by decide, by decide⟩
  have hsome : (ofQuery (Session.operators {} {}) sampleText).toOption.any
      (fun n => decide (Token.OneGroup n.tokens)) = true := by
    decide +kernel
  obtain ⟨n, hn, hone⟩ := (Option.any_eq_true _ _).1 hsome
  have hquery := eq_ok_of_toOption_eq_some hn
  have hgroup := of_decide_eq_true hone
  obtain ⟨hback, htree⟩ := ofQuery_text hops hquery hgroup
  exact ⟨hops, n, hquery, hgroup, hback, htree .empty {} [] sampleRequest rfl rfl⟩

end Normalized

end RecordFilter
