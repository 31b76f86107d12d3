import RecordFilter.Proofs.Lexing.Layout
import RecordFilter.Proofs.Parens.Confluence
import RecordFilter.Proofs.Parens.Meaning

/-!
# Outer parentheses written out

A query that has no outer parentheses gets them when it is normalized. Written around its text they
change nothing: inside of them the same pairs are redundant, and whatever else becomes redundant is
the written pair itself, which comes back.

* `Token.drops_outer` — removals inside outer parentheses.
* `Token.enclose_stripParens_outer` — a list in outer parentheses is normalized to what the list is
  normalized to, unless that has outer parentheses of its own.
* `Normalized.scan_outer` — the tokens of a text in parentheses.
* `Session.map_root_compile` — the tree of a session is that of the normalized query.
* `Normalized.ofQuery_outer` — **a query in the parentheses that it would get** has the tokens and
  the tree of the query.
-/

namespace RecordFilter

open Relation (ReflTransGen)

/-! ## Token lists in outer parentheses -/

namespace Token

/-- What is dropped inside a group is a pair. -/
theorem DropsInside.dropsPair {s t : List Token} (h : DropsInside s t) : DropsPair s t := by
  obtain ⟨before, left, plain, right, after, hne, hplain, hleft, hright⟩ := h
  have hdrop : DropsPair (before ++ [left] ++ .opening :: (plain ++ .closing :: right :: after))
      (before ++ [left] ++ (plain ++ right :: after)) :=
    ⟨before ++ [left], plain, right :: after, hne, hplain, by rwa [List.getLast?_concat], hright⟩
  rwa [List.append_assoc, List.append_assoc] at hdrop

/-- **Pairs can be removed inside outer parentheses** as they can without them. -/
theorem drops_outer {s t : List Token} (h : ReflTransGen DropsPair s t) :
    ReflTransGen DropsPair (.opening :: s ++ [.closing]) (.opening :: t ++ [.closing]) :=
  h.lift (fun tokens => .opening :: tokens ++ [.closing])
    fun _ _ hdrop => (dropsInside_of_dropsPair hdrop).dropsPair

/-- **Outer parentheses that would be added change nothing** when they are there already. The passes
on the list in parentheses end as those on the shortened list in parentheses do, because the order
of removals does not matter. -/
theorem enclose_stripParens_outer {tokens : List Token}
    (hwrapped : isGroup (stripParens tokens).2 = false)
    (hgroup : OneGroup (enclose (stripParens tokens).2)) :
    enclose (stripParens (.opening :: tokens ++ [.closing])).2 =
      enclose (stripParens tokens).2 := by
  have houter : enclose (stripParens tokens).2 = .opening :: (stripParens tokens).2 ++ [.closing] :=
    if_neg (by simp [hwrapped])
  have hinside := drops_outer (drops_stripParens tokens)
  rw [← houter] at hinside
  have hsame : (stripParens (.opening :: tokens ++ [.closing])).2 =
      (stripParens (enclose (stripParens tokens).2)).2 :=
    eq_of_irreducible (drops_stripParens _) (hinside.trans (drops_stripParens _))
      (irreducible_stripParens _) (irreducible_stripParens _)
  rw [hsame, enclose_stripParens_enclose (irreducible_stripParens tokens) hgroup]

end Token

/-! ## Trees of requests -/

/-- **The tree of a session**: options are checked, the query is normalized, its tokens are
resolved and built into groups. Nothing else of the request is read. -/
theorem Session.map_root_compile (registry : Registry) (config : Config) (records : List Json)
    (request : Request) :
    (compile registry config records request).map (·.root) = (do
      request.options.validate
      let n ← Normalized.ofQuery (operators config request.options) request.query
      Group.ofTokens request.bindings config (isScalar records) n.tokens) := by
  rw [compile]
  cases request.options.validate with
  | error e => rfl
  | ok u =>
    cases Normalized.ofQuery (operators config request.options) request.query with
    | error e => rfl
    | ok n =>
      show _ = Group.ofTokens request.bindings config (isScalar records) n.tokens
      rw [Group.ofTokens]
      cases hbound : Token.resolveAll request.bindings config.defaultBindings n.tokens with
      | error e => simp [hbound, bind, Except.bind, Except.map]
      | ok bound =>
        cases hroot : Group.build config (isScalar records) bound with
        | error e => simp [hbound, hroot, bind, Except.bind, Except.map]
        | ok root => simp [hbound, hroot, bind, Except.bind, Except.map, pure, Except.pure]

/-! ## Queries in parentheses -/

namespace Piece

variable {ops : Operators} {text : List Char}

/-- An opening parenthesis stands alone. -/
theorem standsAlone_opening : ∀ c ∈ ['('], StandsAlone c :=
  fun _ hc => .inr (.inl (List.mem_singleton.1 hc))

/-- A closing parenthesis stands alone. -/
theorem standsAlone_closing : ∀ c ∈ [')'], StandsAlone c :=
  fun _ hc => .inr (.inr (List.mem_singleton.1 hc))

/-- **A text in parentheses** is cut into them and the pieces of the text, if no segment is left
open. -/
theorem cut_outer (hops : ops.WithoutSeparators) (hruns : Normalized.backtickRuns text % 2 = 0) :
    cut ops ('(' :: text ++ [')']) = .opening :: cut ops text ++ [.closing] := by
  have hlast : cut ops (text ++ ([')'] ++ [])) = cut ops text ++ ([.closing] ++ cut ops []) :=
    cut_gap hops standsAlone_closing (.inl (List.cons_ne_nil _ _)) hruns
  have hnone : cut ops [] = [] := munches_iff.1 .nil
  have hfirst : cut ops (['('] ++ (text ++ [')'])) = [.opening] ++ cut ops (text ++ [')']) :=
    cut_gap_append standsAlone_opening _
  rw [hnone, List.append_nil, List.append_nil] at hlast
  rw [hlast] at hfirst
  exact hfirst

/-- Outer parentheses add no run of backticks. -/
theorem backtickRuns_outer (text : List Char) :
    Normalized.backtickRuns ('(' :: text ++ [')']) = Normalized.backtickRuns text := by
  have hlast : Normalized.backtickRuns (text ++ ([')'] ++ [])) = Normalized.backtickRuns text + 0 :=
    backtickRuns_gap standsAlone_closing (.inl (List.cons_ne_nil _ _))
  have hfirst : Normalized.backtickRuns ([] ++ (['('] ++ (text ++ [')']))) =
      0 + Normalized.backtickRuns (text ++ [')']) :=
    backtickRuns_gap standsAlone_opening (.inl (List.cons_ne_nil _ _))
  rw [Nat.zero_add] at hfirst
  exact hfirst.trans hlast

end Piece

namespace Normalized

variable {ops : Operators} {query : String} {n : Normalized}

/-- A query in written parentheses. -/
def outer (query : String) : String := "(" ++ query ++ ")"

/-- The characters of a query in parentheses. -/
theorem toList_outer (query : String) : (outer query).toList = '(' :: query.toList ++ [')'] := by
  simp [outer, String.toList_append]

/-- **The tokens of a query in parentheses** are those of the query in parentheses. -/
theorem scan_outer (hops : ops.WithoutSeparators) (hruns : backtickRuns query.toList % 2 = 0)
    {tokens : List Token} (h : Token.scan ops query = .ok tokens) :
    Token.scan ops (outer query) = .ok (.opening :: tokens ++ [.closing]) := by
  rw [Token.scan] at h ⊢
  obtain ⟨images, hstands, rfl⟩ := Piece.tokens_eq_ok_iff.1 h
  refine Piece.tokens_eq_ok_iff.2 ⟨some .opening :: images ++ [some .closing], ?_, ?_⟩
  · rw [toList_outer, Piece.cut_outer hops hruns]
    exact .cons .opening (List.rel_append hstands (.cons .closing .nil))
  · simp [List.reduceOption_append, List.reduceOption_cons_of_some]

/-- **A query in the parentheses that it would get** passes the checks, and is normalized to the
tokens of the query. -/
theorem ofQuery_outer_eq_ok (hops : ops.WithoutSeparators) (h : ofQuery ops query = .ok n)
    (hwrapped : n.wrapped = true) (hgroup : Token.OneGroup n.tokens) :
    ∃ wrapped, ofQuery ops (outer query) = .ok ⟨n.tokens, wrapped⟩ := by
  obtain ⟨-, hparens, hruns, tokens, hscan, -, rfl⟩ := ofQuery_eq_ok_iff.1 h
  have hblank : Text.isBlank (outer query) = false := by
    rw [Text.isBlank, toList_outer]
    rfl
  have hparens' : Parens.balanced (outer query).toList = true := by
    rw [toList_outer]
    exact Parens.balancedFrom_concat_closing hparens
  have hruns' : backtickRuns (outer query).toList % 2 = 0 := by
    rwa [toList_outer, Piece.backtickRuns_outer]
  refine ⟨!Token.isGroup (Token.stripParens (.opening :: tokens ++ [.closing])).2,
    ofQuery_eq_ok_iff.2 ⟨hblank, hparens', hruns', _, scan_outer hops hruns hscan,
      List.cons_ne_nil _ _, ?_⟩⟩
  rw [Token.enclose_stripParens_outer (by simpa using hwrapped) hgroup]

/-- **Writing the outer parentheses that would be added changes nothing.** A query whose tokens are
one group in added parentheses has the same tokens with these written around it. With any values,
configuration and records the two are compiled to the same tree, or refused with the same error. -/
theorem ofQuery_outer (hops : ops.WithoutSeparators) (h : ofQuery ops query = .ok n)
    (hwrapped : n.wrapped = true) (hgroup : Token.OneGroup n.tokens) :
    (∃ wrapped, ofQuery ops ("(" ++ query ++ ")") = .ok ⟨n.tokens, wrapped⟩) ∧
      ∀ (registry : Registry) (config : Config) (records : List Json) (request : Request),
        Session.operators config request.options = ops → request.query = query →
          (Session.compile registry config records
              { request with query := "(" ++ query ++ ")" }).map (·.root) =
            (Session.compile registry config records request).map (·.root) := by
  obtain ⟨wrapped, houter⟩ := ofQuery_outer_eq_ok hops h hwrapped hgroup
  refine ⟨⟨wrapped, houter⟩, ?_⟩
  intro registry config records request hoperators hquery
  rw [outer] at houter
  simp only [Session.map_root_compile, hoperators, hquery, houter, h]
  rfl

/-- A query without outer parentheses: those at its beginning are redundant, and those at its end
are in a segment. -/
def unwrappedText : String := "((a eq ?)) or not b in `()`"

/-- A request for it, with a value for its marker. -/
def unwrappedRequest : Request := { query := unwrappedText, bindings := ⟨[.null], []⟩ }

/-- The case of a query without outer parentheses. -/
theorem ofQuery_outer_sample :
    (Session.operators {} {}).WithoutSeparators ∧
      ∃ n, ofQuery (Session.operators {} {}) unwrappedText = .ok n ∧ n.wrapped = true ∧
        Token.OneGroup n.tokens ∧
        (∃ wrapped, ofQuery (Session.operators {} {}) ("(" ++ unwrappedText ++ ")") =
          .ok ⟨n.tokens, wrapped⟩) ∧
        (Session.compile .empty {} [] { unwrappedRequest with
            query := "(" ++ unwrappedText ++ ")" }).map (·.root) =
          (Session.compile .empty {} [] unwrappedRequest).map (·.root) := by
  have hops := withoutSeparators_operators
  have hsome : (ofQuery (Session.operators {} {}) unwrappedText).toOption.any
      (fun n => n.wrapped && decide (Token.OneGroup n.tokens)) = true := by
    decide +kernel
  obtain ⟨n, hn, htest⟩ := (Option.any_eq_true _ _).1 hsome
  obtain ⟨hwrapped, hone⟩ := Bool.and_eq_true_iff.1 htest
  have hquery := eq_ok_of_toOption_eq_some hn
  have hgroup := of_decide_eq_true hone
  obtain ⟨hback, htree⟩ := ofQuery_outer hops hquery hwrapped hgroup
  exact ⟨hops, n, hquery, hwrapped, hgroup, hback,
    htree .empty {} [] unwrappedRequest rfl rfl⟩

end Normalized

end RecordFilter
