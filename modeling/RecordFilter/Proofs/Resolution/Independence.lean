import RecordFilter.Proofs.Builder.Arguments
import RecordFilter.Proofs.Builder.Clauses
import RecordFilter.Proofs.Resolution.Exactness

/-!
# Bound values do not change the structure of a query

Two resolutions of the same tokens differ in the values of markers only, and a value is never read
as anything else: not as `not`, not as an operator, not as a parenthesis, not as a marker. It can be
a name where the marker itself stands for the attribute or for the predicate.

* `Outline`, `Group.outline` — a tree without its attributes, predicates and values.
* `Token.runs`, `Token.subject?`, `Token.predicate?` — the runs of plain tokens, and the tokens of a
  run that name the attribute and the predicate.
* `Clause.Varies` — two clauses of one run of tokens.
* `Clause.varies_of_filled` — **values for one run of tokens give clauses that vary in values
  only.**
* `Token.outline_eq_of_build` — **values for one list of tokens give trees of one outline**, and
  clauses that vary in values only.
-/

namespace RecordFilter

/-! ## Outlines -/

/-- **What is fixed in a tree**: its groups, and of each clause whether it is negated, how many
arguments it passes and which keywords. -/
inductive Outline where
  | clause (negate : Bool) (args : Nat) (keys : List String)
  | group (path : GroupPath) (combinator : Combinator) (items : List Outline)

mutual

/-- The outline of an item. -/
def Item.outline : Item → Outline
  | .clause c => .clause c.negate c.args.length c.kwargs.keys
  | .group path combinator items => .group path combinator (Item.outlinesOf items)

/-- The outlines of items, in order. -/
def Item.outlinesOf : List Item → List Outline
  | [] => []
  | item :: rest => item.outline :: Item.outlinesOf rest

end

/-- **The outline of a tree.** -/
def Group.outline (g : Group) : Outline := g.toItem.outline

/-- Items with equal outlines one by one have one list of outlines. -/
theorem Item.outlinesOf_eq {items items' : List Item}
    (h : List.Forall₂ (fun a b => a.outline = b.outline) items items') :
    outlinesOf items = outlinesOf items' := by
  induction h with
  | nil => rfl
  | cons hfirst _ ih => rw [outlinesOf, outlinesOf, hfirst, ih]

/-! ## Runs of tokens -/

namespace Token

/-- A plain token, itself. -/
def plain? (token : Token) : Option Token := if token.isPlain then some token else none

/-- **The runs of plain tokens** between parentheses and operators. -/
def runs (tokens : List Token) : List (List Token) := RecordFilter.runs plain? tokens

/-- A marker that stands by itself. -/
def isMarker : Token → Bool
  | .positional | .named _ => true
  | _ => false

/-- What follows the attribute. Scalar records have none. -/
def test (scalar : Bool) (run : List Token) : List Token := if scalar then run else run.drop 1

/-- The token that names the attribute. -/
def subject? (scalar : Bool) (run : List Token) : Option Token :=
  if scalar then none else run.head?

/-- The token that names the predicate. The word `not` before it negates the clause. -/
def predicate? (scalar : Bool) (run : List Token) : Option Token :=
  if (test scalar run).head? = some (.word "not") then (test scalar run)[1]?
  else (test scalar run)[0]?

/-- A term that a token resolves to, with some values. -/
def Becomes (token : Token) (t : Term) : Prop := ∃ fills, token.Filled fills (.term t)

end Token

/-- **Two clauses of one run of tokens.** Their negation, the number of their arguments and their
keywords are the same; so are attribute and predicate, unless the token is a marker. -/
structure Clause.Varies (scalar : Bool) (run : List Token) (c c' : Clause) : Prop where
  negate : c.negate = c'.negate
  args : c.args.length = c'.args.length
  keys : c.kwargs.keys = c'.kwargs.keys
  subject : c.subject = c'.subject ∨ ∃ token ∈ Token.subject? scalar run, token.isMarker = true
  predicate : c.predicate = c'.predicate ∨
    ∃ token ∈ Token.predicate? scalar run, token.isMarker = true

/-! ## Terms of one token -/

section

variable {token : Token} {t t' : Term}

/-- Resolution neither makes nor changes a word. -/
theorem Token.Becomes.eq_word_iff (h : token.Becomes t) (text : String) :
    t = .word text ↔ token = .word text := by
  obtain ⟨fills, h⟩ := h
  cases h <;> simp

/-- **Terms of one token have one text**, if the token is no marker. -/
theorem Token.Becomes.text?_eq (h : token.Becomes t) (h' : token.Becomes t') :
    t.text? = t'.text? ∨ token.isMarker = true := by
  obtain ⟨fills, h⟩ := h
  obtain ⟨fills', h'⟩ := h'
  cases h with
  | word text =>
    cases h'
    exact .inl rfl
  | positional value => exact .inr rfl
  | named name value => exact .inr rfl
  | keywords hrows =>
    cases h'
    exact .inl rfl

/-- **A plain token is filled to a term**; a parenthesis or an operator stays. -/
theorem Token.Filled.plain_or {fills : List (Marker × Json)} {b : Bound}
    (h : token.Filled fills b) :
    (token.plain? = some token ∧ ∃ t, b = .term t ∧ token.Becomes t) ∨
      (token.plain? = none ∧ token.structural? = some b ∧ b.isStructural = true) := by
  cases h with
  | opening | closing | operator _ => exact .inr ⟨rfl, rfl, rfl⟩
  | word text => exact .inl ⟨rfl, _, rfl, _, .word text⟩
  | positional value => exact .inl ⟨rfl, _, rfl, _, .positional value⟩
  | named name value => exact .inl ⟨rfl, _, rfl, _, .named name value⟩
  | keywords hrows => exact .inl ⟨rfl, _, rfl, _, .keywords hrows⟩

/-! ### Arguments -/

/-- An insertion keeps keys equal. -/
theorem Dict.keys_insert {α : Type} {d d' : Dict α} (h : d.keys = d'.keys) (key : String)
    (value value' : α) : (insert key value d).keys = (insert key value' d').keys := by
  induction d generalizing d' with
  | nil =>
    obtain rfl : d' = [] := List.map_eq_nil_iff.1 h.symm
    rfl
  | cons entry rest ih =>
    obtain ⟨k, v⟩ := entry
    cases d' with
    | nil => cases h
    | cons entry' rest' =>
      obtain ⟨k', v'⟩ := entry'
      obtain ⟨rfl, hrest⟩ : k = k' ∧ Dict.keys rest = Dict.keys rest' := List.cons.inj h
      have hinsert := ih hrest
      unfold keys at hinsert hrest ⊢
      simp only [insert]
      split
      · simp only [List.map_cons, hrest]
      · split
        · simp only [List.map_cons, hrest]
        · simp only [List.map_cons, hinsert]

/-- Two lists of arguments of one length, and keywords with the same names. -/
structure Clause.SameCounts (args args' : List Json × Dict Json) : Prop where
  length : args.1.length = args'.1.length
  keys : args.2.keys = args'.2.keys

namespace Clause

variable {acc acc' : List Json × Dict Json}

/-- One more argument on both sides keeps the counts. -/
theorem SameCounts.push (h : SameCounts acc acc') (value value' : Json) :
    SameCounts (acc.1 ++ [value], acc.2) (acc'.1 ++ [value'], acc'.2) :=
  ⟨by simp [h.length], h.keys⟩

/-- Keyword entries are added one by one. -/
theorem addTerm_keywords_cons (acc : List Json × Dict Json) (entry : KeywordArg)
    (entries : List KeywordArg) :
    addTerm acc (.keywords (entry :: entries)) =
      addTerm (addTerm acc (.keywords [entry])) (.keywords entries) := rfl

/-- Entries that are filled differently pass as many arguments and the same keywords. -/
theorem SameCounts.entries {pairs : List KeywordPair} {fills fills' : List (Marker × Json)}
    {entries entries' : List KeywordArg} (hrows : Rows KeywordPair.Filled pairs fills entries)
    (hrows' : Rows KeywordPair.Filled pairs fills' entries') (h : SameCounts acc acc') :
    SameCounts (addTerm acc (.keywords entries)) (addTerm acc' (.keywords entries')) := by
  induction hrows generalizing acc acc' fills' entries' with
  | nil =>
    cases hrows'
    exact h
  | cons hfirst _ ih =>
    cases hrows' with
    | cons hfirst' hothers' =>
      rw [addTerm_keywords_cons acc, addTerm_keywords_cons acc']
      refine ih hothers' ?_
      cases hfirst with
      | literalKey hkey =>
        cases hfirst' with
        | literalKey _ => exact h.push _ _
        | markedKey hkey' value => exact h.push _ _
      | markedKey hkey value =>
        cases hfirst' with
        | literalKey _ => exact h.push _ _
        | markedKey hkey' value' => exact h.push _ _
      | literalValue hkey htext =>
        cases hfirst' with
        | literalValue _ _ => exact ⟨h.length, Dict.keys_insert h.keys _ _ _⟩
        | markedValue _ _ value => exact ⟨h.length, Dict.keys_insert h.keys _ _ _⟩
      | markedValue hkey htext value =>
        cases hfirst' with
        | literalValue _ _ => exact ⟨h.length, Dict.keys_insert h.keys _ _ _⟩
        | markedValue _ _ value' => exact ⟨h.length, Dict.keys_insert h.keys _ _ _⟩

/-- Terms of one token pass as many arguments and the same keywords. -/
theorem SameCounts.addTerm (ht : token.Becomes t) (ht' : token.Becomes t')
    (h : SameCounts acc acc') : SameCounts (addTerm acc t) (addTerm acc' t') := by
  obtain ⟨fills, ht⟩ := ht
  obtain ⟨fills', ht'⟩ := ht'
  cases ht with
  | word text =>
    cases ht'
    exact h.push _ _
  | positional value =>
    cases ht'
    exact h.push _ _
  | named name value =>
    cases ht'
    exact h.push _ _
  | keywords hrows =>
    cases ht' with
    | keywords hrows' => exact h.entries hrows hrows'

/-- **Terms of the same tokens pass as many arguments and the same keywords.** -/
theorem sameCounts_arguments {args : List Token} {terms terms' : List Term}
    (h : List.Forall₂ Token.Becomes args terms) (h' : List.Forall₂ Token.Becomes args terms') :
    SameCounts (arguments terms) (arguments terms') := by
  have hfold : ∀ {acc acc'}, SameCounts acc acc' →
      SameCounts (terms.foldl Clause.addTerm acc) (terms'.foldl Clause.addTerm acc') := by
    induction h generalizing terms' with
    | nil =>
      cases h'
      exact id
    | cons hfirst _ ih =>
      cases h' with
      | cons hfirst' hrest' => exact fun hacc => ih hrest' (hacc.addTerm hfirst hfirst')
  exact hfold ⟨rfl, rfl⟩

end Clause

end

/-! ## Clauses of one run -/

namespace Clause

variable {config : Config} {scalar : Bool} {c c' : Clause}

/-- What stands before the name of the predicate. -/
def notWord (negate : Bool) : List Token := if negate then [.word "not"] else []

/-- The end of a test: the name of the predicate, and the arguments. -/
theorem finish_eq_ok {subject : Attribute} {negate : Bool} {t : Term} {rest : List Term}
    (h : ofTest.finish config subject negate t rest = .ok c) :
    ∃ text, c.negate = negate ∧ t.text? = some text ∧
      PredicateName.resolve config text = .ok c.predicate ∧ c.subject = subject ∧
      arguments rest = (c.args, c.kwargs) := by
  unfold ofTest.finish at h
  split at h
  · cases h
  next text htext =>
    split at h
    · cases h
    next predicate hpredicate =>
      obtain rfl := Except.ok.inj h
      exact ⟨text, rfl, htext, hpredicate, rfl, rfl⟩

/-- **A test that compiles**: an optional `not`, a token that names the predicate, and arguments. -/
theorem exists_name_of_ofTest {test : List Token} {terms : List Term}
    (hterms : List.Forall₂ Token.Becomes test terms) {message : String} {subject : Attribute}
    (h : ofTest config message subject terms = .ok c) :
    ∃ name args t rest text, test = notWord c.negate ++ name :: args ∧
      (c.negate = false → name ≠ .word "not") ∧ name.Becomes t ∧
      List.Forall₂ Token.Becomes args rest ∧ t.text? = some text ∧
      PredicateName.resolve config text = .ok c.predicate ∧ c.subject = subject ∧
      arguments rest = (c.args, c.kwargs) := by
  cases hterms with
  | nil => cases h
  | @cons first t others rest hfirst hothers =>
    by_cases hnot : t = .word "not"
    · obtain rfl : first = .word "not" := (hfirst.eq_word_iff "not").1 hnot
      subst hnot
      cases hothers with
      | nil => cases h
      | @cons name t args rest hname hargs =>
        obtain ⟨text, hnegate, htext, hpredicate, hsubject, hrest⟩ := finish_eq_ok h
        refine ⟨name, args, t, rest, text, ?_, ?_, hname, hargs, htext, hpredicate, hsubject, hrest⟩
        · rw [hnegate]
          rfl
        · rw [hnegate]
          exact nofun
    · rw [ofTest_of_ne hnot] at h
      obtain ⟨text, hnegate, htext, hpredicate, hsubject, hrest⟩ := finish_eq_ok h
      refine ⟨first, others, t, rest, text, ?_, fun _ heq => ?_, hfirst, hothers, htext, hpredicate,
        hsubject, hrest⟩
      · rw [hnegate]
        rfl
      · exact hnot ((hfirst.eq_word_iff "not").2 heq)

/-- Whether a test is negated, and which token names its predicate, can be read off its tokens. -/
theorem notWord_append_inj {negate negate' : Bool} {name name' : Token} {args args' : List Token}
    (hname : negate = false → name ≠ .word "not") (hname' : negate' = false → name' ≠ .word "not")
    (h : notWord negate ++ name :: args = notWord negate' ++ name' :: args') :
    negate = negate' ∧ name = name' ∧ args = args' := by
  cases negate with
  | true =>
    cases negate' with
    | true =>
      obtain ⟨-, h⟩ := List.cons.inj h
      obtain ⟨rfl, rfl⟩ := List.cons.inj h
      exact ⟨rfl, rfl, rfl⟩
    | false => exact absurd (List.cons.inj h).1.symm (hname' rfl)
  | false =>
    cases negate' with
    | true => exact absurd (List.cons.inj h).1 (hname rfl)
    | false =>
      obtain ⟨rfl, rfl⟩ := List.cons.inj h
      exact ⟨rfl, rfl, rfl⟩

/-- The predicate of a run stands at the head of its test, behind `not`. -/
theorem predicate?_of_test {run : List Token} {negate : Bool} {name : Token} {args : List Token}
    (h : Token.test scalar run = notWord negate ++ name :: args)
    (hname : negate = false → name ≠ .word "not") : Token.predicate? scalar run = some name := by
  unfold Token.predicate?
  rw [h]
  cases negate with
  | true => rfl
  | false =>
    rw [if_neg]
    · rfl
    · exact fun heq => hname rfl (Option.some.inj heq)

/-- Terms of the same tokens after the attribute. -/
theorem varies_of_ofTest {run : List Token} {terms terms' : List Term}
    (hterms : List.Forall₂ Token.Becomes (Token.test scalar run) terms)
    (hterms' : List.Forall₂ Token.Becomes (Token.test scalar run) terms')
    {message message' : String} {subject subject' : Attribute}
    (hsubject : subject = subject' ∨
      ∃ token ∈ Token.subject? scalar run, token.isMarker = true)
    (h : ofTest config message subject terms = .ok c)
    (h' : ofTest config message' subject' terms' = .ok c') : c.Varies scalar run c' := by
  obtain ⟨name, args, t, rest, text, htest, hname, ht, hargs, htext, hpredicate, rfl, hrest⟩ :=
    exists_name_of_ofTest hterms h
  obtain ⟨name', args', t', rest', text', htest', hname', ht', hargs', htext', hpredicate', rfl,
    hrest'⟩ := exists_name_of_ofTest hterms' h'
  obtain ⟨hnegate, rfl, rfl⟩ := notWord_append_inj hname hname' (htest.symm.trans htest')
  have hcounts := sameCounts_arguments hargs hargs'
  rw [hrest, hrest'] at hcounts
  refine ⟨hnegate, hcounts.length, hcounts.keys, hsubject, ?_⟩
  rcases ht.text?_eq ht' with heq | hmarker
  · obtain rfl : text = text' := Option.some.inj (htext.symm.trans (heq.trans htext'))
    exact .inl (Except.ok.inj (hpredicate.symm.trans hpredicate'))
  · exact .inr ⟨name, predicate?_of_test htest hname, hmarker⟩

/-- **Values for one run of tokens give clauses that vary in values only.** -/
theorem varies_of_filled {run : List Token} {terms terms' : List Term}
    (hterms : List.Forall₂ Token.Becomes run terms)
    (hterms' : List.Forall₂ Token.Becomes run terms')
    (h : ofTerms config scalar terms = .ok c) (h' : ofTerms config scalar terms' = .ok c') :
    c.Varies scalar run c' := by
  unfold ofTerms at h h'
  dsimp only at h h'
  cases scalar with
  | true =>
    rw [if_pos rfl] at h h'
    exact varies_of_ofTest hterms hterms' (.inl rfl) h h'
  | false =>
    rw [if_neg Bool.false_ne_true] at h h'
    cases hterms with
    | nil => cases h
    | @cons first t rest terms hfirst hrest =>
      cases hterms' with
      | @cons _ t' _ terms' hfirst' hrest' =>
        dsimp only at h h'
        split at h
        · cases h
        next path hpath =>
          split at h'
          · cases h'
          next path' hpath' =>
            split at h
            · cases h
            · split at h'
              · cases h'
              · refine varies_of_ofTest hrest hrest' ?_ h h'
                rcases hfirst.text?_eq hfirst' with heq | hmarker
                · obtain rfl : path = path' :=
                    Option.some.inj (hpath.symm.trans (heq.trans hpath'))
                  exact .inl rfl
                · exact .inr ⟨first, rfl, hmarker⟩

end Clause

/-! ## Trees of one token list -/

section

variable {config : Config} {scalar : Bool} {tokens : List Token}
  {fills fills' : List (Marker × Json)} {bs bs' : List Bound}

/-- **Builders of one outline**: their pending terms come from the same tokens. -/
def outlineLikeness (config : Config) (scalar : Bool) : Likeness config scalar scalar where
  strict := False
  placed := True
  item a b := a.outline = b.outline
  pending terms terms' :=
    ∃ run, List.Forall₂ Token.Becomes run terms ∧ List.Forall₂ Token.Becomes run terms'
  pending_nil := ⟨[], .nil, .nil⟩
  eq_nil_iff := by
    rintro terms terms' ⟨run, h, h'⟩
    rw [← List.length_eq_zero_iff, ← List.length_eq_zero_iff, ← h.length_eq, ← h'.length_eq]
  clause := by
    rintro terms terms' ⟨run, h, h'⟩ -
    cases hc : Clause.ofTerms config scalar terms with
    | error e => exact .left not_false e _
    | ok c =>
      cases hc' : Clause.ofTerms config scalar terms' with
      | error e => exact .right not_false _ e
      | ok c' =>
        have hvaries := Clause.varies_of_filled h h' hc hc'
        exact .ok (by rw [Item.outline, Item.outline, hvaries.negate, hvaries.args, hvaries.keys])
  group := by
    intro path path' combinator items items' hpath hitems
    rw [Item.outline, Item.outline, hpath trivial, Item.outlinesOf_eq hitems]

/-- Two fillings of the same tokens are alike in their outlines. -/
theorem forall₂_tokens_of_filled (h : Rows Token.Filled tokens fills bs)
    (h' : Rows Token.Filled tokens fills' bs') :
    List.Forall₂ (outlineLikeness config scalar).Tokens bs bs' := by
  induction h generalizing fills' bs' with
  | nil =>
    cases h'
    exact .nil
  | @cons token b _ _ _ _ hfirst _ ih =>
    cases h' with
    | @cons _ b' _ _ _ _ hfirst' hothers' =>
      refine .cons ?_ (ih hothers')
      rcases hfirst.plain_or with ⟨hplain, t, rfl, ht⟩ | ⟨hplain, hb, hne⟩ <;>
        rcases hfirst'.plain_or with ⟨hplain', t', rfl, ht'⟩ | ⟨hplain', hb', -⟩
      · refine .term fun {terms terms'} hpending => ?_
        obtain ⟨run, hrun, hrun'⟩ := hpending
        exact ⟨run ++ [token], List.rel_append hrun (.cons ht .nil),
          List.rel_append hrun' (.cons ht' .nil)⟩
      · cases hplain.symm.trans hplain'
      · cases hplain.symm.trans hplain'
      · obtain rfl : b = b' := Option.some.inj (hb.symm.trans hb')
        exact .structural hne

/-- The runs of filled tokens are filled runs. -/
theorem forall₂_runs_of_filled (h : Rows Token.Filled tokens fills bs) :
    List.Forall₂ (List.Forall₂ Token.Becomes) (Token.runs tokens) (Bound.runs bs) := by
  refine forall₂_runsFrom ?_ .nil
  induction h with
  | nil => exact .nil
  | cons hfirst _ ih =>
    refine .cons ?_ ih
    rcases hfirst.plain_or with ⟨hplain, t, rfl, ht⟩ | ⟨hplain, hb, hne⟩
    · rw [hplain]
      exact .some ht
    · rw [hplain, Bound.term?_eq_none hne]
      exact .none

end

/-- Related lists have related elements at the same places. -/
theorem getElem?_of_forall₂ {α β : Type} {R : α → β → Prop} {as : List α} {bs : List β}
    (h : List.Forall₂ R as bs) {i : Nat} {a : α} {b : β} (ha : as[i]? = some a)
    (hb : bs[i]? = some b) : R a b := by
  obtain ⟨hi, rfl⟩ := List.getElem?_eq_some_iff.1 ha
  obtain ⟨hj, rfl⟩ := List.getElem?_eq_some_iff.1 hb
  exact h.get hi hj

namespace Token

variable {config : Config} {scalar : Bool} {tokens : List Token} {bindings : Bindings}
  {defaults : Dict Json} {g : Group}

/-- The tree of tokens is that of filled tokens. -/
theorem exists_filled_of_build
    (h : (resolveAll bindings defaults tokens >>= Group.build config scalar) = .ok g) :
    ∃ fills bs, Rows Filled tokens fills bs ∧ Group.build config scalar bs = .ok g := by
  cases hresolve : resolveAll bindings defaults tokens with
  | error e => rw [hresolve] at h; cases h
  | ok bs =>
    rw [hresolve] at h
    obtain ⟨fills, hrows, -⟩ := resolveAll_eq_ok_iff.1 hresolve
    exact ⟨fills, bs, hrows, h⟩

/-- The clauses of the tree are those of the runs, filled. -/
theorem exists_compiles_of_getElem? {fills : List (Marker × Json)} {bs : List Bound}
    (hrows : Rows Filled tokens fills bs) (hbuild : Group.build config scalar bs = .ok g) {i : Nat}
    {run : List Token} {c : Clause} (hrun : (runs tokens)[i]? = some run)
    (hc : g.clauses[i]? = some c) :
    ∃ terms, List.Forall₂ Becomes run terms ∧ Clause.ofTerms config scalar terms = .ok c := by
  have hruns := forall₂_runs_of_filled hrows
  have hclauses := Group.forall₂_clauses hbuild
  obtain ⟨hi, -⟩ := List.getElem?_eq_some_iff.1 hc
  have hi : i < (Bound.runs bs).length := hclauses.length_eq ▸ hi
  have hterms : (Bound.runs bs)[i]? = some (Bound.runs bs)[i] := List.getElem?_eq_getElem hi
  exact ⟨_, getElem?_of_forall₂ hruns hrun hterms, getElem?_of_forall₂ hclauses hterms hc⟩

/-- **Bound values never change the structure of a query.** Whatever values and defaults the markers
of a token list are resolved with: the two trees, if there are two, have the same groups with the
same paths and combinators, and clauses in the same places, one for each run of plain tokens. The
clauses of one run are both negated or both not, pass as many arguments and the same keywords. Their
attributes and predicates differ only where a marker names them. -/
theorem outline_eq_of_build {bindings' : Bindings} {defaults' : Dict Json} {g' : Group}
    (h : (resolveAll bindings defaults tokens >>= Group.build config scalar) = .ok g)
    (h' : (resolveAll bindings' defaults' tokens >>= Group.build config scalar) = .ok g') :
    g.outline = g'.outline ∧ g.clauses.length = (runs tokens).length ∧
      g'.clauses.length = (runs tokens).length ∧
      ∀ (i : Nat) (run : List Token) (c c' : Clause), (runs tokens)[i]? = some run →
        g.clauses[i]? = some c → g'.clauses[i]? = some c' → c.Varies scalar run c' := by
  obtain ⟨fills, bs, hrows, hbuild⟩ := exists_filled_of_build h
  obtain ⟨fills', bs', hrows', hbuild'⟩ := exists_filled_of_build h'
  have hlength {fills : List (Marker × Json)} {bs : List Bound} {g : Group}
      (hrows : Rows Filled tokens fills bs) (hbuild : Group.build config scalar bs = .ok g) :
      g.clauses.length = (runs tokens).length := by
    rw [(forall₂_runs_of_filled hrows).length_eq, (Group.forall₂_clauses hbuild).length_eq]
  refine ⟨?_, hlength hrows hbuild, hlength hrows' hbuild', fun i run c c' hrun hc hc' => ?_⟩
  · have hcorresponds : Corresponds False (outlineLikeness config scalar).Groups
        (Group.build config scalar bs) (Group.build config scalar bs') :=
      Likeness.build (forall₂_tokens_of_filled hrows hrows')
    rw [hbuild, hbuild'] at hcorresponds
    exact hcorresponds.of_ok
  · obtain ⟨terms, hterms, hcompiles⟩ := exists_compiles_of_getElem? hrows hbuild hrun hc
    obtain ⟨terms', hterms', hcompiles'⟩ := exists_compiles_of_getElem? hrows' hbuild' hrun hc'
    exact Clause.varies_of_filled hterms hterms' hcompiles hcompiles'

/-- Markers in every place: a predicate, an attribute, a predicate after `not`, a keyword's value
and a bare key. -/
def sampleMarked : List Token :=
  [.opening, .word "a", .positional, .word "x", .operator .all, .positional, .word "not",
    .named "p", .keywords [⟨"k", some "?"⟩, ⟨":q", none⟩], .closing]

/-- Values that a query could be made of. -/
def sampleBindings : Bindings where
  positional := [.string "not", .string "and", .string ")"]
  named := [("p", .string "?"), ("q", .string ":x")]

/-- The case of two bindings for the same query. -/
theorem outline_eq_of_build_sample :
    ∃ g g',
      (resolveAll ⟨[.string "eq", .string "b", .null], [("p", .string "in")]⟩ [("q", .bool true)]
          sampleMarked >>= Group.build {} false) = .ok g ∧
        (resolveAll sampleBindings [] sampleMarked >>= Group.build {} false) = .ok g' ∧
          g.outline = g'.outline ∧ g.clauses.length = (runs sampleMarked).length ∧
            g'.clauses.length = (runs sampleMarked).length ∧
            ∀ (i : Nat) (run : List Token) (c c' : Clause), (runs sampleMarked)[i]? = some run →
              g.clauses[i]? = some c → g'.clauses[i]? = some c' → c.Varies false run c' := by
  obtain ⟨g, hg⟩ : ∃ g, (resolveAll ⟨[.string "eq", .string "b", .null], [("p", .string "in")]⟩
      [("q", .bool true)] sampleMarked >>= Group.build {} false) = .ok g := ⟨_, rfl⟩
  obtain ⟨g', hg'⟩ : ∃ g', (resolveAll sampleBindings [] sampleMarked >>= Group.build {} false) =
      .ok g' := ⟨_, rfl⟩
  exact ⟨g, g', hg, hg', outline_eq_of_build hg hg'⟩

end Token

end RecordFilter
