import RecordFilter.Proofs.Builder.Core
import RecordFilter.Proofs.Parens.Removal
import RecordFilter.Proofs.Resolution.Shape

/-!
# Redundant parentheses have no meaning

Removing redundant pairs changes neither whether a token list has a tree nor what the tree does. One
pair is followed through resolution, where it stays a pair around terms, and through the builder,
which goes on alike without it; many pairs are a chain of single ones.

* `Group.ofTokens` — the tree of lexical tokens.
* `Group.SameMeaning` — the same clauses, and the same results after the same calls.
* `Token.resolveAll_of_dropsInside` — resolution keeps a pair.
* `Group.sameMeaning_stripParens` — all passes together keep the meaning.
-/

namespace RecordFilter

/-! ## Resolution -/

namespace Token

variable {bindings : Bindings} {defaults : Dict Json}

/-- A token that a redundant pair may follow leaves the builder to expect an item. -/
theorem exists_structural_of_standsAfter {token : Token} (h : standsAfter (some token) = true) :
    ∃ b, token.structural? = some b ∧ Builder.expectsItem b = true := by
  cases token with
  | opening | operator _ => exact ⟨_, rfl, rfl⟩
  | closing | word _ | positional | named _ | keywords _ => cases h

/-- A token that may follow a redundant pair ends an item. -/
theorem exists_structural_of_standsBefore {token : Token} (h : standsBefore (some token) = true) :
    ∃ b, token.structural? = some b ∧ Builder.endsItem b = true := by
  cases token with
  | closing | operator _ => exact ⟨_, rfl, rfl⟩
  | opening | word _ | positional | named _ | keywords _ => cases h

/-- Parentheses take no positional value. -/
theorem positionalCount_of_dropsInside {s t : List Token} (h : DropsInside s t) :
    (s.map positionalCount).foldr (· + ·) 0 = (t.map positionalCount).foldr (· + ·) 0 := by
  obtain ⟨before, left, plain, right, after, -, -, -, -⟩ := h
  have hopening : positionalCount .opening = 0 := rfl
  have hclosing : positionalCount .closing = 0 := rfl
  simp only [List.map_append, List.map_cons, List.foldr_append, List.foldr_cons, hopening, hclosing,
    Nat.zero_add]

/-- **A pair resolves to a pair**, and with it the same values are taken. -/
theorem each_of_dropsInside {s t : List Token} (h : DropsInside s t) (values : List Json) :
    (∃ e, Resolving.each (resolve bindings defaults) s values = .error e ∧
        Resolving.each (resolve bindings defaults) t values = .error e) ∨
      ∃ bs bt last, Resolving.each (resolve bindings defaults) s values = .ok (bs, last) ∧
        Resolving.each (resolve bindings defaults) t values = .ok (bt, last) ∧
        Bound.DropsPair bs bt := by
  obtain ⟨before, left, plain, right, after, hne, hplain, hleft, hright⟩ := h
  obtain ⟨l, hl, hexpects⟩ := exists_structural_of_standsAfter hleft
  obtain ⟨r, hr, hends⟩ := exists_structural_of_standsBefore hright
  have hopening (left : List Json) :
      Token.opening.resolve bindings defaults left = .ok (.opening, left) :=
    resolve_of_structural rfl left
  have hclosing (left : List Json) :
      Token.closing.resolve bindings defaults left = .ok (.closing, left) :=
    resolve_of_structural rfl left
-- both lists are resolved with the same values before, inside and behind the pair
  cases hb : Resolving.each (resolve bindings defaults) before values with
  | error e =>
    exact .inl ⟨e, Resolving.each_append_of_error hb _, Resolving.each_append_of_error hb _⟩
  | ok result =>
    obtain ⟨bs, mid⟩ := result
    rw [Resolving.each_append_of_ok hb, Resolving.each_append_of_ok hb,
      Resolving.each_cons_of_ok (resolve_of_structural hl mid),
      Resolving.each_cons_of_ok (resolve_of_structural hl mid),
      Resolving.each_cons_of_ok (hopening mid)]
    cases hp : Resolving.each (resolve bindings defaults) plain mid with
    | error e =>
      rw [Resolving.each_append_of_error hp, Resolving.each_append_of_error hp]
      exact .inl ⟨e, rfl, rfl⟩
    | ok result =>
      obtain ⟨ps, rest⟩ := result
      obtain ⟨terms, rfl, hlen⟩ := exists_terms_of_each hplain hp
      rw [Resolving.each_append_of_ok hp, Resolving.each_append_of_ok hp,
        Resolving.each_cons_of_ok (hclosing rest),
        Resolving.each_cons_of_ok (resolve_of_structural hr rest)]
      cases ha : Resolving.each (resolve bindings defaults) after rest with
      | error e => exact .inl ⟨e, rfl, rfl⟩
      | ok result =>
        obtain ⟨as, last⟩ := result
        have hterms : terms ≠ [] := by
          rintro rfl
          exact hne (List.length_eq_zero_iff.1 hlen.symm)
        exact .inr ⟨_, _, last, rfl, rfl, bs, l, terms, r, as, hterms, hexpects, hends⟩

/-- Resolution fails alike with a pair and without it, or keeps the pair. -/
theorem resolveAll_of_dropsInside {s t : List Token} (h : DropsInside s t) :
    (∃ e, resolveAll bindings defaults s = .error e ∧ resolveAll bindings defaults t = .error e) ∨
      ∃ bs bt, resolveAll bindings defaults s = .ok bs ∧ resolveAll bindings defaults t = .ok bt ∧
        Bound.DropsPair bs bt := by
  rw [resolveAll, resolveAll, positionalCount_of_dropsInside h]
  split
  · exact .inl ⟨_, rfl, rfl⟩
  · rcases each_of_dropsInside h bindings.positional with
      ⟨e, hs, ht⟩ | ⟨bs, bt, last, hs, ht, hdrops⟩
    · exact .inl ⟨e, by rw [hs], by rw [ht]⟩
    · exact .inr ⟨bs, bt, by rw [hs], by rw [ht], hdrops⟩

end Token

/-! ## Trees of lexical tokens -/

namespace Group

/-- **The tree of lexical tokens**: markers are replaced, then groups are built. -/
def ofTokens (bindings : Bindings) (config : Config) (scalar : Bool) (tokens : List Token) :
    Except Error Group := do
  let bound ← Token.resolveAll bindings config.defaultBindings tokens
  build config scalar bound

/-- **Two trees have one meaning**: the same clauses in the same order, and on all records the same
indices or the same error after the same calls, however predicates behave. -/
structure SameMeaning (a b : Group) : Prop where
  clauses : a.clauses = b.clauses
  evaluate (registry : Registry) (onlyFirst : Bool) (records : List Json) :
    a.evaluate registry onlyFirst records = b.evaluate registry onlyFirst records
  evaluateUnder (registry : Registry) (behaviour : Behaviour) (onlyFirst : Bool)
    (records : List Json) :
    a.evaluateUnder registry behaviour onlyFirst records =
      b.evaluateUnder registry behaviour onlyFirst records

variable {a b : Group}

/-- Trees with one core have one meaning. -/
theorem SameCore.sameMeaning (h : SameCore a b) : SameMeaning a b where
  clauses := clauses_eq_of_core_eq h
  evaluate := evaluate_eq_of_core_eq h
  evaluateUnder := evaluateUnder_eq_of_core_eq h

section

variable (bindings : Bindings) (config : Config) (scalar : Bool)

/-- Dropping a pair inside a group changes nothing of the meaning. -/
theorem agree_ofTokens_of_dropsInside {s t : List Token} (h : Token.DropsInside s t) :
    Agree SameCore (ofTokens bindings config scalar s) (ofTokens bindings config scalar t) := by
  rw [ofTokens, ofTokens]
  rcases Token.resolveAll_of_dropsInside h with ⟨e, hs, ht⟩ | ⟨bs, bt, hs, ht, hdrops⟩
  · rw [hs, ht]
    exact .error rfl
  · rw [hs, ht]
    exact agree_build_of_dropsPair config scalar hdrops

/-- One removal before the outer parentheses are added does not show. -/
theorem agree_ofTokens_enclose {s t : List Token} (h : Token.DropsPair s t) :
    Agree SameCore (ofTokens bindings config scalar (Token.enclose s))
      (ofTokens bindings config scalar (Token.enclose t)) := by
  rcases Token.enclose_of_dropsPair h with heq | hinside
  · rw [heq]
    exact Agree.refl SameCore.refl _
  · exact agree_ofTokens_of_dropsInside bindings config scalar hinside

/-- **Removing redundant parentheses keeps the meaning** of a token list: with them and without them
it has trees of one meaning, or is refused with errors of one kind. -/
theorem sameMeaning_stripParens (tokens : List Token) :
    Agree SameMeaning (ofTokens bindings config scalar (Token.enclose tokens))
      (ofTokens bindings config scalar (Token.enclose (Token.stripParens tokens).2)) := by
  have hdrops := Token.drops_stripParens tokens
  have hcore : Agree SameCore (ofTokens bindings config scalar (Token.enclose tokens))
      (ofTokens bindings config scalar (Token.enclose (Token.stripParens tokens).2)) := by
    generalize (Token.stripParens tokens).2 = stripped at hdrops ⊢
    induction hdrops with
    | refl => exact Agree.refl SameCore.refl _
    | tail _ hdrop ih =>
      exact ih.trans SameCore.trans (agree_ofTokens_enclose bindings config scalar hdrop)
  exact hcore.imp SameCore.sameMeaning

end

end Group

end RecordFilter
