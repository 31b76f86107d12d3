import RecordFilter.Proofs.Parens.Irreducible

/-!
# The order of removals does not matter

Two redundant pairs of one list share no parenthesis, and neither is a neighbour on which the other
depends. So they can be removed in either order, and all ways of removing pairs until none is left
end in the same list.

* `Token.Redundant` — a redundant pair with the tokens before, inside and after it.
* `Token.exists_between` — a token stands between two redundant pairs.
* `Token.diamond_of_dropsPair` — two removals can be completed to the same list.
* `Token.eq_of_irreducible` — **what is left in the end is unique.**
* `Token.kept_eq_of_drops`, `Token.exists_count_of_drops` — all other tokens stay in order, and
  parentheses go in pairs.
-/

namespace RecordFilter.Token

/-- **A redundant pair** around `plain`, with the tokens before and after it. -/
structure Redundant (before plain after : List Token) : Prop where
  ne_nil : plain ≠ []
  isPlain : ∀ token ∈ plain, token.isPlain = true
  standsAfter : standsAfter before.getLast? = true
  standsBefore : standsBefore after.head? = true

/-- A redundant pair is dropped. -/
theorem Redundant.dropsPair {before plain after : List Token} (h : Redundant before plain after) :
    DropsPair (before ++ .opening :: (plain ++ .closing :: after)) (before ++ (plain ++ after)) :=
  ⟨before, plain, after, h.ne_nil, h.isPlain, h.standsAfter, h.standsBefore⟩

/-- What is dropped is a redundant pair. -/
theorem dropsPair_iff {s t : List Token} :
    DropsPair s t ↔ ∃ before plain after, Redundant before plain after ∧
      s = before ++ .opening :: (plain ++ .closing :: after) ∧ t = before ++ (plain ++ after) := by
  constructor
  · rintro ⟨before, plain, after, hne, hplain, hbefore, hafter⟩
    exact ⟨before, plain, after, ⟨hne, hplain, hbefore, hafter⟩, rfl, rfl⟩
  · rintro ⟨before, plain, after, h, rfl, rfl⟩
    exact h.dropsPair

/-! ## Two pairs of one list -/

/-- What closes after plain tokens closes at one place. -/
theorem eq_of_plain_closing {plain plain' after after' : List Token}
    (hplain : ∀ token ∈ plain, token.isPlain = true)
    (hplain' : ∀ token ∈ plain', token.isPlain = true)
    (h : plain ++ .closing :: after = plain' ++ .closing :: after') :
    plain = plain' ∧ after = after' := by
  have htake := congrArg (List.takeWhile isPlain) h
  rw [List.takeWhile_append_of_pos hplain, List.takeWhile_append_of_pos hplain'] at htake
  obtain rfl : plain = plain' := by simpa [isPlain] using htake
  exact ⟨rfl, (List.cons.inj (List.append_cancel_left h)).2⟩

/-- **A token stands between two redundant pairs.** The first pair ends before the second one opens,
for a parenthesis opens nowhere among plain tokens, and it would not stand alone with the second
one next to it. -/
theorem exists_between {plain after mid rest : List Token}
    (hplain : ∀ token ∈ plain, token.isPlain = true) (hafter : standsBefore after.head? = true)
    (h : plain ++ .closing :: after = mid ++ .opening :: rest) :
    ∃ token between, mid = plain ++ .closing :: token :: between ∧
      after = token :: between ++ .opening :: rest := by
  rcases List.append_eq_append_iff.1 h with ⟨tail, hmid, htail⟩ | ⟨tail, hplains, htail⟩
  · cases tail with
    | nil => cases htail
    | cons last between =>
      obtain ⟨rfl, rfl⟩ := List.cons.inj htail
      cases between with
      | nil => cases hafter
      | cons token between => exact ⟨token, between, hmid, rfl⟩
  · cases tail with
    | nil => cases htail
    | cons first tail =>
      obtain ⟨rfl, -⟩ := List.cons.inj htail
      have hopening := hplain .opening (by simp [hplains])
      cases hopening

/-- The last token of two lists is that of the second, if it has one. -/
theorem getLast?_append_cons (xs ys : List Token) (token : Token) :
    (xs ++ token :: ys).getLast? = (token :: ys).getLast? :=
  List.getLast?_append_of_ne_nil xs (List.cons_ne_nil token ys)

/-- Two removals, the first of them further to the left: each pair is redundant after the other is
removed. -/
theorem exists_dropsPair_of_left {before plain after mid plain' after' : List Token}
    (h : Redundant before plain after)
    (h' : Redundant (before ++ .opening :: mid) plain' after')
    (heq : plain ++ .closing :: after = mid ++ .opening :: (plain' ++ .closing :: after')) :
    ∃ v, DropsPair (before ++ (plain ++ after)) v ∧
      DropsPair (before ++ .opening :: mid ++ (plain' ++ after')) v := by
  obtain ⟨token, between, rfl, rfl⟩ := exists_between h.isPlain h.standsBefore heq
  have hsecond : Redundant (before ++ (plain ++ token :: between)) plain' after' := by
    refine ⟨h'.ne_nil, h'.isPlain, ?_, h'.standsBefore⟩
    have hlast := h'.standsAfter
    rw [← List.cons_append, ← List.append_assoc, getLast?_append_cons,
      List.getLast?_cons_cons] at hlast
    rwa [← List.append_assoc, getLast?_append_cons]
  have hfirst : Redundant before plain (token :: between ++ (plain' ++ after')) :=
    ⟨h.ne_nil, h.isPlain, h.standsAfter, h.standsBefore⟩
  refine ⟨before ++ (plain ++ (token :: between ++ (plain' ++ after'))), ?_, ?_⟩
  · simpa using hsecond.dropsPair
  · simpa using hfirst.dropsPair

/-- **Two removals can be completed to the same list**: they remove the same pair, or each of two
pairs can still be removed after the other. -/
theorem diamond_of_dropsPair {s t u : List Token} (ht : DropsPair s t) (hu : DropsPair s u) :
    t = u ∨ ∃ v, DropsPair t v ∧ DropsPair u v := by
  obtain ⟨before, plain, after, h, rfl, rfl⟩ := dropsPair_iff.1 ht
  obtain ⟨before', plain', after', h', heq, rfl⟩ := dropsPair_iff.1 hu
  -- one of the two lists of tokens before the pairs goes on in the other
  rcases List.append_eq_append_iff.1 heq with ⟨tail, rfl, htail⟩ | ⟨tail, rfl, htail⟩
  · cases tail with
    | nil =>
      obtain ⟨rfl, rfl⟩ := eq_of_plain_closing h.isPlain h'.isPlain (List.cons.inj htail).2
      exact .inl (by rw [List.append_nil])
    | cons first mid =>
      obtain ⟨rfl, hinside⟩ := List.cons.inj htail
      exact .inr (exists_dropsPair_of_left h h' hinside)
  · cases tail with
    | nil =>
      obtain ⟨rfl, rfl⟩ := eq_of_plain_closing h'.isPlain h.isPlain (List.cons.inj htail).2
      exact .inl (by rw [List.append_nil])
    | cons first mid =>
      obtain ⟨rfl, hinside⟩ := List.cons.inj htail
      obtain ⟨v, hu, ht⟩ := exists_dropsPair_of_left h' h hinside
      exact .inr ⟨v, ht, hu⟩

/-! ## Many removals -/

open Relation (ReflTransGen ReflGen)

/-- From a list without redundant pairs no removal goes on. -/
theorem Irreducible.eq_of_drops {s t : List Token} (h : Irreducible s)
    (hdrops : ReflTransGen DropsPair s t) : s = t := by
  rcases hdrops.cases_head with heq | ⟨mid, hdrop, -⟩
  · exact heq
  · exact absurd hdrop (h mid)

/-- **What is left in the end is unique**, whichever pairs are removed first. -/
theorem eq_of_irreducible {s t u : List Token} (hst : ReflTransGen DropsPair s t)
    (hsu : ReflTransGen DropsPair s u) (ht : Irreducible t) (hu : Irreducible u) : t = u := by
  obtain ⟨v, htv, huv⟩ := Relation.church_rosser (fun a b c hab hac => by
    rcases diamond_of_dropsPair hab hac with rfl | ⟨d, hbd, hcd⟩
    · exact ⟨b, .refl, .refl⟩
    · exact ⟨d, .single hbd, .single hcd⟩) hst hsu
  exact (ht.eq_of_drops htv).trans (hu.eq_of_drops huv).symm

/-! ## What removals keep -/

/-- Tokens that no removal takes: all but parentheses. -/
def isKept (token : Token) : Bool := token.paren?.isNone

/-- Plain tokens are kept. -/
theorem isKept_of_isPlain {token : Token} (h : token.isPlain = true) : token.isKept = true := by
  cases token with
  | opening | closing | operator _ => cases h
  | word _ | positional | named _ | keywords _ => rfl

/-- Dropping a pair keeps all other tokens. -/
theorem kept_eq_of_dropsPair {s t : List Token} (h : DropsPair s t) :
    t.filter isKept = s.filter isKept := by
  obtain ⟨before, plain, after, -, rfl, rfl⟩ := dropsPair_iff.1 h
  simp [isKept, paren?]

/-- **All tokens but parentheses stay**, in order. -/
theorem kept_eq_of_drops {s t : List Token} (h : ReflTransGen DropsPair s t) :
    t.filter isKept = s.filter isKept := by
  induction h with
  | refl => rfl
  | tail _ hdrop ih => exact (kept_eq_of_dropsPair hdrop).trans ih

/-- **Parentheses go in pairs**: as many opening as closing ones. -/
theorem exists_count_of_drops {s t : List Token} (h : ReflTransGen DropsPair s t) :
    ∃ n, s.count .opening = t.count .opening + n ∧ s.count .closing = t.count .closing + n := by
  induction h with
  | refl => exact ⟨0, rfl, rfl⟩
  | @tail u v _ hdrop ih =>
    obtain ⟨n, hopening, hclosing⟩ := ih
    obtain ⟨before, plain, after, -, rfl, rfl⟩ := dropsPair_iff.1 hdrop
    have hne : Token.opening ≠ .closing := by decide
    refine ⟨n + 1, ?_, ?_⟩
    · simp only [hopening, List.count_append, List.count_cons_self, List.count_cons_of_ne hne.symm]
      omega
    · simp only [hclosing, List.count_append, List.count_cons_self, List.count_cons_of_ne hne]
      omega

end RecordFilter.Token
