import Mathlib.Data.List.Forall2
import RecordFilter.Query.Binding

/-!
# The shape of resolved tokens

Resolution goes through a token list once and keeps its shape: parentheses and operators stay, every
other token becomes a term.

* `Resolving.each_append_of_ok`, `Resolving.each_append_of_error` — a list is resolved part by part.
* `Token.resolve_of_structural` — parentheses and operators resolve to themselves and take no value.
* `Token.exists_forall₂_of_each` — plain tokens resolve to terms one by one, and only words to
  words.
-/

namespace RecordFilter

namespace Resolving

variable {α β : Type} {f : α → Resolving β} {left left' : List Json}

/-- A row goes on behind a first element that succeeds. -/
theorem each_cons_of_ok {a : α} {b : β} (h : f a left = .ok (b, left')) (rest : List α) :
    each f (a :: rest) left = (each f rest left').map fun r => (b :: r.1, r.2) := by
  show Resolving.bind (f a)
    (fun b => Resolving.bind (each f rest) fun bs => Resolving.pure (b :: bs)) left = _
  simp only [Resolving.bind, h]
  cases each f rest left' with
  | ok r => rfl
  | error e => rfl

/-- A row fails with its first element. -/
theorem each_cons_of_error {a : α} {e : Error} (h : f a left = .error e) (rest : List α) :
    each f (a :: rest) left = .error e := by
  show Resolving.bind (f a) _ left = _
  simp only [Resolving.bind, h]

/-- The results of a list are that of its first element and those of the others. -/
theorem each_cons_eq_ok {a : α} {rest : List α} {bs : List β} {last : List Json}
    (h : each f (a :: rest) left = .ok (bs, last)) :
    ∃ b mid cs, f a left = .ok (b, mid) ∧ each f rest mid = .ok (cs, last) ∧ bs = b :: cs := by
  cases ha : f a left with
  | error e => rw [each_cons_of_error ha] at h; cases h
  | ok r =>
    obtain ⟨b, mid⟩ := r
    rw [each_cons_of_ok ha] at h
    cases hrest : each f rest mid with
    | error e => rw [hrest] at h; cases h
    | ok r =>
      obtain ⟨cs, final⟩ := r
      rw [hrest] at h
      obtain ⟨rfl, rfl⟩ := Prod.mk.inj (Except.ok.inj h)
      exact ⟨b, mid, cs, rfl, hrest, rfl⟩

/-- **The second part of a list** is resolved with the values that the first part leaves. -/
theorem each_append_of_ok {xs : List α} {bs : List β} (h : each f xs left = .ok (bs, left'))
    (ys : List α) :
    each f (xs ++ ys) left = (each f ys left').map fun r => (bs ++ r.1, r.2) := by
  induction xs generalizing left bs with
  | nil =>
    obtain ⟨rfl, rfl⟩ : [] = bs ∧ left = left' := by
      simpa [each, Resolving.pure] using h
    cases hys : each f ys left <;> simp [hys, Except.map]
  | cons x xs ih =>
    rw [List.cons_append]
    cases hx : f x left with
    | error e => rw [each_cons_of_error hx] at h; cases h
    | ok r =>
      obtain ⟨b, mid⟩ := r
      rw [each_cons_of_ok hx] at h ⊢
      cases hxs : each f xs mid with
      | error e => rw [hxs] at h; cases h
      | ok r =>
        obtain ⟨cs, last⟩ := r
        rw [hxs] at h
        obtain ⟨rfl, rfl⟩ : b :: cs = bs ∧ last = left' := by
          simpa [Except.map] using h
        rw [ih hxs]
        cases each f ys last with
        | ok r => rfl
        | error e => rfl

/-- A row that has failed stays failed. -/
theorem each_append_of_error {xs : List α} {e : Error} (h : each f xs left = .error e)
    (ys : List α) : each f (xs ++ ys) left = .error e := by
  induction xs generalizing left with
  | nil => cases h
  | cons x xs ih =>
    rw [List.cons_append]
    cases hx : f x left with
    | error e' =>
      rw [each_cons_of_error hx] at h ⊢
      exact h
    | ok r =>
      obtain ⟨b, mid⟩ := r
      rw [each_cons_of_ok hx] at h ⊢
      cases hxs : each f xs mid with
      | ok r => rw [hxs] at h; cases h
      | error e' =>
        rw [hxs] at h
        cases h
        rw [ih hxs]
        rfl

/-- The results of two lists are those of the first and those of the second. -/
theorem each_append_eq_ok {xs ys : List α} {bs : List β} {last : List Json}
    (h : each f (xs ++ ys) left = .ok (bs, last)) :
    ∃ cs ds mid, each f xs left = .ok (cs, mid) ∧ each f ys mid = .ok (ds, last) ∧
      bs = cs ++ ds := by
  cases hxs : each f xs left with
  | error e => rw [each_append_of_error hxs] at h; cases h
  | ok r =>
    obtain ⟨cs, mid⟩ := r
    rw [each_append_of_ok hxs] at h
    cases hys : each f ys mid with
    | error e => rw [hys] at h; cases h
    | ok r =>
      obtain ⟨ds, final⟩ := r
      rw [hys] at h
      obtain ⟨rfl, rfl⟩ := Prod.mk.inj (Except.ok.inj h)
      exact ⟨cs, ds, mid, rfl, hys, rfl⟩

/-- A step whose result is only rewrapped. -/
theorem bind_pure_eq_ok_iff {x : Resolving α} {g : α → β} {b : β} :
    (x >>= fun a => Pure.pure (g a)) left = .ok (b, left') ↔
      ∃ a, x left = .ok (a, left') ∧ g a = b := by
  show Resolving.bind x (fun a => Resolving.pure (g a)) left = _ ↔ _
  cases hx : x left with
  | error e => simp [Resolving.bind, hx]
  | ok r =>
    obtain ⟨a, mid⟩ := r
    simp [Resolving.bind, Resolving.pure, hx, and_comm]

end Resolving

namespace Token

variable {bindings : Bindings} {defaults : Dict Json}

/-- The resolved form of a parenthesis or an operator. -/
def structural? : Token → Option Bound
  | .opening => some .opening
  | .closing => some .closing
  | .operator combinator => some (.operator combinator)
  | _ => none

/-- **Parentheses and operators resolve to themselves** and take no value. -/
theorem resolve_of_structural {token : Token} {b : Bound} (h : token.structural? = some b)
    (left : List Json) : token.resolve bindings defaults left = .ok (b, left) := by
  cases token with
  | opening | closing | operator _ => exact Option.some.inj h ▸ rfl
  | word _ | positional | named _ | keywords _ => cases h

/-- A plain token resolves to a term, if it does. -/
theorem exists_term_of_resolve {token : Token} (h : token.isPlain = true) {b : Bound}
    {left left' : List Json} (hr : token.resolve bindings defaults left = .ok (b, left')) :
    ∃ t, b = .term t := by
  cases token with
  | opening | closing | operator _ => cases h
  | word text =>
    obtain ⟨rfl, -⟩ : Bound.term (.word text) = b ∧ left = left' := by
      simpa [resolve, Resolving.pure] using hr
    exact ⟨_, rfl⟩
  | positional | named _ | keywords _ =>
    obtain ⟨_, -, rfl⟩ := Resolving.bind_pure_eq_ok_iff.1 hr
    exact ⟨_, rfl⟩

/-- Only words resolve to words. -/
theorem eq_word_of_resolve {token : Token} {text : String} {left left' : List Json}
    (h : token.resolve bindings defaults left = .ok (.term (.word text), left')) :
    token = .word text := by
  cases token with
  | opening | closing | operator _ =>
    rw [resolve_of_structural rfl] at h
    cases h
  | word other =>
    obtain ⟨hterm, -⟩ := Prod.mk.inj (Except.ok.inj h)
    cases hterm
    rfl
  | positional | named _ | keywords _ =>
    obtain ⟨_, -, hterm⟩ := Resolving.bind_pure_eq_ok_iff.1 h
    cases hterm

/-- A term that a token may resolve to: a word only if the token is that word. -/
def Yields (token : Token) (t : Term) : Prop := ∀ text, t = .word text → token = .word text

/-- **Plain tokens resolve to terms** one by one, and only words to words. -/
theorem exists_forall₂_of_each {plain : List Token} (h : ∀ token ∈ plain, token.isPlain = true)
    {bs : List Bound} {left left' : List Json}
    (hr : Resolving.each (resolve bindings defaults) plain left = .ok (bs, left')) :
    ∃ terms : List Term, bs = terms.map .term ∧ List.Forall₂ Yields plain terms := by
  induction plain generalizing left bs with
  | nil =>
    obtain ⟨rfl, -⟩ := Prod.mk.inj (Except.ok.inj hr)
    exact ⟨[], rfl, .nil⟩
  | cons token rest ih =>
    obtain ⟨b, mid, cs, htoken, hrest, rfl⟩ := Resolving.each_cons_eq_ok hr
    obtain ⟨t, rfl⟩ := exists_term_of_resolve (h token List.mem_cons_self) htoken
    obtain ⟨terms, rfl, hterms⟩ :=
      ih (fun token hmem => h token (List.mem_cons_of_mem _ hmem)) hrest
    exact ⟨t :: terms, rfl, .cons (fun text heq => eq_word_of_resolve (heq ▸ htoken)) hterms⟩

/-- Plain tokens resolve to terms, one for each. -/
theorem exists_terms_of_each {plain : List Token} (h : ∀ token ∈ plain, token.isPlain = true)
    {bs : List Bound} {left left' : List Json}
    (hr : Resolving.each (resolve bindings defaults) plain left = .ok (bs, left')) :
    ∃ terms : List Term, bs = terms.map .term ∧ terms.length = plain.length := by
  obtain ⟨terms, hbs, hterms⟩ := exists_forall₂_of_each h hr
  exact ⟨terms, hbs, hterms.length_eq.symm⟩

end Token

end RecordFilter
