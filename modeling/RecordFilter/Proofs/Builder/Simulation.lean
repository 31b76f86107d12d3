import Mathlib.Data.List.Forall2
import RecordFilter.Proofs.Builder.Run

/-!
# Two builders side by side

Two builders that read alike tokens stay alike. What alike means is open: a likeness says which
items correspond and which terms that are pending, and that compiling such terms gives such items.
The rest is the same for every likeness and is shown here once.

* `Corresponds` — two outcomes are related, or two errors are of one kind; in the loose sense an
  error corresponds to anything.
* `Likeness` — what has to be known of items and of pending terms.
* `Likeness.Frames`, `Likeness.Builders` — frames and builders that are alike.
* `Likeness.step` — **a parenthesis or an operator keeps builders alike.**
* `Likeness.run`, `Likeness.build` — lists of alike tokens build alike trees.
-/

namespace RecordFilter

/-! ## Corresponding outcomes -/

/-- **Two outcomes correspond**: two related results, or two errors of one kind. Where the sense is
not strict, an error corresponds to every outcome. -/
inductive Corresponds {α : Type} (strict : Prop) (R : α → α → Prop) :
    Except Error α → Except Error α → Prop
  | ok {a b : α} (h : R a b) : Corresponds strict R (.ok a) (.ok b)
  | error {e e' : Error} (h : e.kind = e'.kind) : Corresponds strict R (.error e) (.error e')
  | left (h : ¬strict) (e : Error) (y : Except Error α) : Corresponds strict R (.error e) y
  | right (h : ¬strict) (x : Except Error α) (e : Error) : Corresponds strict R x (.error e)

namespace Corresponds

variable {α β : Type} {strict : Prop} {R : α → α → Prop} {S : β → β → Prop}
  {x y : Except Error α} {f g : α → Except Error β}

/-- Outcomes of related results of corresponding outcomes correspond. -/
theorem bind (h : Corresponds strict R x y)
    (hf : ∀ a b, R a b → Corresponds strict S (f a) (g b)) :
    Corresponds strict S (x.bind f) (y.bind g) := by
  cases h with
  | ok h => exact hf _ _ h
  | error h => exact .error h
  | left h e y => exact .left h e _
  | right h x e => exact .right h _ e

/-- What holds of the first result, if there is one, may be added to the relation. -/
theorem and_left {P : α → Prop} (h : Corresponds strict R x y) (hP : ∀ a, x = .ok a → P a) :
    Corresponds strict (fun a b => P a ∧ R a b) x y := by
  cases h with
  | ok h => exact .ok ⟨hP _ rfl, h⟩
  | error h => exact .error h
  | left h e y => exact .left h e y
  | right h x e => exact .right h x e

/-- Results that correspond up to a relation correspond up to a weaker one. -/
theorem imp {R' : α → α → Prop} (hR : ∀ a b, R a b → R' a b) (h : Corresponds strict R x y) :
    Corresponds strict R' x y := by
  cases h with
  | ok h => exact .ok (hR _ _ h)
  | error h => exact .error h
  | left h e y => exact .left h e y
  | right h x e => exact .right h x e

/-- Results that correspond are related. -/
theorem of_ok {a b : α} (h : Corresponds strict R (.ok a) (.ok b)) : R a b := by
  cases h with
  | ok h => exact h

end Corresponds

/-! ## Likenesses -/

/-- **What is alike in two builders.** Terms that are pending in both compile to items that
correspond, and groups correspond if their items do. -/
structure Likeness (config : Config) (scalar scalar' : Bool) where
  /-- Whether one builder may fail alone. -/
  strict : Prop
  /-- Whether groups stand at the same places. -/
  placed : Prop
  item : Item → Item → Prop
  /-- The terms that may be pending. -/
  pending : List Term → List Term → Prop
  pending_nil : pending [] []
  eq_nil_iff : ∀ {terms terms'}, pending terms terms' → (terms = [] ↔ terms' = [])
  clause : ∀ {terms terms'}, pending terms terms' → terms ≠ [] →
    Corresponds strict (fun c c' => item (.clause c) (.clause c'))
      (Clause.ofTerms config scalar terms) (Clause.ofTerms config scalar' terms')
  group : ∀ {path path' combinator items items'}, (placed → path = path') →
    List.Forall₂ item items items' → item (.group path combinator items)
      (.group path' combinator items')

namespace Likeness

variable {config : Config} {scalar scalar' : Bool} (L : Likeness config scalar scalar')

/-- Two groups are alike. -/
def Groups (g g' : Group) : Prop := L.item g.toItem g'.toItem

/-- **Two frames are alike.** -/
structure Frames (a b : Frame) : Prop where
  place : L.placed → a.path = b.path ∧ a.nextChild = b.nextChild
  combinator : a.combinator = b.combinator
  items : List.Forall₂ L.item a.items b.items
  terms : L.pending a.terms b.terms
  dangling : a.dangling = b.dangling

/-- **Two builders are alike**, frame by frame. -/
structure Builders (a b : Builder) : Prop where
  stack : List.Forall₂ L.Frames a.stack b.stack
  root : Option.Rel L.Groups a.root b.root

/-- Empty builders are alike. -/
theorem builders_empty : L.Builders {} {} := ⟨.nil, .none⟩

variable {L}

/-! ### Frames -/

namespace Frames

variable {a b : Frame}

/-- Frames that have just opened. -/
theorem opened {path path' : GroupPath} (h : L.placed → path = path') :
    L.Frames { path } { path := path' } :=
  ⟨fun hplaced => ⟨h hplaced, rfl⟩, rfl, .nil, L.pending_nil, rfl⟩

/-- Frames that are alike are both without items, or neither is. -/
theorem isEmpty_items (h : L.Frames a b) : a.items.isEmpty = b.items.isEmpty := by
  rw [Bool.eq_iff_iff, List.isEmpty_iff_length_eq_zero, List.isEmpty_iff_length_eq_zero,
    h.items.length_eq]

/-- Items that are alike can be added to the items of frames that are alike. -/
theorem addItem (h : L.Frames a b) {item item' : Item} (hitem : L.item item item') :
    List.Forall₂ L.item (a.items ++ [item]) (b.items ++ [item']) :=
  List.rel_append h.items (.cons hitem .nil)

/-- Groups that are alike can be added to frames that are alike. -/
theorem addGroup (h : L.Frames a b) {g g' : Group} (hg : L.Groups g g') :
    L.Frames (a.addGroup g) (b.addGroup g') :=
  ⟨h.place, h.combinator, h.addItem hg, h.terms, rfl⟩

/-- Compiling what is pending keeps frames alike. -/
theorem flush (h : L.Frames a b) :
    Corresponds L.strict L.Frames (a.flush config scalar) (b.flush config scalar') := by
  by_cases hterms : a.terms = []
  · rw [Frame.flush_of_terms_eq_nil hterms,
      Frame.flush_of_terms_eq_nil ((L.eq_nil_iff h.terms).1 hterms)]
    exact .ok h
  · have hterms' : b.terms ≠ [] := fun hnil => hterms ((L.eq_nil_iff h.terms).2 hnil)
    rw [Frame.flush_of_terms_ne_nil hterms, Frame.flush_of_terms_ne_nil hterms']
    refine (L.clause h.terms hterms).bind fun c c' hc => .ok ?_
    exact ⟨h.place, h.combinator, h.addItem hc, L.pending_nil, h.dangling⟩

/-- Frames that are alike finish alike. -/
theorem finish (h : L.Frames a b) : Corresponds L.strict L.Groups a.finish b.finish := by
  obtain ⟨path, combinator, items, terms, nextChild, dangling⟩ := a
  obtain ⟨path', combinator', items', terms', nextChild', dangling'⟩ := b
  obtain rfl : combinator = combinator' := h.combinator
  have hpath : L.placed → path = path' := fun hplaced => (h.place hplaced).1
  have hitems : List.Forall₂ L.item items items' := h.items
  match combinator, items, items', hitems with
  | some _, _, _, .nil => exact .error rfl
  | some _, _, _, .cons hitem hrest => exact .ok (L.group hpath (.cons hitem hrest))
  | none, _, _, .nil => exact .error rfl
  | none, _, _, .cons hitem .nil => exact .ok (L.group hpath (.cons hitem .nil))
  | none, _, _, .cons _ (.cons _ _) => exact .error rfl

/-- Frames that are alike close alike. -/
theorem close (h : L.Frames a b) :
    Corresponds L.strict L.Groups (a.close config scalar) (b.close config scalar') := by
  rw [Frame.close_eq_bind, Frame.close_eq_bind, h.dangling, h.isEmpty_items]
  split
  · exact .error rfl
  · exact h.flush.bind fun _ _ h => h.finish

/-- Frames that are alike take an operator alike. -/
theorem operator (h : L.Frames a b) (combinator : Combinator) :
    Corresponds L.strict L.Frames (a.operator config scalar combinator)
      (b.operator config scalar' combinator) := by
  rw [Frame.operator, Frame.operator, h.dangling]
  split
  · exact .error rfl
  · exact flush ⟨h.place, by rw [h.combinator], h.items, h.terms, rfl⟩

end Frames

/-! ### Builders -/

section

variable {a b : Builder}

/-- **A parenthesis or an operator keeps builders alike.** -/
theorem step (h : L.Builders a b) {token : Bound} (htoken : token.isStructural = true) :
    Corresponds L.strict L.Builders (Builder.step config scalar a token)
      (Builder.step config scalar' b token) := by
  obtain ⟨stack, root⟩ := a
  obtain ⟨stack', root'⟩ := b
  obtain ⟨hstack, hroot⟩ := h
  dsimp only at hstack hroot
  cases token with
  | opening =>
    cases hroot with
    | some hg => exact .error rfl
    | none =>
      cases hstack with
      | nil => exact .ok ⟨.cons (.opened fun _ => rfl) .nil, .none⟩
      | cons hparent hrest =>
        rw [Builder.step_opening_eq_bind, Builder.step_opening_eq_bind]
        refine hparent.flush.bind fun p p' hp => .ok ⟨.cons (.opened fun hplaced => ?_) ?_, .none⟩
        · rw [(hp.place hplaced).1, (hp.place hplaced).2]
        · refine .cons ⟨fun hplaced => ?_, hp.combinator, hp.items, hp.terms, hp.dangling⟩ hrest
          exact ⟨(hp.place hplaced).1, congrArg (· + 1) (hp.place hplaced).2⟩
  | closing =>
    cases hstack with
    | nil => exact .error rfl
    | cons hframe hrest =>
      rw [Builder.step_closing_eq_bind, Builder.step_closing_eq_bind]
      refine hframe.close.bind fun g g' hg => ?_
      cases hrest with
      | nil => exact .ok ⟨.nil, .some hg⟩
      | cons hparent hrest => exact .ok ⟨.cons (hparent.addGroup hg) hrest, hroot⟩
  | operator combinator =>
    cases hstack with
    | nil => exact .error rfl
    | cons hframe hrest =>
      rw [Builder.step_operator_eq_bind, Builder.step_operator_eq_bind]
      exact (hframe.operator combinator).bind fun f f' hf => .ok ⟨.cons hf hrest, hroot⟩
  | term t => cases htoken

/-- Terms that stay alike keep builders alike. -/
theorem step_term (h : L.Builders a b) {t t' : Term}
    (ht : ∀ {terms terms'}, L.pending terms terms' → L.pending (terms ++ [t]) (terms' ++ [t'])) :
    Corresponds L.strict L.Builders (Builder.step config scalar a (.term t))
      (Builder.step config scalar' b (.term t')) := by
  obtain ⟨stack, root⟩ := a
  obtain ⟨stack', root'⟩ := b
  obtain ⟨hstack, hroot⟩ := h
  dsimp only at hstack hroot
  cases hstack with
  | nil => exact .error rfl
  | cons hframe hrest =>
    refine .ok ⟨.cons ?_ hrest, hroot⟩
    exact ⟨hframe.place, hframe.combinator, hframe.items, ht hframe.terms, rfl⟩

/-- Builders that are alike have results that are alike. -/
theorem result (h : L.Builders a b) : Corresponds L.strict L.Groups a.result b.result := by
  obtain ⟨stack, root⟩ := a
  obtain ⟨stack', root'⟩ := b
  obtain ⟨hstack, hroot⟩ := h
  dsimp only at hstack hroot
  cases hstack with
  | cons _ _ => exact .error rfl
  | nil =>
    cases hroot with
    | none => exact .error rfl
    | some hg => exact .ok hg

end

/-! ### Lists of tokens -/

/-- **Tokens that are alike**: the same parenthesis or operator, or terms that stay alike. -/
inductive Tokens (L : Likeness config scalar scalar') : Bound → Bound → Prop
  | structural {token : Bound} (h : token.isStructural = true) : Tokens L token token
  | term {t t' : Term} (h : ∀ {terms terms'}, L.pending terms terms' →
      L.pending (terms ++ [t]) (terms' ++ [t'])) : Tokens L (.term t) (.term t')

/-- **Lists of alike tokens keep builders alike.** -/
theorem run {a b : Builder} (h : L.Builders a b) {tokens tokens' : List Bound}
    (htokens : List.Forall₂ L.Tokens tokens tokens') :
    Corresponds L.strict L.Builders (Builder.run config scalar a tokens)
      (Builder.run config scalar' b tokens') := by
  induction htokens generalizing a b with
  | nil => exact .ok h
  | cons htoken _ ih =>
    rw [Builder.run_cons_eq_bind, Builder.run_cons_eq_bind]
    cases htoken with
    | structural htoken => exact (step h htoken).bind fun _ _ h => ih h
    | term ht => exact (step_term h ht).bind fun _ _ h => ih h

/-- **Lists of alike tokens build alike trees.** -/
theorem build {tokens tokens' : List Bound} (htokens : List.Forall₂ L.Tokens tokens tokens') :
    Corresponds L.strict L.Groups (Group.build config scalar tokens)
      (Group.build config scalar' tokens') := by
  rw [Builder.build_eq_bind, Builder.build_eq_bind]
  exact (run L.builders_empty htokens).bind fun _ _ h => result h

end Likeness

end RecordFilter
