import RecordFilter.Proofs.Builder.Simulation
import RecordFilter.Proofs.Evaluation.Core

/-!
# Building and cores

Builders whose frames have the same cores go on alike: they accept the same tokens and refuse the
others with errors of one kind. A pair of parentheses around one clause is invisible in this sense
where an operator or an enclosing parenthesis stands on either side of it.

* `Agree` — two results are related, or two errors are of one kind.
* `Frame.SameCore`, `Builder.SameCore` — equal but for paths and for groups around one clause.
* `coreLikeness`, `Builder.agree_run` — a list of tokens keeps the relation.
* `Builder.agree_run_pair` — a run over such a pair, and a run without it.
* `Group.agree_build_of_dropsPair` — the trees of a list with such a pair and of the list without.
-/

namespace RecordFilter

/-! ## Agreement -/

/-- **Two outcomes agree**: two related results, or two errors of one kind. -/
inductive Agree {α : Type} (R : α → α → Prop) : Except Error α → Except Error α → Prop
  | ok {a b : α} (h : R a b) : Agree R (.ok a) (.ok b)
  | error {e e' : Error} (h : e.kind = e'.kind) : Agree R (.error e) (.error e')

namespace Agree

variable {α : Type} {R S : α → α → Prop} {x y z : Except Error α}

/-- A result agrees with itself. -/
theorem refl (hR : ∀ a, R a a) (x : Except Error α) : Agree R x x := by
  cases x with
  | ok a => exact .ok (hR a)
  | error e => exact .error rfl

/-- Agreement is transitive if the relation of the results is. -/
theorem trans (hR : ∀ {a b c}, R a b → R b c → R a c) (hxy : Agree R x y) (hyz : Agree R y z) :
    Agree R x z := by
  cases hxy with
  | ok h =>
    cases hyz with
    | ok h' => exact .ok (hR h h')
  | error h =>
    cases hyz with
    | error h' => exact .error (h.trans h')

/-- Results that agree up to a relation agree up to a weaker one. -/
theorem imp (hRS : ∀ {a b}, R a b → S a b) (h : Agree R x y) : Agree S x y := by
  cases h with
  | ok h => exact .ok (hRS h)
  | error h => exact .error h

/-- The two ways to agree, as equations. -/
theorem eq_or_eq (h : Agree R x y) :
    (∃ a b, x = .ok a ∧ y = .ok b ∧ R a b) ∨
      ∃ e e', x = .error e ∧ y = .error e' ∧ e.kind = e'.kind := by
  cases h with
  | ok h => exact .inl ⟨_, _, rfl, rfl, h⟩
  | error h => exact .inr ⟨_, _, rfl, rfl, h⟩

/-- In the strict sense outcomes that correspond agree. -/
theorem of_corresponds (h : Corresponds True R x y) : Agree R x y := by
  cases h with
  | ok h => exact .ok h
  | error h => exact .error h
  | left h => exact absurd trivial h
  | right h => exact absurd trivial h

end Agree

/-! ## Groups with one core -/

/-- The core of a group depends on the cores of its items. -/
theorem Item.core_group_eq {path path' : GroupPath} {combinator : Combinator}
    {items items' : List Item} (h : items.map Item.core = items'.map Item.core) :
    (Item.group path combinator items).core = (Item.group path' combinator items').core := by
  rw [Item.core_group, Item.core_group, h]

/-- Items have the same cores pairwise exactly if the lists of their cores are equal. -/
theorem Item.forall₂_core_iff {items items' : List Item} :
    List.Forall₂ (fun a b => a.core = b.core) items items' ↔
      items.map Item.core = items'.map Item.core := by
  rw [← List.forall₂_eq_eq_eq, List.forall₂_map_left_iff, List.forall₂_map_right_iff]

/-- Two groups have one core. -/
def Group.SameCore (a b : Group) : Prop := a.toItem.core = b.toItem.core

/-- A group has its own core. -/
theorem Group.SameCore.refl (g : Group) : SameCore g g := rfl

/-- Having the same core is transitive for groups. -/
theorem Group.SameCore.trans {a b c : Group} (hab : SameCore a b) (hbc : SameCore b c) :
    SameCore a c :=
  Eq.trans hab hbc

/-! ## Builders with one core -/

/-- Two frames are equal but for paths and for groups around one clause. -/
structure Frame.SameCore (a b : Frame) : Prop where
  combinator : a.combinator = b.combinator
  items : a.items.map Item.core = b.items.map Item.core
  terms : a.terms = b.terms
  dangling : a.dangling = b.dangling

/-- Two builders have open frames and finished trees with one core. -/
structure Builder.SameCore (a b : Builder) : Prop where
  stack : List.Forall₂ Frame.SameCore a.stack b.stack
  root : Option.Rel Group.SameCore a.root b.root

/-- A frame has its own core. -/
theorem Frame.SameCore.refl (a : Frame) : SameCore a a := ⟨rfl, rfl, rfl, rfl⟩

section

variable (config : Config) (scalar : Bool)

/-- **The likeness of builders with one core**: the same terms are pending, and paths do not
matter. -/
def coreLikeness : Likeness config scalar scalar where
  strict := True
  placed := False
  item a b := a.core = b.core
  pending := Eq
  pending_nil := rfl
  eq_nil_iff := by
    rintro terms _ rfl
    exact Iff.rfl
  clause := by
    rintro terms _ rfl -
    cases Clause.ofTerms config scalar terms with
    | ok clause => exact .ok rfl
    | error e => exact .error rfl
  group _ hitems := Item.core_group_eq (Item.forall₂_core_iff.1 hitems)

variable {config scalar}

/-- Frames have the same core exactly if they are alike in their cores. -/
theorem Frame.sameCore_iff {a b : Frame} :
    Frame.SameCore a b ↔ (coreLikeness config scalar).Frames a b := by
  constructor
  · intro h
    exact ⟨False.elim, h.combinator, Item.forall₂_core_iff.2 h.items, h.terms, h.dangling⟩
  · intro h
    exact ⟨h.combinator, Item.forall₂_core_iff.1 h.items, h.terms, h.dangling⟩

namespace Builder

variable {a b : Builder}

/-- Builders have the same core exactly if they are alike in their cores. -/
theorem sameCore_iff : SameCore a b ↔ (coreLikeness config scalar).Builders a b := by
  constructor
  · exact fun h => ⟨h.stack.imp fun _ _ => Frame.sameCore_iff.1, h.root⟩
  · exact fun h => ⟨h.stack.imp fun _ _ => Frame.sameCore_iff.2, h.root⟩

/-- **A list of tokens keeps builders alike.** -/
theorem agree_run (h : SameCore a b) (tokens : List Bound) :
    Agree SameCore (run config scalar a tokens) (run config scalar b tokens) := by
  have htokens : List.Forall₂ (coreLikeness config scalar).Tokens tokens tokens := by
    refine List.forall₂_same.2 fun token _ => ?_
    cases token with
    | opening | closing | operator _ => exact .structural rfl
    | term t => exact .term fun {_ _} hterms => congrArg (· ++ [t]) hterms
  exact (Agree.of_corresponds (Likeness.run (sameCore_iff.1 h) htokens)).imp sameCore_iff.2

/-- Builders with the same core have results with the same core, or fail alike. -/
theorem agree_result (h : SameCore a b) : Agree Group.SameCore a.result b.result :=
  .of_corresponds (Likeness.result (L := coreLikeness {} false) (sameCore_iff.1 h))

end Builder

end

/-! ## A pair around one clause -/

namespace Frame

variable {config : Config} {scalar : Bool} {frame frame' : Frame}

/-- A group around one clause, and the clause itself, in a frame that waited for an item. -/
theorem SameCore.single (hfresh : frame.Fresh) (path : GroupPath) (clause : Clause)
    (terms : List Term) :
    SameCore
      (Frame.addGroup ⟨path, .any, [.clause clause]⟩
        { frame with nextChild := frame.nextChild + 1 })
      { frame.written terms with items := frame.items ++ [.clause clause], terms := [] } where
  combinator := rfl
  items := by
    simp only [Frame.addGroup, Group.toItem, List.map_append, List.map_singleton, Item.core_single]
    rfl
  terms := hfresh.terms
  dangling := rfl

/-- Closing compiles what is pending, so compiling it before changes nothing. -/
theorem close_of_flush (hd : frame.dangling = false) (h : frame.flush config scalar = .ok frame') :
    frame.close config scalar = frame'.close config scalar := by
  simp only [close, hd, (dangling_of_flush h).trans hd, Bool.false_and, Bool.false_eq_true,
    if_false, h, flush_of_terms_eq_nil (terms_of_flush h)]

/-- So does an operator. -/
theorem operator_of_flush (hd : frame.dangling = false)
    (h : frame.flush config scalar = .ok frame') (combinator : Combinator) :
    frame.operator config scalar combinator = frame'.operator config scalar combinator := by
  rw [operator_of_not_dangling hd, operator_of_not_dangling ((dangling_of_flush h).trans hd),
    flush_marked h, flush_marked (flush_of_terms_eq_nil (terms_of_flush h))]

/-- A group of one clause. -/
theorem close_written (path : GroupPath) {terms : List Term} (hterms : terms ≠ []) {clause : Clause}
    (hc : Clause.ofTerms config scalar terms = .ok clause) :
    (written { path } terms).close config scalar = .ok ⟨path, .any, [.clause clause]⟩ := by
  have hflush : (written { path } terms).flush config scalar = _ :=
    flush_of_ofTerms_eq_ok hterms hc
  rw [close, hflush]
  rfl

end Frame

namespace Builder

variable {config : Config} {scalar : Bool} {frame frame' : Frame}

/-- Tokens that end an item. -/
def endsItem : Bound → Bool
  | .closing | .operator _ => true
  | _ => false

/-- A token that ends an item does on a frame what it does once the pending clause is built. -/
theorem step_of_flush {token : Bound} (htoken : endsItem token = true)
    (hd : frame.dangling = false) (h : frame.flush config scalar = .ok frame')
    (rest : List Frame) (root : Option Group) :
    step config scalar ⟨frame :: rest, root⟩ token =
      step config scalar ⟨frame' :: rest, root⟩ token := by
  cases token with
  | opening => cases htoken
  | term t => cases htoken
  | closing => simp only [step, Frame.close_of_flush hd h]
  | operator combinator => simp only [step, Frame.operator_of_flush hd h]

/-- A token that ends an item fails if the pending clause does. -/
theorem step_of_flush_error {token : Bound} (htoken : endsItem token = true)
    (hd : frame.dangling = false) {e : Error} (h : frame.flush config scalar = .error e)
    (rest : List Frame) (root : Option Group) :
    step config scalar ⟨frame :: rest, root⟩ token = .error e := by
  cases token with
  | opening => cases htoken
  | term t => cases htoken
  | closing => simp only [step, Frame.close, hd, Bool.false_and, Bool.false_eq_true, if_false, h]
  | operator combinator =>
    simp only [step, Frame.operator_of_not_dangling hd, Frame.flush_marked_of_error h]

/-- **A pair around one clause** where an item is awaited, before a token that ends an item: with
the pair and without it the builder goes on alike. -/
theorem agree_run_pair (hfresh : frame.Fresh) {terms : List Term} (hterms : terms ≠ [])
    {token : Bound} (htoken : endsItem token = true) (rest : List Frame) (after : List Bound) :
    Agree SameCore
      (run config scalar ⟨frame :: rest, none⟩
        (.opening :: (terms.map .term ++ .closing :: token :: after)))
      (run config scalar ⟨frame :: rest, none⟩ (terms.map .term ++ token :: after)) := by
  rw [run_cons_of_ok (Moves.openChild (Frame.flush_of_terms_eq_nil hfresh.terms)).step_eq,
    run_append_of_ok (run_terms_of_terms_eq_nil rfl hterms _ _),
    run_append_of_ok (run_terms_of_terms_eq_nil hfresh.terms hterms _ _)]
  cases hc : Clause.ofTerms config scalar terms with
  | error e =>
    have hflush (frame : Frame) : (frame.written terms).flush config scalar = .error e :=
      Frame.flush_of_ofTerms_eq_error hterms hc
    rw [run_cons_of_error (step_of_flush_error rfl rfl (hflush _) _ _),
      run_cons_of_error (step_of_flush_error htoken rfl (hflush _) _ _)]
    exact .error rfl
  | ok clause =>
    have hflush : (frame.written terms).flush config scalar = _ :=
      Frame.flush_of_ofTerms_eq_ok hterms hc
    rw [run_cons_of_ok (Moves.closeChild (Frame.close_written _ hterms hc)).step_eq]
    -- without the pair the next token compiles the clause; compiled before, it changes nothing
    rw [run_cons_congr (step_of_flush htoken rfl hflush rest none)]
    have hrest : List.Forall₂ Frame.SameCore rest rest := List.forall₂_same.2 fun f _ => .refl f
    have hframe := Frame.SameCore.single hfresh (frame.path.child frame.nextChild) clause terms
    exact agree_run ⟨.cons hframe hrest, .none⟩ _

end Builder

/-! ## Lists with and without a pair -/

/-- **A pair around terms is removed** between a token that expects an item and one that ends it. -/
inductive Bound.DropsPair : List Bound → List Bound → Prop
  | mk (before : List Bound) (left : Bound) (terms : List Term) (right : Bound)
      (after : List Bound) (hterms : terms ≠ []) (hleft : Builder.expectsItem left = true)
      (hright : Builder.endsItem right = true) :
      DropsPair
        (before ++ left :: .opening :: (terms.map .term ++ .closing :: right :: after))
        (before ++ left :: (terms.map .term ++ right :: after))

namespace Builder

variable {config : Config} {scalar : Bool}

/-- **A run over a list with the pair, and one over the list without it**, go on alike. -/
theorem agree_run_of_dropsPair {s t : List Bound} (h : Bound.DropsPair s t) {b : Builder}
    (hb : b.OneTree) : Agree SameCore (run config scalar b s) (run config scalar b t) := by
  obtain ⟨before, left, terms, right, after, hterms, hleft, hright⟩ := h
  rw [List.append_cons before left (.opening :: _), List.append_cons before left (_ ++ _)]
  cases hbefore : run config scalar b (before ++ [left]) with
  | error e =>
    rw [run_append_of_error hbefore, run_append_of_error hbefore]
    exact .error rfl
  | ok mid =>
    obtain ⟨frame, rest, rfl, hfresh⟩ := exists_fresh_of_run hleft hb hbefore
    rw [run_append_of_ok hbefore, run_append_of_ok hbefore]
    exact agree_run_pair hfresh hterms hright rest after

end Builder

/-- **The pair does not show in the tree**: the lists have trees with one core, or are refused with
errors of one kind. -/
theorem Group.agree_build_of_dropsPair (config : Config) (scalar : Bool) {s t : List Bound}
    (h : Bound.DropsPair s t) :
    Agree Group.SameCore (Group.build config scalar s) (Group.build config scalar t) := by
  have hempty : Builder.OneTree {} := fun hne => absurd rfl hne
  rw [build, build]
  obtain ⟨a, b, hs, ht, hab⟩ | ⟨e, e', hs, ht, he⟩ :=
    (Builder.agree_run_of_dropsPair h hempty).eq_or_eq
  · rw [hs, ht]
    exact Builder.agree_result hab
  · rw [hs, ht]
    exact .error he

end RecordFilter
