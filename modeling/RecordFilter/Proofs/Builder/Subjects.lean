import RecordFilter.Proofs.Builder.Clauses
import RecordFilter.Proofs.Builder.Core
import RecordFilter.Proofs.Text.Separated

/-!
# Trees for scalars and for objects

A token list for scalar records has no attributes. With an attribute in front of every run of terms
it is a token list for objects, and builds the same tree but for the attributes.

* `Item.mapClauses`, `Group.mapClauses` — a tree with its clauses changed.
* `Clause.withSubject` — a clause on another attribute.
* `Bound.insertSubject` — a word in front of every run of terms.
* `subjectLikeness` — the likeness of builders for scalars and for objects.
* `Group.agree_build_insertSubject` — **the trees for scalars and for objects differ in their
  attributes only.**
-/

namespace RecordFilter

/-! ## Trees with other clauses -/

mutual

/-- An item with its clauses changed. -/
def Item.mapClauses (f : Clause → Clause) : Item → Item
  | .clause c => .clause (f c)
  | .group path combinator items => .group path combinator (Item.mapClausesOf f items)

/-- Items with their clauses changed. -/
def Item.mapClausesOf (f : Clause → Clause) : List Item → List Item
  | [] => []
  | item :: rest => item.mapClauses f :: Item.mapClausesOf f rest

end

/-- **A tree with its clauses changed.** Its groups stay as they are. -/
def Group.mapClauses (f : Clause → Clause) (g : Group) : Group :=
  { g with items := Item.mapClausesOf f g.items }

section

variable (f : Clause → Clause)

/-- A group is determined by the item that it is. -/
theorem Group.toItem_injective {a b : Group} (h : a.toItem = b.toItem) : a = b := by
  obtain ⟨hpath, hcombinator, hitems⟩ := Item.group.inj h
  obtain ⟨path, combinator, items⟩ := a
  exact congr (congr (congrArg Group.mk hpath) hcombinator) hitems

/-- The clauses of a mapped item are the mapped clauses of the item. -/
theorem Item.clauses_mapClauses (item : Item) :
    (item.mapClauses f).clauses = item.clauses.map f := by
  induction item with
  | clause c => rfl
  | group path combinator items ih =>
    rw [mapClauses, clauses, clauses]
    induction items with
    | nil => rfl
    | cons item rest ihrest =>
      rw [mapClausesOf, clausesOf, clausesOf, ih item List.mem_cons_self,
        ihrest fun item hmem => ih item (List.mem_cons_of_mem _ hmem), List.map_append]

/-- The clauses of a mapped group are the mapped clauses of the group. -/
theorem Group.clauses_mapClauses (g : Group) : (g.mapClauses f).clauses = g.clauses.map f :=
  Item.clauses_mapClauses f g.toItem

end

/-- A clause on another attribute. -/
def Clause.withSubject (subject : Attribute) (c : Clause) : Clause := { c with subject }

/-! ## Token lists with attributes -/

/-- The tokens with a word in front of every run of terms; `inRun` says whether a run goes on. -/
def Bound.insertFrom (word : String) : Bool → List Bound → List Bound
  | _, [] => []
  | false, .term t :: rest => .term (.word word) :: .term t :: insertFrom word true rest
  | true, .term t :: rest => .term t :: insertFrom word true rest
  | _, token :: rest => token :: insertFrom word false rest

/-- **The tokens with a word in front of every run of terms.** -/
def Bound.insertSubject (word : String) (tokens : List Bound) : List Bound :=
  insertFrom word false tokens

/-- A structural token is left in place, and a run begins anew behind it. -/
theorem Bound.insertFrom_of_isStructural {token : Bound} (h : token.isStructural = true)
    (word : String) (inRun : Bool) (rest : List Bound) :
    insertFrom word inRun (token :: rest) = token :: insertFrom word false rest := by
  cases token with
  | opening | closing | operator _ => cases inRun <;> rfl
  | term t => cases h

/-! ## Clauses -/

namespace Clause

variable {config : Config} {strict : Prop} {subject subject' : Attribute}

/-- Two clauses that differ in their attributes only. -/
def Reads (subject subject' : Attribute) (c c' : Clause) : Prop :=
  c.subject = subject ∧ c' = c.withSubject subject'

/-- What finishes a test reads the same terms whatever the subject is. -/
theorem corresponds_finish (negate : Bool) (name : Term) (rest : List Term) :
    Corresponds strict (Reads subject subject') (ofTest.finish config subject negate name rest)
      (ofTest.finish config subject' negate name rest) := by
  unfold ofTest.finish
  cases name.text? with
  | none => exact .error rfl
  | some text =>
    dsimp only
    cases PredicateName.resolve config text with
    | error e => exact .error rfl
    | ok predicate => exact .ok ⟨rfl, rfl⟩

/-- **A test compiles alike for every attribute.** -/
theorem corresponds_ofTest (message message' : String) (terms : List Term) :
    Corresponds strict (Reads subject subject') (ofTest config message subject terms)
      (ofTest config message' subject' terms) := by
  unfold ofTest
  split
  · exact .error rfl
  · exact .error rfl
  · exact corresponds_finish true _ _
  · exact corresponds_finish false _ _

/-- **A run without and with an attribute in front.** -/
theorem corresponds_ofTerms {word : String} (hword : word ≠ "") (terms : List Term) :
    Corresponds strict (Reads .whole (.ofPath word)) (ofTerms config true terms)
      (ofTerms config false (.word word :: terms)) := by
  have hempty : word.isEmpty = false := by
    rw [Bool.eq_false_iff, ne_eq, String.isEmpty_iff]
    exact hword
  unfold ofTerms
  simp only [if_true, Bool.false_eq_true, if_false, Term.text?, hempty]
  exact corresponds_ofTest _ _ terms

end Clause

/-! ## Builders -/

section

variable (config : Config) {word : String} (hword : word ≠ "")

/-- An item for scalars and the item for objects. -/
def Item.ReadsAt (subject : Attribute) (item item' : Item) : Prop :=
  (∀ c ∈ item.clauses, c.subject = .whole) ∧ item' = item.mapClauses (Clause.withSubject subject)

/-- Groups are read alike if their items are. -/
theorem Item.readsAt_group {subject : Attribute} {items items' : List Item}
    (h : List.Forall₂ (ReadsAt subject) items items') (path : GroupPath) (combinator : Combinator) :
    ReadsAt subject (.group path combinator items) (.group path combinator items') := by
  have hitems : (∀ c ∈ clausesOf items, c.subject = .whole) ∧
      items' = mapClausesOf (Clause.withSubject subject) items := by
    induction h with
    | nil => exact ⟨fun c hmem => absurd hmem List.not_mem_nil, rfl⟩
    | cons hfirst _ ih =>
      rw [clausesOf, mapClausesOf, ← hfirst.2, ← ih.2]
      exact ⟨List.forall_mem_append.2 ⟨hfirst.1, ih.1⟩, rfl⟩
  exact ⟨hitems.1, by rw [mapClauses, hitems.2]⟩

/-- **Builders for scalars and for objects**: a run that is pending has the attribute in front. -/
def subjectLikeness : Likeness config true false where
  strict := True
  placed := True
  item := Item.ReadsAt (.ofPath word)
  pending terms terms' := terms = [] ∧ terms' = [] ∨ terms ≠ [] ∧ terms' = .word word :: terms
  pending_nil := .inl ⟨rfl, rfl⟩
  eq_nil_iff := by
    rintro terms terms' (⟨rfl, rfl⟩ | ⟨hne, rfl⟩)
    · exact Iff.rfl
    · exact iff_of_false hne (List.cons_ne_nil _ _)
  clause := by
    rintro terms terms' (⟨rfl, -⟩ | ⟨-, rfl⟩) hne
    · exact absurd rfl hne
    · refine (Clause.corresponds_ofTerms hword terms).imp fun c c' h => ?_
      exact ⟨List.forall_mem_singleton.2 h.1, by rw [Item.mapClauses, h.2]⟩
  group := by
    intro path path' combinator items items' hpath hitems
    obtain rfl := hpath trivial
    exact Item.readsAt_group hitems path combinator

variable {config} {hword}

section

variable {frame frame' : Frame} (h : (subjectLikeness config hword).Frames frame frame') (t : Term)
include h

/-- The first term of a run has the attribute in front of it. -/
theorem subjectLikeness_first (hterms : frame.terms = []) :
    (subjectLikeness config hword).Frames (frame.term t) ((frame'.term (.word word)).term t) := by
  have hterms' : frame'.terms = [] := ((subjectLikeness config hword).eq_nil_iff h.terms).1 hterms
  refine ⟨h.place, h.combinator, h.items, .inr ⟨?_, ?_⟩, rfl⟩
  · exact List.append_ne_nil_of_right_ne_nil _ (List.cons_ne_nil _ _)
  · simp only [Frame.term, hterms, hterms', List.nil_append, List.cons_append]

/-- The terms after it go on alike. -/
theorem subjectLikeness_next (hne : frame.terms ≠ []) :
    (subjectLikeness config hword).Frames (frame.term t) (frame'.term t) := by
  have hterms' : frame'.terms = .word word :: frame.terms :=
    (h.terms.resolve_left fun hnil => hne hnil.1).2
  refine ⟨h.place, h.combinator, h.items, .inr ⟨?_, ?_⟩, rfl⟩
  · exact List.append_ne_nil_of_right_ne_nil _ (List.cons_ne_nil _ _)
  · simp only [Frame.term, hterms', List.cons_append]

end

/-- **Token lists without and with attributes keep builders alike.** -/
theorem corresponds_run_insertFrom {a b : Builder} {tokens : List Bound}
    (h : (subjectLikeness config hword).Builders a b) (hflushed : a.Flushed) {inRun : Bool}
    (hrun : inRun = !a.pending.isEmpty) :
    Corresponds True (subjectLikeness config hword).Builders (Builder.run config true a tokens)
      (Builder.run config false b (Bound.insertFrom word inRun tokens)) := by
  induction tokens generalizing a b inRun with
  | nil => cases inRun <;> exact .ok h
  | cons token rest ih =>
    cases htoken : token.isStructural with
    | true =>
      rw [Bound.insertFrom_of_isStructural htoken, Builder.run_cons_eq_bind,
        Builder.run_cons_eq_bind]
      have hsettled : ∀ mid, Builder.step config true a token = .ok mid → mid.Settled :=
        fun mid hmid => Builder.settled_of_moves htoken hflushed (Builder.step_eq_ok_iff.1 hmid)
      refine ((Likeness.step h htoken).and_left hsettled).bind fun a b hab => ?_
      refine ih hab.2 hab.1.flushed ?_
      rw [Builder.pending_eq_nil_of_settled hab.1]
      rfl
    | false =>
      obtain ⟨t, rfl⟩ := Bound.exists_term_of_not_isStructural htoken
      obtain ⟨stack, root⟩ := a
      obtain ⟨stack', root'⟩ := b
      obtain ⟨hstack, hroot⟩ := h
      dsimp only at hstack hroot
      cases hstack with
      | nil =>
        -- outside of all groups a term is refused, and so is the attribute in front of it
        obtain rfl : inRun = false := hrun
        exact .error rfl
      | @cons frame frame' frames frames' hframe hrest =>
        have hin : true = !(Builder.pending ⟨frame.term t :: frames, root⟩).isEmpty := by
          simp [Builder.pending, Frame.term]
        cases inRun with
        | false =>
          have hterms : frame.terms = [] := by simpa [Builder.pending] using hrun
          have hnext := subjectLikeness_first hframe t hterms
          exact ih (a := ⟨frame.term t :: frames, root⟩) (b := ⟨_ :: frames', root'⟩)
            ⟨.cons hnext hrest, hroot⟩ hflushed hin
        | true =>
          have hne : frame.terms ≠ [] := by simpa [Builder.pending] using hrun
          have hnext := subjectLikeness_next hframe t hne
          exact ih (a := ⟨frame.term t :: frames, root⟩) (b := ⟨_ :: frames', root'⟩)
            ⟨.cons hnext hrest, hroot⟩ hflushed hin

end

/-! ## Trees -/

/-- A word without a dot is a path of one name. -/
theorem Attribute.ofPath_of_not_mem {word : String} (h : '.' ∉ word.toList) :
    ofPath word = .path [word] := by
  rw [ofPath, Text.split, Text.splitAll_of_not_mem h, List.map_singleton, String.ofList_toList]

/-- **The trees for scalars and for objects.** A token list builds a tree for scalars exactly if it
builds one for objects with an attribute in front of every run of terms; the two differ in the
attributes only. -/
theorem Group.agree_build_insertSubject {word : String} (hword : word ≠ "")
    (hdot : '.' ∉ word.toList) (config : Config) (tokens : List Bound) :
    Agree (fun a b => (∀ c ∈ a.clauses, c.subject = .whole) ∧
        b = a.mapClauses (Clause.withSubject (.path [word])))
      (build config true tokens) (build config false (Bound.insertSubject word tokens)) := by
  have hempty : Builder.Flushed {} := fun _ hmem => absurd hmem List.not_mem_nil
  have hbuild : Corresponds True (subjectLikeness config hword).Groups (build config true tokens)
      (build config false (Bound.insertSubject word tokens)) := by
    rw [Builder.build_eq_bind, Builder.build_eq_bind]
    exact (corresponds_run_insertFrom (subjectLikeness config hword).builders_empty hempty
      rfl).bind fun _ _ h => Likeness.result h
  refine (Agree.of_corresponds hbuild).imp fun {a b} h => ⟨h.1, Group.toItem_injective ?_⟩
  rw [← Attribute.ofPath_of_not_mem hdot]
  exact h.2

end RecordFilter
