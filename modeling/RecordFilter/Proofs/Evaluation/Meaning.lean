import RecordFilter.Proofs.Evaluation.Effects

/-!
# The boolean meaning of a tree

Evaluation works on shrinking lists of candidates. Its result is what the tree says of each record
alone.

* `Answers` — what predicates answer, as a function of value and arguments.
* `Item.holds`, `Group.holds` — whether a tree holds of a record: a clause if the answer differs
  from its negation, a group of `all` if every item holds, a group of `any` if some item does.
* `Traced.AnsweredBy` — every call that is made has the assumed answer; of other calls nothing is
  known.
* `Item.outcome_select` — an item keeps the candidates of which it holds.
* `Group.matching_eq_holding` — the matching indices are those of the records of which the tree
  holds, ascending.
-/

namespace RecordFilter

/-! ## Meaning -/

/-- What predicates answer. -/
abbrev Answers := PredicateName → Option Json → List Json → Dict Json → Bool

section

variable (answers : Answers) (record : Json)

/-- **Whether a clause holds**: the answer on the value of its attribute differs from its
negation. -/
def Clause.holds (c : Clause) : Bool :=
  answers c.predicate (c.subject.lookup record) c.args c.kwargs != c.negate

mutual

/-- **Whether an item holds of a record.** -/
def Item.holds : Item → Bool
  | .clause c => c.holds answers record
  | .group _ .all items => Item.allHold items
  | .group _ .any items => Item.anyHolds items

/-- Whether all items hold. -/
def Item.allHold : List Item → Bool
  | [] => true
  | item :: rest => item.holds && Item.allHold rest

/-- Whether some item holds. -/
def Item.anyHolds : List Item → Bool
  | [] => false
  | item :: rest => item.holds || Item.anyHolds rest

end

/-- Whether a tree holds of a record. -/
def Group.holds (g : Group) : Bool := g.toItem.holds answers record

/-- All items hold if each of them does. -/
theorem Item.allHold_eq_all (items : List Item) :
    Item.allHold answers record items = items.all (Item.holds answers record) := by
  induction items with
  | nil => rfl
  | cons item rest ih => rw [Item.allHold, ih, List.all_cons]

/-- Any item holds if one of them does. -/
theorem Item.anyHolds_eq_any (items : List Item) :
    Item.anyHolds answers record items = items.any (Item.holds answers record) := by
  induction items with
  | nil => rfl
  | cons item rest ih => rw [Item.anyHolds, ih, List.any_cons]

/-- A group of `all` holds if every item holds. -/
theorem Item.holds_all_iff (path : GroupPath) (items : List Item) :
    (Item.group path .all items).holds answers record = true ↔
      ∀ item ∈ items, item.holds answers record = true := by
  rw [Item.holds, Item.allHold_eq_all, List.all_eq_true]

/-- A group of `any` holds if some item holds. -/
theorem Item.holds_any_iff (path : GroupPath) (items : List Item) :
    (Item.group path .any items).holds answers record = true ↔
      ∃ item ∈ items, item.holds answers record = true := by
  rw [Item.holds, Item.anyHolds_eq_any, List.any_eq_true]

end

/-! ## Assumed answers -/

section

variable (registry : Registry) (answers : Answers)

/-- What the predicate that a call names answers to it. -/
def Call.answer (call : Call) : Except Error Bool :=
  registry.invoke call.clause.predicate call.value call.clause.args call.clause.kwargs

/-- **Every call that is made has the assumed answer.** -/
def Traced.AnsweredBy {α : Type} (x : Traced α) : Prop :=
  ∀ call ∈ x.calls, call.answer registry =
    .ok (answers call.clause.predicate call.value call.clause.args call.clause.kwargs)

end

variable {registry : Registry} {answers : Answers}

namespace Traced.AnsweredBy

variable {α β : Type} {x : Traced α} {f : α → Traced β}

/-- The calls of the first part of a sequence have the assumed answers. -/
theorem left (h : (x >>= f).AnsweredBy registry answers) : x.AnsweredBy registry answers :=
  fun call hcall => h call (mem_calls_bind_left f hcall)

/-- So have the calls of the second part, if there is one. -/
theorem right (h : (x >>= f).AnsweredBy registry answers) {a : α} (hx : x.outcome = .ok a) :
    (f a).AnsweredBy registry answers := fun call hcall =>
  h call (by rw [calls_bind_of_ok hx]; exact List.mem_append_right _ hcall)

end Traced.AnsweredBy

/-! ## Clauses -/

/-- A registered name resolves. -/
theorem Registry.exists_resolve_of_contains {name : PredicateName}
    (h : registry.contains name = true) : ∃ predicate, registry.resolve name = .ok predicate := by
  obtain ⟨predicate, hfound⟩ := Option.isSome_iff_exists.1 h
  exact ⟨predicate, by rw [Registry.resolve, hfound]⟩

/-- The call of a test is the invocation of the predicate. -/
theorem Registry.invoke_of_resolve {name : PredicateName} {predicate : Predicate}
    (h : registry.resolve name = .ok predicate) (value : Option Json) (args : List Json)
    (kwargs : Dict Json) :
    registry.invoke name value args kwargs =
      (predicate value args kwargs).mapError (.predicate name) := by
  rw [Registry.invoke, h]

/-- The outcome of a test is what the clause says of the record. -/
theorem Clause.outcome_test {clause : Clause} {predicate : Predicate} {c : Candidate}
    (hp : registry.resolve clause.predicate = .ok predicate)
    (h : (clause.test predicate c).AnsweredBy registry answers) :
    (clause.test predicate c).outcome = .ok (clause.holds answers c.record) := by
  have hcall := h ⟨clause, c.index, clause.subject.lookup c.record⟩ (List.mem_singleton.2 rfl)
  rw [Call.answer, Registry.invoke_of_resolve hp] at hcall
  cases ha : predicate (clause.subject.lookup c.record) clause.args clause.kwargs with
  | error fault => rw [ha] at hcall; cases hcall
  | ok answer =>
    rw [ha] at hcall
    have hanswer : answer = answers clause.predicate (clause.subject.lookup c.record)
        clause.args clause.kwargs := by injection hcall
    simp only [Clause.test, ha, Clause.holds, hanswer]

/-- A clause keeps the candidates of which it holds. -/
theorem Clause.outcome_filter {clause : Clause} {predicate : Predicate}
    (hp : registry.resolve clause.predicate = .ok predicate) (candidates : List Candidate)
    (h : (clause.filter predicate candidates).AnsweredBy registry answers) :
    (clause.filter predicate candidates).outcome =
      .ok (candidates.filter fun c => clause.holds answers c.record) := by
  induction candidates with
  | nil => rfl
  | cons c rest ih =>
    rw [Clause.filter] at h ⊢
    have htest := Clause.outcome_test hp h.left
    have hrest := ih (h.right htest).left
    rw [Traced.outcome_bind_of_ok htest, Traced.outcome_bind_of_ok hrest, Traced.outcome_pure,
      List.filter_cons]

/-! ## Items and groups -/

/-- An item selects by its meaning: of ascending candidates it keeps those of which it holds, if its
calls have the assumed answers. -/
def Item.SelectsHolding (registry : Registry) (answers : Answers) (item : Item) : Prop :=
  ∀ candidates, Candidate.Ascending candidates →
    (item.select registry candidates).AnsweredBy registry answers →
    (item.select registry candidates).outcome =
      .ok (candidates.filter fun c => item.holds answers c.record)

/-- Items one after the other keep the candidates of which all of them hold. -/
theorem Item.outcome_narrow {items : List Item}
    (hitems : ∀ item ∈ items, item.SelectsHolding registry answers)
    {candidates : List Candidate} (hasc : Candidate.Ascending candidates)
    (h : (Item.narrow registry items candidates).AnsweredBy registry answers) :
    (Item.narrow registry items candidates).outcome =
      .ok (candidates.filter fun c => Item.allHold answers c.record items) := by
  induction items generalizing candidates with
  | nil =>
    simp only [Item.narrow, Item.allHold, Traced.pure_eq, Traced.outcome_pure]
    rw [List.filter_eq_self.2 fun c _ => rfl]
  | cons item rest ih =>
    rw [Item.narrow] at h ⊢
    split at h
    next hempty => simp [List.isEmpty_iff.1 hempty]
    next hempty =>
      rw [if_neg hempty]
      have hitem := hitems item List.mem_cons_self candidates hasc h.left
      have hrest := ih (fun item hmem => hitems item (List.mem_cons_of_mem _ hmem))
        (hasc.filter _) (h.right hitem)
      rw [Traced.outcome_bind_of_ok hitem, hrest, List.filter_filter]
      simp only [Item.allHold, Bool.and_comm]

/-- Items one after the other leave the candidates of which none of them holds. -/
theorem Item.outcome_exhaust {items : List Item}
    (hitems : ∀ item ∈ items, item.SelectsHolding registry answers)
    {candidates : List Candidate} (hasc : Candidate.Ascending candidates)
    (h : (Item.exhaust registry items candidates).AnsweredBy registry answers) :
    (Item.exhaust registry items candidates).outcome =
      .ok (candidates.filter fun c => !Item.anyHolds answers c.record items) := by
  induction items generalizing candidates with
  | nil =>
    simp only [Item.exhaust, Item.anyHolds, Bool.not_false, Traced.pure_eq, Traced.outcome_pure]
    rw [List.filter_eq_self.2 fun c _ => rfl]
  | cons item rest ih =>
    rw [Item.exhaust] at h ⊢
    split at h
    next hempty => simp [List.isEmpty_iff.1 hempty]
    next hempty =>
      rw [if_neg hempty]
      have hitem := hitems item List.mem_cons_self candidates hasc h.left
      have hleft := h.right hitem
      rw [Traced.outcome_bind_of_ok hitem]
      rw [Candidate.without_filter hasc] at hleft ⊢
      rw [ih (fun item hmem => hitems item (List.mem_cons_of_mem _ hmem)) (hasc.filter _) hleft,
        List.filter_filter]
      simp only [Item.anyHolds, Bool.not_or, Bool.and_comm]

/-- **An item keeps the candidates of which it holds.** The induction is over the tree; `narrow` and
`exhaust` go through the items of a group. -/
theorem Item.outcome_select (item : Item)
    (hfound : ∀ clause ∈ item.clauses, registry.contains clause.predicate = true) :
    item.SelectsHolding registry answers := by
  induction item with
  | clause c =>
    intro candidates _ h
    obtain ⟨predicate, hp⟩ := Registry.exists_resolve_of_contains
      (hfound c (List.mem_singleton.2 rfl))
    simp only [Item.select, Clause.select, hp] at h ⊢
    exact Clause.outcome_filter hp candidates h
  | group path combinator items ih =>
    have hitems : ∀ item ∈ items, item.SelectsHolding registry answers := fun item hmem =>
      ih item hmem fun clause hclause =>
        hfound clause (Item.mem_clausesOf.2 ⟨item, hmem, hclause⟩)
    intro candidates hasc h
    cases combinator with
    | all =>
      rw [Item.select] at h ⊢
      simp only [Item.holds]
      exact Item.outcome_narrow hitems hasc h
    | any =>
      rw [Item.select] at h ⊢
      have hleft := Item.outcome_exhaust hitems hasc h.left
      rw [Traced.outcome_bind_of_ok hleft, Traced.outcome_pure, Candidate.without_filter hasc]
      simp only [Item.holds, Bool.not_not]

/-! ## Trees -/

namespace Group

/-- Every clause of a tree has a predicate if none is reported. -/
theorem contains_of_unresolved?_eq_none {g : Group} (h : g.unresolved? registry = none) :
    ∀ clause ∈ g.clauses, registry.contains clause.predicate = true := by
  intro clause hclause
  have hnone := List.find?_eq_none.1 (Option.map_eq_none_iff.1 h) clause hclause
  simpa using hnone

/-- **The matching indices are those of the records of which the tree holds, ascending.** Predicates
are found before evaluation unless there are no records, and need answer only the calls that
evaluation makes. -/
theorem matching_eq_holding (g : Group) (records : List Json)
    (hfound : records = [] ∨ g.unresolved? registry = none)
    (hcalls : (g.matching registry records).AnsweredBy registry answers) :
    ∃ indices, (g.matching registry records).outcome = .ok indices ∧
      indices.Pairwise (· < ·) ∧
      ∀ i, i ∈ indices ↔ ∃ record, records[i]? = some record ∧ g.holds answers record = true := by
  have hasc := Candidate.ascending_ofRecords records
  have hselect : (g.toItem.select registry (Candidate.ofRecords records)).outcome =
      .ok ((Candidate.ofRecords records).filter fun c => g.holds answers c.record) := by
    rcases hfound with rfl | hfound
    · rw [Item.select_eq_selectWith]
      exact congrArg Traced.outcome (g.selectWith_nil (Clause.select registry))
    · exact Item.outcome_select g.toItem (contains_of_unresolved?_eq_none hfound) _ hasc hcalls.left
  refine ⟨_, Traced.outcome_bind_of_ok hselect _, ?_, fun i => ?_⟩
  · exact List.pairwise_map.2 (hasc.filter _)
  · simp only [List.mem_map, List.mem_filter, Candidate.mem_ofRecords]
    constructor
    · rintro ⟨c, ⟨hrecord, hholds⟩, rfl⟩
      exact ⟨c.record, hrecord, hholds⟩
    · rintro ⟨record, hrecord, hholds⟩
      exact ⟨⟨i, record⟩, ⟨hrecord, hholds⟩, rfl⟩

/-! ### A tree with a predicate that fails -/

/-- Records with an `a`, or a `b` on which every predicate answers. -/
def sample : Group :=
  ⟨.root, .any,
    [.clause ⟨.path ["a"], ⟨"t", "t", "present"⟩, false, [], []⟩,
      .group (GroupPath.root.child 0) .all
        [.clause ⟨.path ["b"], ⟨"t", "t", "present"⟩, true, [], []⟩,
          .clause ⟨.path ["b"], ⟨"t", "t", "fails"⟩, false, [], []⟩]]⟩

/-- A predicate that tests presence, and one that never answers. -/
def sampleRegistry : Registry :=
  ⟨[(⟨"t", "t", "fails"⟩, fun _ _ _ => .error (.failed "no answer")),
    (⟨"t", "t", "present"⟩, fun value _ _ => .ok value.isSome)]⟩

/-- What the predicates of `sampleRegistry` answer, if they do. -/
def sampleAnswers : Answers := fun _ value _ _ => value.isSome

/-- The middle record has a `b` and no `a`: the failing predicate is not called on it. -/
def sampleRecords : List Json :=
  [.object [("a", .null)], .object [("b", .null)], .object [("a", .null), ("b", .null)]]

/-- The case of a sample group over sample records. -/
theorem matching_eq_holding_sample :
    sample.unresolved? sampleRegistry = none ∧
      (sample.matching sampleRegistry sampleRecords).AnsweredBy sampleRegistry sampleAnswers ∧
      ∃ indices, (sample.matching sampleRegistry sampleRecords).outcome = .ok indices ∧
        indices.Pairwise (· < ·) ∧
        ∀ i, i ∈ indices ↔
          ∃ record, sampleRecords[i]? = some record ∧ sample.holds sampleAnswers record = true := by
  have hcalls :
      (sample.matching sampleRegistry sampleRecords).AnsweredBy sampleRegistry sampleAnswers := by
    refine List.forall_mem_cons.2 ⟨rfl, ?_⟩
    refine List.forall_mem_cons.2 ⟨rfl, ?_⟩
    refine List.forall_mem_cons.2 ⟨rfl, ?_⟩
    refine List.forall_mem_cons.2 ⟨rfl, ?_⟩
    exact fun _ h => absurd h List.not_mem_nil
  exact ⟨rfl, hcalls, matching_eq_holding sample sampleRecords (.inr rfl) hcalls⟩

end Group

end RecordFilter
