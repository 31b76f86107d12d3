import RecordFilter.Proofs.Evaluation.Laziness
import RecordFilter.Proofs.Evaluation.Lifting
import RecordFilter.Proofs.Predicate.Registered

/-!
# Predicates are found before they are called

Every name in a tree is looked up before a record is tested, those in parts that evaluation would
not reach included. What is found then is all that evaluation needs.

* `Registry.gather` — the predicates of clauses, each name looked up once.
* `Registry.exists_gather`, `Registry.gather_of_missing` — it ends with all of them, or with the
  first name that has none.
* `Group.evaluateGathered`, `Group.evaluate_eq_evaluateGathered` — **evaluation with the gathered
  predicates is evaluation**, the registry being left aside.
* `Group.exists_fault_of_evaluate` — once all are found only predicates fail.
-/

namespace RecordFilter

namespace Registry

/-! ## Gathering -/

variable (registry : Registry)

/-- **The predicates of clauses**, added to those that are found already. A name is looked up the
first time that a clause has it; a name without a predicate is an error. -/
def gather (found : Registry) : List Clause → Except Error Registry
  | [] => .ok found
  | clause :: rest =>
    if found.contains clause.predicate then gather found rest
    else
      match registry.resolve clause.predicate with
      | .ok predicate => gather (found.insert clause.predicate predicate) rest
      | .error e => .error e

/-- **What is found is what the registry has.** -/
def Within (found : Registry) : Prop :=
  ∀ name predicate, found.find? name = some predicate → registry.find? name = some predicate

variable {registry} {found : Registry}

/-- Nothing is found in the empty registry. -/
theorem within_empty : registry.Within .empty := by
  intro name predicate h
  cases h

/-- A predicate of the registry may be added to those that are found. -/
theorem Within.insert (h : registry.Within found) {name : PredicateName} {predicate : Predicate}
    (hp : registry.find? name = some predicate) :
    registry.Within (found.insert name predicate) := by
  intro other predicate' hfound
  rw [find?_insert] at hfound
  split at hfound
  next hname =>
    obtain rfl := Option.some.inj hfound
    rwa [← hname]
  next => exact h other predicate' hfound

/-- A name that is found is registered. -/
theorem Within.contains (h : registry.Within found) {name : PredicateName}
    (hname : found.contains name = true) : registry.contains name = true := by
  obtain ⟨predicate, hfound⟩ := Option.isSome_iff_exists.1 hname
  exact Option.isSome_iff_exists.2 ⟨predicate, h name predicate hfound⟩

/-- A name that is found has the predicate of the registry. -/
theorem Within.resolve_eq (h : registry.Within found) {name : PredicateName}
    (hname : found.contains name = true) : found.resolve name = registry.resolve name := by
  obtain ⟨predicate, hfound⟩ := Option.isSome_iff_exists.1 hname
  rw [resolve, resolve, hfound, h name predicate hfound]

/-- A name that is found stays found when another is added. -/
theorem contains_insert_of_contains (name : PredicateName) (predicate : Predicate)
    {other : PredicateName} (h : found.contains other = true) :
    (found.insert name predicate).contains other = true := by
  unfold contains at h ⊢
  rw [find?_insert]
  split
  · rfl
  · exact h

/-- A name is found once its predicate is added. -/
theorem contains_insert_self (found : Registry) (name : PredicateName) (predicate : Predicate) :
    (found.insert name predicate).contains name = true := by
  unfold contains
  rw [find?_insert, if_pos rfl]
  rfl

/-- A name that resolves is registered with its predicate. -/
theorem find?_of_resolve {name : PredicateName} {predicate : Predicate}
    (h : registry.resolve name = .ok predicate) : registry.find? name = some predicate := by
  unfold resolve at h
  split at h
  next p hp => rw [hp, Except.ok.inj h]
  next => cases h

/-- A name that is not registered is an unknown predicate. -/
theorem resolve_of_not_contains {name : PredicateName} (h : registry.contains name = false) :
    registry.resolve name = .error (.unknownPredicate name) := by
  unfold resolve
  rw [Option.isNone_iff_eq_none.1 (Option.isSome_eq_false_iff.1 h)]

/-- **Gathering finds all predicates** if the registry has them. -/
theorem exists_gather (h : registry.Within found) {clauses : List Clause}
    (hall : ∀ clause ∈ clauses, registry.contains clause.predicate = true) :
    ∃ all, registry.gather found clauses = .ok all ∧ registry.Within all ∧
      (∀ name, found.contains name = true → all.contains name = true) ∧
      ∀ clause ∈ clauses, all.contains clause.predicate = true := by
  induction clauses generalizing found with
  | nil => exact ⟨found, rfl, h, fun _ hname => hname, fun _ hmem => absurd hmem List.not_mem_nil⟩
  | cons clause rest ih =>
    obtain ⟨hclause, hrest⟩ := List.forall_mem_cons.1 hall
    by_cases hfound : found.contains clause.predicate = true
    · obtain ⟨all, hgather, hwithin, hkept, hclauses⟩ := ih h hrest
      refine ⟨all, ?_, hwithin, hkept, List.forall_mem_cons.2 ⟨hkept _ hfound, hclauses⟩⟩
      rw [gather, if_pos hfound, hgather]
    · obtain ⟨predicate, hp⟩ := exists_resolve_of_contains hclause
      obtain ⟨all, hgather, hwithin, hkept, hclauses⟩ := ih (h.insert (find?_of_resolve hp)) hrest
      refine ⟨all, ?_, hwithin, ?_, List.forall_mem_cons.2 ⟨?_, hclauses⟩⟩
      · rw [gather, if_neg hfound, hp]
        exact hgather
      · intro name hname
        exact hkept name (contains_insert_of_contains _ _ hname)
      · exact hkept _ (contains_insert_self _ _ _)

/-- **Gathering ends at the first clause whose name has no predicate.** -/
theorem gather_of_missing (h : registry.Within found) {before after : List Clause} {clause : Clause}
    (hbefore : ∀ c ∈ before, registry.contains c.predicate = true)
    (hmissing : registry.contains clause.predicate = false) :
    registry.gather found (before ++ clause :: after) =
      .error (.unknownPredicate clause.predicate) := by
  induction before generalizing found with
  | nil =>
    have hnot : ¬ found.contains clause.predicate = true := by
      intro hfound
      rw [h.contains hfound] at hmissing
      cases hmissing
    rw [List.nil_append, gather, if_neg hnot, resolve_of_not_contains hmissing]
  | cons c rest ih =>
    obtain ⟨hc, hrest⟩ := List.forall_mem_cons.1 hbefore
    rw [List.cons_append, gather]
    split
    · exact ih h hrest
    · obtain ⟨predicate, hp⟩ := exists_resolve_of_contains hc
      rw [hp]
      exact ih (h.insert (find?_of_resolve hp)) hrest

end Registry

/-! ## Evaluation with what is gathered -/

section

variable {m : Type → Type} [Monad m] {select select' : Clause → List Candidate → m (List Candidate)}

/-- **An item selects by its clauses**: if they select alike so does the item. -/
theorem Item.selectWith_congr (item : Item)
    (h : ∀ clause ∈ item.clauses, select clause = select' clause) :
    item.selectWith select = item.selectWith select' := by
  induction item with
  | clause c =>
    funext candidates
    exact congrFun (h c (List.mem_singleton_self c)) candidates
  | group path combinator items ih =>
    have hitems : ∀ item ∈ items, item.selectWith select = item.selectWith select' := by
      intro item hmem
      apply ih item hmem
      intro clause hclause
      exact h clause (mem_clausesOf.2 ⟨item, hmem, hclause⟩)
-- both passes over the items, since the combinator is not known yet
    have hpasses : narrowWith select items = narrowWith select' items ∧
        exhaustWith select items = exhaustWith select' items := by
      clear ih h
      induction items with
      | nil => exact ⟨rfl, rfl⟩
      | cons item rest ih =>
        obtain ⟨hitem, hrest⟩ := List.forall_mem_cons.1 hitems
        obtain ⟨hnarrow, hexhaust⟩ := ih hrest
        constructor
        · funext candidates
          rw [narrowWith, narrowWith, hitem, hnarrow]
        · funext candidates
          rw [exhaustWith, exhaustWith, hitem, hexhaust]
    funext candidates
    cases combinator with
    | all => rw [selectWith, selectWith, hpasses.1]
    | any => rw [selectWith, selectWith, hpasses.2]

namespace Group

/-- A search makes no difference between selections that agree on the clauses. -/
theorem searchWith_congr (g : Group) (h : ∀ clause ∈ g.clauses, select clause = select' clause)
    (onlyFirst : Bool) (records : List Json) :
    g.searchWith select onlyFirst records = g.searchWith select' onlyFirst records := by
  have hselect : g.toItem.selectWith select = g.toItem.selectWith select' :=
    g.toItem.selectWith_congr h
  have hfirst (candidates : List Candidate) :
      g.firstOfWith select candidates = g.firstOfWith select' candidates := by
    induction candidates with
    | nil => rfl
    | cons c rest ih => rw [firstOfWith, firstOfWith, hselect, ih]
  rw [searchWith, searchWith, firstWith, firstWith, hfirst, matchingWith, matchingWith, hselect]

/-- Without records nothing is selected, whatever clauses would. -/
theorem searchWith_nil [LawfulMonad m] (g : Group) (onlyFirst : Bool) :
    g.searchWith select onlyFirst [] = pure [] := by
  have hcandidates : Candidate.ofRecords [] = [] := rfl
  cases onlyFirst with
  | true => simp [searchWith, firstWith, hcandidates, firstOfWith]
  | false => simp [searchWith, matchingWith, hcandidates, selectWith_nil]

end Group

end

namespace Group

variable (registry : Registry)

/-- **Evaluation that leaves the registry aside** once the predicates are gathered. A clause whose
predicate is not among these fails where it is reached. -/
def evaluateGathered (g : Group) (onlyFirst : Bool) (records : List Json) : Traced (List Nat) :=
  match if records.isEmpty then .ok .empty else registry.gather .empty g.clauses with
  | .error e => Traced.fail e
  | .ok found => g.searchWith (Clause.select found) onlyFirst records

variable {registry} {g : Group}

/-- If every clause has its predicate, none is unresolved. -/
theorem unresolved?_eq_none
    (h : ∀ clause ∈ g.clauses, registry.contains clause.predicate = true) :
    g.unresolved? registry = none := by
  unfold unresolved?
  rw [List.find?_eq_none.2 fun clause hclause => by simp [h clause hclause]]
  rfl

/-- **The first clause in the order of the text whose predicate is missing** is reported. -/
theorem unresolved?_of_missing {before after : List Clause} {clause : Clause}
    (hclauses : g.clauses = before ++ clause :: after)
    (hbefore : ∀ c ∈ before, registry.contains c.predicate = true)
    (hmissing : registry.contains clause.predicate = false) :
    g.unresolved? registry = some (.unknownPredicate clause.predicate) := by
  have hfind : g.clauses.find? (fun c => !registry.contains c.predicate) = some clause := by
    rw [List.find?_eq_some_iff_append]
    refine ⟨by simp [hmissing], before, after, hclauses, ?_⟩
    intro c hc
    simp [hbefore c hc]
  unfold unresolved?
  rw [hfind]
  rfl

/-- Either all predicates are there, or a first one is missing. -/
theorem contains_or_exists_missing (registry : Registry) (g : Group) :
    (∀ clause ∈ g.clauses, registry.contains clause.predicate = true) ∨
      ∃ before clause after, g.clauses = before ++ clause :: after ∧
        (∀ c ∈ before, registry.contains c.predicate = true) ∧
        registry.contains clause.predicate = false := by
  cases hfind : g.clauses.find? fun c => !registry.contains c.predicate with
  | none =>
    left
    intro clause hclause
    simpa using List.find?_eq_none.1 hfind clause hclause
  | some clause =>
    right
    obtain ⟨hclause, before, after, hsplit, hbefore⟩ := List.find?_eq_some_iff_append.1 hfind
    refine ⟨before, clause, after, hsplit, ?_, by simpa using hclause⟩
    intro c hc
    simpa using hbefore c hc

/-- **Evaluation needs the registry only to gather predicates**, before any record is tested. -/
theorem evaluate_eq_evaluateGathered (g : Group) (onlyFirst : Bool) (records : List Json) :
    g.evaluate registry onlyFirst records = g.evaluateGathered registry onlyFirst records := by
  rw [evaluate_eq_searchWith, evaluateGathered]
  by_cases hrecords : records = []
  · subst hrecords
    exact (g.searchWith_nil onlyFirst).trans (g.searchWith_nil onlyFirst).symm
  · have hempty : ¬ records.isEmpty = true := by simpa using hrecords
    rw [if_neg hempty, if_neg hempty]
    rcases contains_or_exists_missing registry g with hall | ⟨before, clause, after, hsplit, hb, hm⟩
    · obtain ⟨all, hgather, hwithin, -, hclauses⟩ :=
        Registry.exists_gather Registry.within_empty hall
      rw [unresolved?_eq_none hall, hgather]
      apply searchWith_congr
      intro clause hclause
      funext candidates
      rw [Clause.select, Clause.select, hwithin.resolve_eq (hclauses clause hclause)]
    · rw [unresolved?_of_missing hsplit hb hm, hsplit,
        Registry.gather_of_missing Registry.within_empty hb hm]

/-- A missing predicate ends evaluation before a test. -/
theorem evaluate_of_missing {before after : List Clause} {clause : Clause}
    (hclauses : g.clauses = before ++ clause :: after)
    (hbefore : ∀ c ∈ before, registry.contains c.predicate = true)
    (hmissing : registry.contains clause.predicate = false) {onlyFirst : Bool}
    {records : List Json} (hsome : records ≠ []) :
    g.evaluate registry onlyFirst records =
      Traced.fail (.unknownPredicate clause.predicate) := by
  have hempty : ¬ records.isEmpty = true := by simpa using hsome
  rw [evaluate, if_neg hempty, unresolved?_of_missing hclauses hbefore hmissing]

end Group

/-! ## What can fail -/

/-- The error of a computation that calls predicates is that of a call. -/
theorem Traced.Performs.exists_call {registry : Registry} {α : Type} {calls : List Call}
    {x : Traced α} {e : Error} (h : x.Performs registry calls) (herror : x.outcome = .error e) :
    ∃ call ∈ calls, ∃ fault, e = .predicate call.clause.predicate fault := by
  cases h with
  | done a hanswered => cases herror
  | @stops before call fault after hanswered hfails =>
    exact ⟨call, by simp, fault, (Except.error.inj herror).symm⟩

namespace Group

variable {registry : Registry} {g : Group}
  (hfound : ∀ clause ∈ g.clauses, registry.contains clause.predicate = true) {e : Error}
include hfound

/-- A selection from ascending candidates fails only with a fault of a clause's predicate. -/
theorem exists_fault_of_select {candidates : List Candidate}
    (hasc : Candidate.Ascending candidates)
    (h : (g.toItem.select registry candidates).outcome = .error e) :
    ∃ clause ∈ g.clauses, ∃ fault, e = .predicate clause.predicate fault := by
  obtain ⟨call, hcall, fault, rfl⟩ :=
    (g.toItem.performs_select hfound 0 candidates hasc).exists_call h
  obtain ⟨⟨position, call⟩, hentry, rfl⟩ := List.mem_map.1 hcall
  obtain ⟨hclause, -⟩ := g.toItem.mem_scheduled.1 hentry
  exact ⟨call.clause, List.mem_of_getElem? hclause, fault, rfl⟩

/-- The search for the first match fails only with a fault of a clause's predicate. -/
theorem exists_fault_of_firstOf {candidates : List Candidate}
    (h : (g.firstOf registry candidates).outcome = .error e) :
    ∃ clause ∈ g.clauses, ∃ fault, e = .predicate clause.predicate fault := by
  induction candidates with
  | nil => cases h
  | cons c rest ih =>
    rw [firstOf, Traced.outcome_bind_eq_error_iff] at h
    rcases h with hselect | ⟨hits, -, hnext⟩
    · exact exists_fault_of_select hfound (List.pairwise_singleton _ c) hselect
    · split at hnext
      · exact ih hnext
      · cases hnext

/-- **Once all predicates are found only they can fail**, and the error names the one that did. -/
theorem exists_fault_of_evaluate {onlyFirst : Bool} {records : List Json}
    (h : (g.evaluate registry onlyFirst records).outcome = .error e) :
    ∃ clause ∈ g.clauses, ∃ fault, e = .predicate clause.predicate fault := by
  rw [evaluate, unresolved?_eq_none hfound, ite_self] at h
  cases onlyFirst with
  | true =>
    rcases Traced.outcome_bind_eq_error_iff.1 h with hfirst | ⟨hit, -, hpure⟩
    · exact exists_fault_of_firstOf hfound hfirst
    · cases hpure
  | false =>
    rcases Traced.outcome_bind_eq_error_iff.1 h with hselect | ⟨hits, -, hpure⟩
    · exact exists_fault_of_select hfound (Candidate.ascending_ofRecords records) hselect
    · cases hpure

end Group

end RecordFilter
