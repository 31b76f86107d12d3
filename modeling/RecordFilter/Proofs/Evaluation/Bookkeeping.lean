import RecordFilter.Proofs.Evaluation.Effects

/-!
# The bookkeeping of alternatives

An alternative is evaluated with two lists: what its items have matched, as it was found, and what
none of them has matched. The hits of an item move from one list to the other, and in the end what
was found is sorted. On ascending candidates this is the same as to leave out, of all candidates,
those that no item matches.

* `Candidate.sorted` — candidates in the order of their positions.
* `Tally`, `Tally.add` — the two lists, and the step that one item takes; `Tally.Of` — they make up
  the candidates.
* `Item.selectTallied` — evaluation with this bookkeeping, given how clauses select.
* `Item.selectTallied_eq_selectWith`, `Item.select_eq_selectTallied` — **on ascending candidates it
  is evaluation**, with any effects of the tests.
-/

namespace RecordFilter

/-! ## Sorting -/

namespace Candidate

/-- Whether a candidate comes no later than another one. -/
def upTo (a b : Candidate) : Bool := a.index ≤ b.index

/-- The candidates in ascending order of their positions. -/
def sorted (candidates : List Candidate) : List Candidate := candidates.mergeSort upTo

/-- What is sorted by positions is in their order. -/
theorem pairwise_sorted (candidates : List Candidate) :
    (sorted candidates).Pairwise fun a b => a.upTo b = true := by
  refine List.pairwise_mergeSort ?_ ?_ candidates
  · intro a b c hab hbc
    simp only [upTo, decide_eq_true_eq] at *
    omega
  · intro a b
    simpa [upTo] using Nat.le_total a.index b.index

/-- Ascending candidates are what sorting makes of them in any order. -/
theorem Ascending.sorted_eq_of_perm {candidates found : List Candidate}
    (h : Ascending candidates) (hperm : found.Perm candidates) : sorted found = candidates := by
  have hcandidates : candidates.Pairwise fun a b => a.upTo b = true :=
    h.imp fun hlt => decide_eq_true (Nat.le_of_lt hlt)
  have hall : (sorted found).Perm candidates := (List.mergeSort_perm found _).trans hperm
  refine hall.eq_of_pairwise ?_ (pairwise_sorted found) hcandidates
  intro a b ha hb hab hba
  simp only [upTo, decide_eq_true_eq] at hab hba
  exact h.eq_of_index_eq (hall.subset ha) hb (Nat.le_antisymm hab hba)

/-- Nothing is left out where nothing was hit. -/
theorem without_nil (candidates : List Candidate) : without candidates [] = candidates := by
  simp [without]

/-- Hits and what is left without them make up the candidates. -/
theorem append_without_perm {candidates hits : List Candidate} (h : Ascending candidates)
    (hsub : hits.Sublist candidates) : (hits ++ without candidates hits).Perm candidates := by
  have hperm := List.filter_append_perm
    (fun c : Candidate => hits.any fun hit => hit.index == c.index) candidates
  rwa [filter_index_eq h hsub] at hperm

end Candidate

/-! ## Two lists -/

/-- What an alternative keeps while its items are evaluated: the candidates that some item has
matched, as they were found, and those that no item has matched. -/
structure Tally where
  matched : List Candidate
  undecided : List Candidate

namespace Tally

/-- The hits of one item are no longer undecided. -/
def add (tally : Tally) (hits : List Candidate) : Tally where
  matched := tally.matched ++ hits
  undecided := Candidate.without tally.undecided hits

/-- **The two lists make up the candidates**, and what is undecided has kept its order. -/
structure Of (candidates : List Candidate) (tally : Tally) : Prop where
  perm : (tally.matched ++ tally.undecided).Perm candidates
  sublist : tally.undecided.Sublist candidates

variable {candidates hits : List Candidate} {tally : Tally}

/-- In the beginning all candidates are undecided. -/
theorem of_start (candidates : List Candidate) : Of candidates ⟨[], candidates⟩ :=
  ⟨List.Perm.refl _, List.Sublist.refl _⟩

/-- The hits of an item go from one list to the other. -/
theorem Of.add (h : tally.Of candidates) (hasc : Candidate.Ascending candidates)
    (hsub : hits.Sublist tally.undecided) : (tally.add hits).Of candidates := by
  have hmoved := Candidate.append_without_perm (hasc.sublist h.sublist) hsub
  constructor
  · show (tally.matched ++ hits ++ Candidate.without tally.undecided hits).Perm candidates
    rw [List.append_assoc]
    exact (hmoved.append_left tally.matched).trans h.perm
  · exact Candidate.without_sublist.trans h.sublist

/-- **What was found, sorted,** is what remains of the candidates without the undecided ones. -/
theorem Of.sorted_matched (h : tally.Of candidates) (hasc : Candidate.Ascending candidates) :
    Candidate.sorted tally.matched = Candidate.without candidates tally.undecided := by
  have hrest := Candidate.append_without_perm hasc h.sublist
  have hcomm := List.perm_append_comm.trans (h.perm.trans hrest.symm)
  exact (hasc.sublist Candidate.without_sublist).sorted_eq_of_perm
    ((List.perm_append_left_iff tally.undecided).1 hcomm)

end Tally

/-! ## Evaluation with two lists -/

section

variable {m : Type → Type} [Monad m] (select : Clause → List Candidate → m (List Candidate))

mutual

/-- The candidates that an item matches, where an alternative keeps a tally. -/
def Item.selectTallied : Item → List Candidate → m (List Candidate)
  | .clause c, candidates => select c candidates
  | .group _ .all items, candidates => Item.narrowTallied items candidates
  | .group _ .any items, candidates => do
    let tally ← Item.tally items ⟨[], candidates⟩
    return Candidate.sorted tally.matched

/-- Each item narrows what the items before it left, as long as there is something left. -/
def Item.narrowTallied : List Item → List Candidate → m (List Candidate)
  | [], remaining => pure remaining
  | item :: rest, remaining =>
    if remaining.isEmpty then pure remaining
    else do
      let kept ← item.selectTallied remaining
      Item.narrowTallied rest kept

/-- Each item sees only what no item before it matched, as long as there is such a candidate; an
item without hits changes nothing. -/
def Item.tally : List Item → Tally → m Tally
  | [], tally => pure tally
  | item :: rest, tally =>
    if tally.undecided.isEmpty then pure tally
    else do
      let hits ← item.selectTallied tally.undecided
      if hits.isEmpty then Item.tally rest tally
      else Item.tally rest (tally.add hits)

end

end

namespace Item

variable {m : Type → Type} [Monad m] [LawfulMonad m]
  {select : Clause → List Candidate → m (List Candidate)} {candidates : List Candidate}

omit [LawfulMonad m] in
/-- What a list of items does depends on what each of them selects of ascending candidates. -/
theorem narrowTallied_eq_narrowWith {items : List Item}
    (hitems : ∀ item ∈ items, ∀ candidates, Candidate.Ascending candidates →
      item.selectTallied select candidates = item.selectWith select candidates)
    (hselect : ∀ (item : Item) candidates, Narrows candidates (item.selectWith select candidates))
    (hasc : Candidate.Ascending candidates) :
    narrowTallied select items candidates = narrowWith select items candidates := by
  induction items generalizing candidates with
  | nil => rfl
  | cons item rest ih =>
    rw [narrowTallied, narrowWith]
    split
    · rfl
    · rw [hitems item List.mem_cons_self candidates hasc]
      refine (hselect item candidates).bind_eq _ _ fun kept hsub => ?_
      exact ih (fun item hmem => hitems item (List.mem_cons_of_mem _ hmem)) (hasc.sublist hsub)

/-- **A tally and what no item matches**, from any point in between on. -/
theorem tally_eq_exhaustWith {items : List Item}
    (hitems : ∀ item ∈ items, ∀ candidates, Candidate.Ascending candidates →
      item.selectTallied select candidates = item.selectWith select candidates)
    (hselect : ∀ (item : Item) candidates, Narrows candidates (item.selectWith select candidates))
    (hasc : Candidate.Ascending candidates) {tally : Tally} (htally : tally.Of candidates) :
    (do
      let tally ← Item.tally select items tally
      return Candidate.sorted tally.matched) =
    (do
      let left ← exhaustWith select items tally.undecided
      return Candidate.without candidates left) := by
  induction items generalizing tally with
  | nil =>
    rw [Item.tally, exhaustWith, pure_bind, pure_bind, htally.sorted_matched hasc]
  | cons item rest ih =>
    rw [Item.tally, exhaustWith]
    split
    · rw [pure_bind, pure_bind, htally.sorted_matched hasc]
    · have hundecided := hasc.sublist htally.sublist
      have hrest : ∀ item ∈ rest, ∀ candidates, Candidate.Ascending candidates →
          item.selectTallied select candidates = item.selectWith select candidates :=
        fun item hmem => hitems item (List.mem_cons_of_mem _ hmem)
      rw [hitems item List.mem_cons_self _ hundecided, bind_assoc, bind_assoc]
      refine (hselect item _).bind_eq _ _ fun hits hsub => ?_
      by_cases hnone : hits = []
      · subst hnone
        rw [Candidate.without_nil]
        exact ih hrest htally
      · rw [if_neg (by simpa using hnone)]
        exact ih hrest (htally.add hasc hsub)

/-- **On ascending candidates the bookkeeping is evaluation**, with any effects of the tests. -/
theorem selectTallied_eq_selectWith
    (hselect : ∀ clause candidates, Narrows candidates (select clause candidates)) (item : Item) :
    ∀ candidates, Candidate.Ascending candidates →
      item.selectTallied select candidates = item.selectWith select candidates := by
  have hnarrows := narrows_selectWith hselect
  induction item with
  | clause c => exact fun candidates _ => rfl
  | group path combinator items ih =>
    intro candidates hasc
    cases combinator with
    | all =>
      rw [selectTallied, selectWith]
      exact narrowTallied_eq_narrowWith ih hnarrows hasc
    | any =>
      rw [selectTallied, selectWith]
      exact tally_eq_exhaustWith ih hnarrows hasc (Tally.of_start candidates)

/-- **What an item matches of ascending candidates** is found with the bookkeeping. -/
theorem select_eq_selectTallied (registry : Registry) (item : Item)
    (hasc : Candidate.Ascending candidates) :
    item.select registry candidates = item.selectTallied (Clause.select registry) candidates := by
  rw [select_eq_selectWith,
    selectTallied_eq_selectWith (Clause.narrows_select registry) item candidates hasc]

end Item

/-- **All matching records** are found with the bookkeeping. -/
theorem Group.matching_eq_tallied (registry : Registry) (g : Group) (records : List Json) :
    g.matching registry records = (do
      let hits ← g.toItem.selectTallied (Clause.select registry) (Candidate.ofRecords records)
      return hits.map (·.index)) := by
  rw [matching, Item.select_eq_selectTallied registry _ (Candidate.ascending_ofRecords records)]

end RecordFilter
