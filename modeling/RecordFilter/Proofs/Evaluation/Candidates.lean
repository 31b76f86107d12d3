import RecordFilter.Query.Evaluation

/-!
# Lists of candidates

Candidates come in ascending order of their positions, so a position names a candidate, and what is
kept or left of a list stays in order.

* `Candidate.Ascending` — positions strictly ascend; sublists keep it (`Ascending.sublist`).
* `Candidate.without_filter` — leaving out what passes a test leaves what fails it.
* `Candidate.without_without` — leaving out twice gives back what was left out.
* `Candidate.mem_ofRecords`, `Candidate.ascending_ofRecords` — the candidates of a record list.
-/

namespace RecordFilter.Candidate

/-- Positions strictly ascend. -/
def Ascending (candidates : List Candidate) : Prop :=
  candidates.Pairwise fun a b => a.index < b.index

variable {candidates hits : List Candidate}

namespace Ascending

/-- Some of the candidates ascend as all of them do. -/
theorem sublist (h : Ascending candidates) (hsub : hits.Sublist candidates) : Ascending hits :=
  List.Pairwise.sublist hsub h

/-- The candidates that pass a test ascend as all of them do. -/
theorem filter (h : Ascending candidates) (p : Candidate → Bool) :
    Ascending (candidates.filter p) :=
  h.sublist List.filter_sublist

/-- In an ascending list a position names one candidate. -/
theorem eq_of_index_eq (h : Ascending candidates) {a b : Candidate} (ha : a ∈ candidates)
    (hb : b ∈ candidates) (hab : a.index = b.index) : a = b := by
  induction candidates with
  | nil => exact absurd ha List.not_mem_nil
  | cons c rest ih =>
    obtain ⟨hfirst, hrest⟩ := List.pairwise_cons.1 h
    rcases List.mem_cons.1 ha with rfl | ha' <;> rcases List.mem_cons.1 hb with rfl | hb'
    · rfl
    · exact absurd hab (Nat.ne_of_lt (hfirst b hb'))
    · exact absurd hab.symm (Nat.ne_of_lt (hfirst a ha'))
    · exact ih hrest ha' hb'

end Ascending

/-! ## Leaving candidates out -/

/-- The test by which hits are left out compares positions. -/
theorem any_index_eq_iff {c : Candidate} :
    (hits.any fun hit => hit.index == c.index) = true ↔ ∃ hit ∈ hits, hit.index = c.index := by
  simp only [List.any_eq_true, beq_iff_eq]

/-- **Leaving out what passes a test leaves what fails it.** -/
theorem without_filter (h : Ascending candidates) (p : Candidate → Bool) :
    without candidates (candidates.filter p) = candidates.filter fun c => !p c := by
  unfold without
  refine List.filter_congr fun c hc => ?_
  have hiff : ((candidates.filter p).any fun hit => hit.index == c.index) = p c := by
    rw [Bool.eq_iff_iff, any_index_eq_iff]
    constructor
    · rintro ⟨hit, hmem, hindex⟩
      obtain ⟨hin, hp⟩ := List.mem_filter.1 hmem
      rwa [h.eq_of_index_eq hin hc hindex] at hp
    · intro hp
      exact ⟨c, List.mem_filter.2 ⟨hc, hp⟩, rfl⟩
  rw [hiff]

/-- The members of a sublist are found again by their positions. -/
theorem filter_index_eq (h : Ascending candidates) (hsub : hits.Sublist candidates) :
    (candidates.filter fun c => hits.any fun hit => hit.index == c.index) = hits := by
  induction hsub with
  | slnil => rfl
  | @cons hits rest c hsub ih =>
    obtain ⟨hfirst, hrest⟩ := List.pairwise_cons.1 h
    have hc : (hits.any fun hit => hit.index == c.index) = false := by
      rw [Bool.eq_false_iff, Ne, any_index_eq_iff]
      rintro ⟨hit, hmem, hindex⟩
      exact Nat.ne_of_gt (hfirst hit (hsub.subset hmem)) hindex
    rw [List.filter_cons_of_neg (by simp [hc]), ih hrest]
  | @cons_cons hits rest c hsub ih =>
    obtain ⟨hfirst, hrest⟩ := List.pairwise_cons.1 h
    rw [List.filter_cons_of_pos (by simp)]
    congr 1
    refine Eq.trans (List.filter_congr fun d hd => ?_) (ih hrest)
    have hne : (c.index == d.index) = false := by simpa using Nat.ne_of_lt (hfirst d hd)
    rw [List.any_cons, hne, Bool.false_or]

/-- **Leaving out twice gives back what was left out.** -/
theorem without_without (h : Ascending candidates) (hsub : hits.Sublist candidates) :
    without candidates (without candidates hits) = hits := by
  have hleft : without candidates hits = candidates.filter
      fun c => !(hits.any fun hit => hit.index == c.index) := rfl
  rw [hleft, without_filter h]
  simp only [Bool.not_not]
  exact filter_index_eq h hsub

/-- What is left is a part of the candidates, in their order. -/
theorem without_sublist : (without candidates hits).Sublist candidates := List.filter_sublist

/-! ## The candidates of a record list -/

/-- A record is a candidate at its position. -/
theorem mem_ofRecords {records : List Json} {c : Candidate} :
    c ∈ ofRecords records ↔ records[c.index]? = some c.record := by
  simp only [ofRecords, List.mem_map, Prod.exists]
  constructor
  · rintro ⟨record, index, hmem, rfl⟩
    exact List.mem_zipIdx_iff_getElem?.1 hmem
  · intro h
    exact ⟨c.record, c.index, List.mem_zipIdx_iff_getElem?.2 h, rfl⟩

/-- The positions of the candidates count up from zero. -/
theorem map_index_ofRecords (records : List Json) :
    (ofRecords records).map (·.index) = List.range records.length := by
  simp only [ofRecords, List.map_map]
  show records.zipIdx.map Prod.snd = _
  rw [List.zipIdx_map_snd, List.range_eq_range']

/-- The records, as candidates, ascend. -/
theorem ascending_ofRecords (records : List Json) : Ascending (ofRecords records) := by
  have h : ((ofRecords records).map (·.index)).Pairwise (· < ·) := by
    rw [map_index_ofRecords]
    exact List.pairwise_lt_range
  exact List.pairwise_map.1 h

/-- **The candidates up to one of them** are the candidates of the records up to its own. -/
theorem ofRecords_take {records : List Json} {before after : List Candidate} {c : Candidate}
    (h : ofRecords records = before ++ c :: after) :
    ofRecords (records.take (c.index + 1)) = before ++ [c] := by
  have hlength (records : List Json) : (ofRecords records).length = records.length := by
    rw [ofRecords, List.length_map, List.length_zipIdx]
  have hsplit := congrArg (List.map (·.index)) h
  rw [map_index_ofRecords, List.map_append, List.map_cons] at hsplit
-- the positions count up from zero
  have hindex : c.index = before.length := by
    have hget := congrArg (fun indices => indices[before.length]?) hsplit
    have hlt : before.length < records.length := by
      rw [← hlength, h, List.length_append, List.length_cons]
      omega
    simpa [List.getElem?_range hlt] using hget.symm
  have happend : ofRecords records = ofRecords (records.take (c.index + 1)) ++
      ((records.drop (c.index + 1)).zipIdx (records.take (c.index + 1)).length).map
        fun entry => ⟨entry.2, entry.1⟩ := by
    have hzip : (records.take (c.index + 1) ++ records.drop (c.index + 1)).zipIdx 0 = _ :=
      List.zipIdx_append
    rw [List.take_append_drop, Nat.zero_add] at hzip
    rw [ofRecords, hzip, List.map_append]
    rfl
  have hlengths : (ofRecords (records.take (c.index + 1))).length = (before ++ [c]).length := by
    have htotal := congrArg List.length h
    rw [hlength] at htotal
    simp only [List.length_append, List.length_cons] at htotal
    simp only [hlength, List.length_take, List.length_append, List.length_singleton]
    omega
  rw [happend, List.append_cons] at h
  exact List.append_inj_left h hlengths

end RecordFilter.Candidate
