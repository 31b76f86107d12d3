import RecordFilter.Proofs.Number.Rounding
import RecordFilter.Proofs.Predicate.Coherence
import RecordFilter.Proofs.Predicate.Membership

/-!
# Comparisons of whole numbers

Comparisons look at the doubles of two values. Of whole numbers they answer as the numbers stand to
each other unless two different ones have the same double; then these count as equal.

* `Standard.ComparesExactly` — the standard predicates answer by the order of the numbers of a set.
* `Standard.comparesExactly_iff` — **they do if and only if different numbers of the set have
  different doubles**; so up to `2 ^ 53`, and no further.
* `Standard.verdicts_one_sided` — of any whole numbers, an order that is found is right.
* `Standard.not_comparesExactly_words` — two numbers of 64 bits that are taken for one.
-/

namespace RecordFilter

namespace Number

/-! ## The order of doubles -/

variable {numbers : Set Int} {a b : Int}

/-- **Numbers with different doubles are ordered as these are.** -/
theorem compare_scaledInt (h : scaledInt a = scaledInt b → a = b) :
    compare (scaledInt a) (scaledInt b) = compare a b := by
  rcases Int.lt_trichotomy a b with hlt | heq | hgt
  · have hle : scaledInt a ≤ scaledInt b := scaledInt_mono (Int.le_of_lt hlt)
    have hne : scaledInt a ≠ scaledInt b := fun heq => Int.ne_of_lt hlt (h heq)
    rw [compare_lt_iff_lt.2 hlt, compare_lt_iff_lt.2 (lt_of_le_of_ne hle hne)]
  · rw [heq, compare_eq_iff_eq.2 rfl, compare_eq_iff_eq.2 rfl]
  · have hle : scaledInt b ≤ scaledInt a := scaledInt_mono (Int.le_of_lt hgt)
    have hne : scaledInt b ≠ scaledInt a := fun heq => Int.ne_of_gt hgt (h heq.symm)
    rw [compare_gt_iff_gt.2 hgt, compare_gt_iff_gt.2 (lt_of_le_of_ne hle hne)]

end Number

namespace Standard

open Number

/-! ## Answers by the order of numbers -/

/-- **The standard predicates answer by the order of the numbers of a set.** -/
structure ComparesExactly (numbers : Set Int) : Prop where
  equals : ∀ leaf ∈ ["equals", "eq", "=="], ∀ a ∈ numbers, ∀ b ∈ numbers, ∀ kwargs,
    test leaf (.ofInt a) [.ofInt b] kwargs = .ok (decide (a = b))
  differs : ∀ leaf ∈ ["ne", "!="], ∀ a ∈ numbers, ∀ b ∈ numbers, ∀ kwargs,
    test leaf (.ofInt a) [.ofInt b] kwargs = .ok (decide (a ≠ b))
  greater : ∀ leaf ∈ ["greaterthan", "gt", ">"], ∀ a ∈ numbers, ∀ b ∈ numbers, ∀ kwargs,
    test leaf (.ofInt a) [.ofInt b] kwargs = .ok (decide (b < a))
  atLeast : ∀ leaf ∈ ["ge", ">="], ∀ a ∈ numbers, ∀ b ∈ numbers, ∀ kwargs,
    test leaf (.ofInt a) [.ofInt b] kwargs = .ok (decide (b ≤ a))
  less : ∀ leaf ∈ ["lessthan", "lt", "<"], ∀ a ∈ numbers, ∀ b ∈ numbers, ∀ kwargs,
    test leaf (.ofInt a) [.ofInt b] kwargs = .ok (decide (a < b))
  atMost : ∀ leaf ∈ ["le", "<="], ∀ a ∈ numbers, ∀ b ∈ numbers, ∀ kwargs,
    test leaf (.ofInt a) [.ofInt b] kwargs = .ok (decide (a ≤ b))
  isIn : ∀ a ∈ numbers, ∀ items : List Int, (∀ b ∈ items, b ∈ numbers) → ∀ kwargs,
    test "in" (.ofInt a) [.array (items.map .ofInt)] kwargs = .ok (decide (a ∈ items))
  contains : ∀ a ∈ numbers, ∀ items : List Int, (∀ b ∈ items, b ∈ numbers) → ∀ kwargs,
    test "contains" (.array (items.map .ofInt)) [.ofInt a] kwargs = .ok (decide (a ∈ items))
  /-- Bounds belong to the range unless `inclusive` is false. -/
  between : ∀ a ∈ numbers, ∀ low ∈ numbers, ∀ high ∈ numbers, ∀ kwargs,
    Dict.find? "inclusive" kwargs ≠ some (.bool false) →
    testBetween (.ofInt a) [.ofInt low, .ofInt high] kwargs =
      .ok (decide (low ≤ a ∧ a ≤ high))
  betweenExclusive : ∀ a ∈ numbers, ∀ low ∈ numbers, ∀ high ∈ numbers, ∀ kwargs,
    Dict.find? "inclusive" kwargs = some (.bool false) →
    testBetween (.ofInt a) [.ofInt low, .ofInt high] kwargs =
      .ok (decide (low < a ∧ a < high))

/-! ## Answers by the order of doubles -/

variable {a b : Int}

/-- Loose equality finds a number in a list if and only if it is there, where different numbers
have different doubles. -/
theorem any_looselyEqual_ofInt (items : List Int)
    (h : ∀ b ∈ items, scaledInt a = scaledInt b → a = b) :
    (items.map Json.ofInt).any (Json.ofInt a).looselyEqual = decide (a ∈ items) := by
  rw [Bool.eq_iff_iff, List.any_map, List.any_eq_true, decide_eq_true_iff]
  constructor
  · rintro ⟨b, hb, hequal⟩
    exact h b hb (eq_of_beq hequal) ▸ hb
  · intro ha
    exact ⟨a, ha, beq_self_eq_true (scaledInt a)⟩

/-- Orderings as answers. -/
theorem beq_gt_compare (a b : Int) : (compare a b == .gt) = decide (b < a) := by
  rw [Bool.eq_iff_iff, beq_iff_eq, decide_eq_true_iff, compare_gt_iff_gt]

/-- Not below is at or above. -/
theorem bne_lt_compare (a b : Int) : (compare a b != .lt) = decide (b ≤ a) := by
  rw [Bool.eq_iff_iff, bne_iff_ne, decide_eq_true_iff, compare_ge_iff_ge]

/-- Below, as a test and as a comparison. -/
theorem beq_lt_compare (a b : Int) : (compare a b == .lt) = decide (a < b) := by
  rw [Bool.eq_iff_iff, beq_iff_eq, decide_eq_true_iff, compare_lt_iff_lt]

/-- Not above is at or below. -/
theorem bne_gt_compare (a b : Int) : (compare a b != .gt) = decide (a ≤ b) := by
  rw [Bool.eq_iff_iff, bne_iff_ne, decide_eq_true_iff, compare_le_iff_le]

/-- Equal, as a test and as a comparison. -/
theorem beq_eq_compare (a b : Int) : (compare a b == .eq) = decide (a = b) := by
  rw [Bool.eq_iff_iff, beq_iff_eq, decide_eq_true_iff, compare_eq_iff_eq]

/-- Answers by an order of whole numbers. -/
theorem verdicts_of_compare {v bound : Json} {x y : Int}
    (h : v.order? bound = some (compare x y)) :
    verdicts (some v) bound =
      ⟨decide (x < y), decide (x ≤ y), decide (x = y), !decide (x = y), decide (y ≤ x),
        decide (y < x)⟩ := by
  rw [verdicts_of_order? h, beq_lt_compare, bne_gt_compare, beq_eq_compare, bne_lt_compare,
    beq_gt_compare, bne, beq_eq_compare]

/-- **Where different numbers have different doubles, comparisons answer by the numbers.** -/
theorem verdicts_ofInt (h : scaledInt a = scaledInt b → a = b) :
    verdicts (some (.ofInt a)) (.ofInt b) =
      ⟨decide (a < b), decide (a ≤ b), decide (a = b), !decide (a = b), decide (b ≤ a),
        decide (b < a)⟩ :=
  verdicts_of_compare (congrArg some (compare_scaledInt h))

/-- The verdicts on two integers, if rounding does not make them equal. -/
theorem given_ofInt (h : scaledInt a = scaledInt b → a = b) (kwargs : Dict Json) :
    Verdicts.Given ⟨decide (a < b), decide (a ≤ b), decide (a = b), !decide (a = b),
      decide (b ≤ a), decide (b < a)⟩ (some (.ofInt a)) [.ofInt b] kwargs := by
  rw [← verdicts_ofInt h]
  exact given_verdicts (some (.ofInt a)) (.ofInt b) [] kwargs

/-! ## Which numbers are compared exactly -/

/-- **Answers are right where different numbers have different doubles.** -/
theorem comparesExactly_of_injOn {numbers : Set Int} (h : Set.InjOn scaledInt numbers) :
    ComparesExactly numbers where
  equals leaf hleaf _ ha _ hb kwargs := (given_ofInt (h ha hb) kwargs).equal leaf hleaf
  differs := by
    intro leaf hleaf a ha b hb kwargs
    rw [decide_not]
    exact (given_ofInt (h ha hb) kwargs).different leaf hleaf
  greater leaf hleaf _ ha _ hb kwargs := (given_ofInt (h ha hb) kwargs).greater leaf hleaf
  atLeast leaf hleaf _ ha _ hb kwargs := (given_ofInt (h ha hb) kwargs).atLeast leaf hleaf
  less leaf hleaf _ ha _ hb kwargs := (given_ofInt (h ha hb) kwargs).less leaf hleaf
  atMost leaf hleaf _ ha _ hb kwargs := (given_ofInt (h ha hb) kwargs).atMost leaf hleaf
  isIn := by
    intro a ha items hitems kwargs
    rw [test_in_of_array, any_looselyEqual_ofInt items fun b hb => h ha (hitems b hb)]
  contains := by
    intro a ha items hitems kwargs
    rw [test_contains_of_array, any_looselyEqual_comm,
      any_looselyEqual_ofInt items fun b hb => h ha (hitems b hb)]
  between := by
    intro a ha low hlow high hhigh kwargs hinclusive
    rw [testBetween, invoke_between, flag_of_ne hinclusive, verdicts_ofInt (h ha hlow),
      verdicts_ofInt (h ha hhigh), if_pos rfl, Bool.decide_and]
  betweenExclusive := by
    intro a ha low hlow high hhigh kwargs hinclusive
    have hflag : flag kwargs "inclusive" true = false := by rw [flag, hinclusive]; rfl
    rw [testBetween, invoke_between, hflag, verdicts_ofInt (h ha hlow),
      verdicts_ofInt (h ha hhigh), if_neg Bool.false_ne_true, Bool.decide_and]

/-- Comparisons are exact only where rounding keeps numbers apart. -/
theorem injOn_of_comparesExactly {numbers : Set Int} (h : ComparesExactly numbers) :
    Set.InjOn scaledInt numbers := by
  intro a ha b hb hscaled
  have hexact := h.equals "equals" List.mem_cons_self a ha b hb []
  have hloose : (Json.ofInt a).looselyEqual (.ofInt b) = true := beq_iff_eq.2 hscaled
  rw [test_equals_eq List.mem_cons_self, hloose] at hexact
  exact of_decide_eq_true (Except.ok.inj hexact).symm

/-- In a range around zero these are the numbers up to `2 ^ 53`. -/
theorem injOn_Icc_iff (n : Int) : Set.InjOn scaledInt (Set.Icc (-n) n) ↔ n ≤ 2 ^ 53 := by
  constructor
  · intro h
    by_contra hlarge
    have heq := h (by rw [Set.mem_Icc]; omega) (by rw [Set.mem_Icc]; omega) scaledInt_succ
    omega
  · intro h
    exact scaledInt_injOn.mono (Set.Icc_subset_Icc (by omega) h)

/-- **Whole numbers are compared exactly if and only if different ones have different doubles.** So
it is where of any two one is below `2 ^ 53` in size, and of the ranges around zero with those up
to `2 ^ 53`. -/
theorem comparesExactly_iff (numbers : Set Int) :
    (ComparesExactly numbers ↔ Set.InjOn scaledInt numbers) ∧
    ((∀ a ∈ numbers, ∀ b ∈ numbers, a ≠ b → a.natAbs < 2 ^ 53 ∨ b.natAbs < 2 ^ 53) →
      ComparesExactly numbers) ∧
    ∀ n : Int, numbers = Set.Icc (-n) n → (ComparesExactly numbers ↔ n ≤ 2 ^ 53) := by
  have hiff : ComparesExactly numbers ↔ Set.InjOn scaledInt numbers :=
    ⟨injOn_of_comparesExactly, comparesExactly_of_injOn⟩
  refine ⟨hiff, ?_, ?_⟩
  · intro hsmall
    rw [hiff]
    intro a ha b hb hscaled
    by_contra hne
    rcases hsmall a ha b hb hne with hlt | hlt
    · exact hne ((scaledInt_eq_iff hlt).1 hscaled)
    · exact hne ((scaledInt_eq_iff hlt).1 hscaled.symm).symm
  · intro n hrange
    rw [hiff, hrange]
    exact injOn_Icc_iff n

/-- **Of any whole numbers, a strict order or a difference that is found is right**, and none that
should hold is missed by a test that allows for equality. -/
theorem verdicts_one_sided (a b : Int) (kwargs : Dict Json) :
    (test "gt" (.ofInt a) [.ofInt b] kwargs = .ok true → b < a) ∧
    (test "lt" (.ofInt a) [.ofInt b] kwargs = .ok true → a < b) ∧
    (test "ne" (.ofInt a) [.ofInt b] kwargs = .ok true → a ≠ b) ∧
    (b ≤ a → test "ge" (.ofInt a) [.ofInt b] kwargs = .ok true) ∧
    (a ≤ b → test "le" (.ofInt a) [.ofInt b] kwargs = .ok true) ∧
    (a = b → test "equals" (.ofInt a) [.ofInt b] kwargs = .ok true) := by
  have horder : (Json.ofInt a).order? (.ofInt b) = some (compare (scaledInt a) (scaledInt b)) := rfl
  have hgiven := given_verdicts (some (.ofInt a)) (.ofInt b) [] kwargs
  rw [verdicts_of_compare horder] at hgiven
  have hgt := hgiven.greater "gt" (by decide)
  have hlt := hgiven.less "lt" (by decide)
  have hne := hgiven.different "ne" (by decide)
  have hge := hgiven.atLeast "ge" (by decide)
  have hle := hgiven.atMost "le" (by decide)
  have heq := hgiven.equal "equals" (by decide)
  simp only [test_eq_call, hgt, hlt, hne, hge, hle, heq, Except.ok.injEq, decide_eq_true_iff,
    Bool.not_eq_true', decide_eq_false_iff_not]
  refine ⟨?_, ?_, ?_, scaledInt_mono, scaledInt_mono, congrArg scaledInt⟩
  · intro h
    by_contra hnot
    exact absurd (scaledInt_mono (Int.not_lt.1 hnot)) (Int.not_le.2 h)
  · intro h
    by_contra hnot
    exact absurd (scaledInt_mono (Int.not_lt.1 hnot)) (Int.not_le.2 h)
  · intro h heq
    exact h (congrArg scaledInt heq)

/-- **Whole numbers of 64 bits are not compared exactly**: `2 ^ 53` and its successor are both among
them and count as equal. -/
theorem not_comparesExactly_words : ¬ ComparesExactly (Set.Ico (-2 ^ 63) (2 ^ 64)) := by
  intro h
  have heq := injOn_of_comparesExactly h (by rw [Set.mem_Ico]; decide)
    (by rw [Set.mem_Ico]; decide) scaledInt_succ
  exact absurd heq (by decide)

end Standard

end RecordFilter
