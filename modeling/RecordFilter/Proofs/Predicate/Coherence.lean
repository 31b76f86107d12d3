import RecordFilter.Proofs.Json.Equality
import RecordFilter.Proofs.Predicate.Registered

/-!
# How comparisons fit together

Equality and order of values are computed apart from each other: equality compares values of any
kind, order only two numbers or two strings. The answers of the comparisons fit together all the
same, since all of them follow from the order where there is one.

* `Json.Comparable` — two numbers or two strings.
* `Json.looselyEqual_of_order?` — **values that have an order are equal as it says**.
* `Standard.Verdicts`, `Standard.Verdicts.Given` — the answers of the six comparisons under all
  their names.
* `Standard.comparisons_cohere` — **one of less, equal and greater**, and the others by them.
-/

namespace RecordFilter

namespace Json

/-! ## The order of values -/

/-- **Two numbers or two strings.** -/
inductive Comparable : Json → Json → Prop
  | numbers (x y : Number) : Comparable (.number x) (.number y)
  | strings (s t : String) : Comparable (.string s) (.string t)

variable {a b c : Json}

/-- Values with an order are comparable. -/
theorem comparable_of_order? {order : Ordering} (h : a.order? b = some order) : Comparable a b := by
  unfold order? at h
  split at h
  · exact .numbers _ _
  · exact .strings _ _
  · cases h

/-- Values that are not comparable have no order. -/
theorem order?_eq_none (h : ¬ Comparable a b) : a.order? b = none :=
  Option.eq_none_iff_forall_not_mem.2 fun _ horder => h (comparable_of_order? horder)

/-- Comparable values have an order. -/
theorem Comparable.exists_order? (h : Comparable a b) : ∃ order, a.order? b = some order := by
  cases h with
  | numbers x y => exact ⟨_, rfl⟩
  | strings s t => exact ⟨_, rfl⟩

/-- **Values that have an order are equal as it says.** -/
theorem looselyEqual_of_order? {order : Ordering} (h : a.order? b = some order) :
    a.looselyEqual b = (order == .eq) := by
  rw [Bool.eq_iff_iff, beq_iff_eq]
  cases comparable_of_order? h with
  | numbers x y =>
    obtain rfl := Option.some.inj h
    rw [Std.LawfulEqCmp.compare_eq_iff_eq, looselyEqual, Number.equalValue, beq_iff_eq]
  | strings s t =>
    obtain rfl := Option.some.inj h
    rw [Std.LawfulEqCmp.compare_eq_iff_eq, looselyEqual_string_iff, string.injEq]

/-- A value that is comparable with itself is equal to itself. -/
theorem order?_self {order : Ordering} (h : a.order? a = some order) : order = .eq := by
  have hequal := looselyEqual_of_order? h
  rw [looselyEqual_equivalence.refl a] at hequal
  exact eq_of_beq hequal.symm

/-- **Less is transitive**, also over several representations of numbers. -/
theorem order?_lt_trans (hab : a.order? b = some .lt) (hbc : b.order? c = some .lt) :
    a.order? c = some .lt := by
  cases comparable_of_order? hab with
  | numbers x y =>
    cases comparable_of_order? hbc with
    | numbers _ z =>
      exact congrArg some (Std.TransCmp.lt_trans (Option.some.inj hab) (Option.some.inj hbc))
  | strings s t =>
    cases comparable_of_order? hbc with
    | strings _ u =>
      exact congrArg some (Std.TransCmp.lt_trans (Option.some.inj hab) (Option.some.inj hbc))

end Json

namespace Standard

/-! ## The six comparisons -/

/-- Answers of the six comparisons. -/
structure Verdicts where
  less : Bool
  atMost : Bool
  equal : Bool
  different : Bool
  atLeast : Bool
  greater : Bool

/-- **The comparisons give these answers**, under all their names. -/
structure Verdicts.Given (v : Verdicts) (value : Option Json) (args : List Json)
    (kwargs : Dict Json) : Prop where
  less : ∀ leaf ∈ ["lessthan", "lt", "<"], call leaf value args kwargs = .ok v.less
  atMost : ∀ leaf ∈ ["le", "<="], call leaf value args kwargs = .ok v.atMost
  equal : ∀ leaf ∈ ["equals", "eq", "=="], call leaf value args kwargs = .ok v.equal
  different : ∀ leaf ∈ ["ne", "!="], call leaf value args kwargs = .ok v.different
  atLeast : ∀ leaf ∈ ["ge", ">="], call leaf value args kwargs = .ok v.atLeast
  greater : ∀ leaf ∈ ["greaterthan", "gt", ">"], call leaf value args kwargs = .ok v.greater

/-- The answers by equality and order. -/
def verdicts (value : Option Json) (bound : Json) : Verdicts :=
  let order := value.bind fun v => v.order? bound
  let equal := value.any fun v => v.looselyEqual bound
  ⟨order.any (· == .lt), order.any (· != .gt), equal, !equal, order.any (· != .lt),
    order.any (· == .gt)⟩

variable {leaf : String} {value : Option Json} {bound low high : Json} {rest : List Json}
  {kwargs : Dict Json}

/-- A comparing test accepts some orders of the value and the bound. -/
theorem call_compares {accept : Ordering → Bool} (h : (leaf, compares accept) ∈ tests) :
    call leaf value (bound :: rest) kwargs =
      .ok ((value.bind fun v => v.order? bound).any accept) := by
  rw [call_of_mem h]
  rfl

/-- **What the comparisons answer** about a bound. -/
theorem given_verdicts (value : Option Json) (bound : Json) (rest : List Json)
    (kwargs : Dict Json) : (verdicts value bound).Given value (bound :: rest) kwargs where
  less := by
    have htests : ∀ leaf ∈ ["lessthan", "lt", "<"], (leaf, compares (· == .lt)) ∈ tests := by
      simp [tests, testsWith]
    exact fun leaf hleaf => call_compares (htests leaf hleaf)
  atMost := by
    have htests : ∀ leaf ∈ ["le", "<="], (leaf, compares (· != .gt)) ∈ tests := by
      simp [tests, testsWith]
    exact fun leaf hleaf => call_compares (htests leaf hleaf)
  equal := by
    have htests : ∀ leaf ∈ ["equals", "eq", "=="], (leaf, equals) ∈ tests := by
      simp [tests, testsWith]
    exact fun leaf hleaf => call_of_mem (htests leaf hleaf) value (bound :: rest) kwargs
  different := by
    have htests : ∀ leaf ∈ ["ne", "!="], (leaf, differs) ∈ tests := by simp [tests, testsWith]
    exact fun leaf hleaf => call_of_mem (htests leaf hleaf) value (bound :: rest) kwargs
  atLeast := by
    have htests : ∀ leaf ∈ ["ge", ">="], (leaf, compares (· != .lt)) ∈ tests := by
      simp [tests, testsWith]
    exact fun leaf hleaf => call_compares (htests leaf hleaf)
  greater := by
    have htests : ∀ leaf ∈ ["greaterthan", "gt", ">"], (leaf, compares (· == .gt)) ∈ tests := by
      simp [tests, testsWith]
    exact fun leaf hleaf => call_compares (htests leaf hleaf)

/-! ## How they fit together -/

/-- Where there is an order, all six answers are its. -/
theorem verdicts_of_order? {a : Json} {order : Ordering} (h : a.order? bound = some order) :
    verdicts (some a) bound =
      ⟨order == .lt, order != .gt, order == .eq, order != .eq, order != .lt, order == .gt⟩ := by
  simp [verdicts, h, Json.looselyEqual_of_order? h, bne]

/-- A missing value has no order, nor has one of another kind than the bound. -/
theorem bind_order?_eq_none (h : ∀ a, value = some a → ¬ a.Comparable bound) :
    (value.bind fun v => v.order? bound) = none := by
  cases value with
  | none => rfl
  | some a => exact Json.order?_eq_none (h a rfl)

/-- What a range test answers. -/
theorem invoke_between (value : Option Json) (low high : Json) (rest : List Json)
    (kwargs : Dict Json) :
    registry.invoke ⟨"sift", "extra", "between"⟩ value (low :: high :: rest) kwargs =
      .ok (if flag kwargs "inclusive" true then
          (verdicts value low).atLeast && (verdicts value high).atMost
        else (verdicts value low).greater && (verdicts value high).less) := by
  rw [registry, invoke_of_mem _ (List.mem_append_right _ (List.mem_singleton.2 rfl))]
  refine congrArg Except.ok ?_
  cases value with
  | none => cases hflag : flag kwargs "inclusive" true <;> rfl
  | some a =>
    cases hlow : a.order? low <;> cases hhigh : a.order? high <;>
      simp [verdicts, hlow, hhigh]

/-- The order of two values, as the outcome of `lt`. -/
theorem call_lt_eq_true_iff {a : Json} :
    call "lt" (some a) (bound :: rest) kwargs = .ok true ↔ a.order? bound = some .lt := by
  rw [(given_verdicts (some a) bound rest kwargs).less "lt" (by decide), Except.ok.injEq]
  cases h : a.order? bound <;> simp [verdicts, h]

/-- **How the comparisons fit together.** Of a number and a number, or a string and a string, one of
less, equal and greater holds, and the tests that allow for equality hold as these do. Of other
values, and of a missing one, none of the tests of order holds. Whatever the values, they differ if
and only if they are not equal, and a range is the two bounds that it has: included, unless
`inclusive` is false. -/
theorem comparisons_cohere (value : Option Json) (bound : Json) (rest : List Json)
    (kwargs : Dict Json) :
    (∃ v : Verdicts, v.Given value (bound :: rest) kwargs ∧ v.different = !v.equal ∧
      (∀ a, value = some a → a.Comparable bound →
        [v.less, v.equal, v.greater].count true = 1 ∧
        v.atMost = (v.less || v.equal) ∧ v.atLeast = (v.greater || v.equal)) ∧
      ((∀ a, value = some a → ¬ a.Comparable bound) →
        v.less = false ∧ v.atMost = false ∧ v.greater = false ∧ v.atLeast = false)) ∧
    (∀ a, call "lt" (some a) (a :: rest) kwargs = .ok false) ∧
    (∀ a b c, call "lt" (some a) (b :: rest) kwargs = .ok true →
      call "lt" (some b) (c :: rest) kwargs = .ok true →
      call "lt" (some a) (c :: rest) kwargs = .ok true) ∧
    ∀ high, ∃ within, registry.invoke ⟨"sift", "extra", "between"⟩ value
        (bound :: high :: rest) kwargs = .ok within ∧
      (Dict.find? "inclusive" kwargs ≠ some (.bool false) →
        (within = true ↔ call "ge" value (bound :: rest) kwargs = .ok true ∧
          call "le" value (high :: rest) kwargs = .ok true)) ∧
      (Dict.find? "inclusive" kwargs = some (.bool false) →
        (within = true ↔ call "gt" value (bound :: rest) kwargs = .ok true ∧
          call "lt" value (high :: rest) kwargs = .ok true)) := by
-- all six tests are functions of one order, which the cases below compute
  refine ⟨⟨verdicts value bound, given_verdicts value bound rest kwargs, rfl, ?_, ?_⟩, ?_, ?_, ?_⟩
  · rintro a rfl hcomparable
    obtain ⟨order, horder⟩ := hcomparable.exists_order?
    rw [verdicts_of_order? horder]
    cases order <;> decide
  · intro hnone
    unfold verdicts
    rw [bind_order?_eq_none hnone]
    exact ⟨rfl, rfl, rfl, rfl⟩
  · intro a
    rw [(given_verdicts (some a) a rest kwargs).less "lt" (by decide)]
    cases horder : a.order? a with
    | none => simp [verdicts, horder]
    | some order =>
      rw [verdicts_of_order? horder, Json.order?_self horder]
      rfl
  · intro a b c hab hbc
    rw [call_lt_eq_true_iff] at hab hbc ⊢
    exact Json.order?_lt_trans hab hbc
  · intro high
    have hlow := given_verdicts value bound rest kwargs
    have hhigh := given_verdicts value high rest kwargs
    refine ⟨_, invoke_between value bound high rest kwargs, ?_, ?_⟩
    · intro hinclusive
      rw [flag_of_ne hinclusive, hlow.atLeast "ge" (by decide), hhigh.atMost "le" (by decide)]
      simp
    · intro hinclusive
      have hflag : flag kwargs "inclusive" true = false := by rw [flag, hinclusive]; rfl
      rw [hflag, hlow.greater "gt" (by decide), hhigh.less "lt" (by decide)]
      simp

/-- The whole number zero and the double negative zero. -/
theorem comparisons_cohere_sample :
    (Json.ofInt 0).Comparable (.number (.double (.zero true))) ∧
    ∃ v : Verdicts, v.Given (some (.ofInt 0)) [.number (.double (.zero true))] [] ∧
      [v.less, v.equal, v.greater].count true = 1 := by
  have hcomparable : (Json.ofInt 0).Comparable (.number (.double (.zero true))) := .numbers _ _
  obtain ⟨⟨v, hgiven, -, horder, -⟩, -⟩ :=
    comparisons_cohere (some (.ofInt 0)) (.number (.double (.zero true))) [] []
  exact ⟨hcomparable, v, hgiven, (horder _ rfl hcomparable).1⟩

end Standard

end RecordFilter
