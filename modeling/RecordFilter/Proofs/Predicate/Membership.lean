import Mathlib.Data.List.Forall2
import RecordFilter.Proofs.Json.Equality
import RecordFilter.Proofs.Predicate.Registered

/-!
# Membership

The test `in` takes an array, a text or several arguments in a row. Which one it is depends on the
first argument alone, so several arguments are read as a list unless the first of them is a text.
The test `contains` asks of an array or a text what `in` asks of an item or a part.

* `Text.occursIn_iff_isInfix` — what it is for a text to be a part of another.
* `Standard.Listed`, `Standard.PartOf` — the value is one of several, or a part of a text.
* `Standard.in_iff_listed` — **when several arguments act as a list**.
* `Standard.exists_not_listed` — a list of two texts of which one is not found.
* `Standard.any_looselyEqual_congr` — loosely equal values are in the same arrays.
* `Standard.in_dual_contains` — **membership from both sides, and up to loose equality**.
-/

namespace RecordFilter

namespace Text

/-- **One text is found in another if and only if it is a part of it without gaps.** -/
theorem occursIn_iff_isInfix (part text : List Char) :
    occursIn part text = true ↔ part <:+: text := by
  induction text with
  | nil => simp [occursIn]
  | cons c rest ih =>
    rw [occursIn, Bool.or_eq_true, List.isPrefixOf_iff_prefix, ih, List.infix_cons_iff]

end Text

namespace Standard

/-! ## The two readings -/

/-- The value is loosely equal to one of several. -/
def Listed (value : Json) (items : List Json) : Prop :=
  ∃ item ∈ items, value.looselyEqual item = true

/-- The value is a text, and a part of another. -/
def PartOf (value : Json) (text : String) : Prop :=
  ∃ part, value = .string part ∧ part.toList <:+: text.toList

variable {value first : Json} {rest : List Json} {text : String}

/-- A text is a part of itself. -/
theorem partOf_self (text : String) : PartOf (.string text) text :=
  ⟨text, rfl, List.infix_rfl⟩

/-- A value is listed if it is the first item or among the rest. -/
theorem listed_cons_iff :
    Listed value (first :: rest) ↔ value.looselyEqual first = true ∨ Listed value rest := by
  unfold Listed
  simp only [List.mem_cons, exists_eq_or_imp]

/-- The test for being listed. -/
theorem any_iff_listed (items : List Json) :
    items.any value.looselyEqual = true ↔ Listed value items := by
  rw [List.any_eq_true, Listed]

/-- The test for being a part of a text. -/
theorem any_contains_iff_partOf (value : Json) (text : String) :
    value.asString?.any (Text.contains text) = true ↔ PartOf value text := by
  unfold PartOf
  cases value with
  | string part => simp [Json.asString?, Text.contains, Text.occursIn_iff_isInfix]
  | null | bool | number | array | object => simp [Json.asString?]

/-! ## Arguments in a row -/

variable {kwargs : Dict Json}

/-- Membership in a string, whatever arguments follow it. -/
theorem test_in_of_text (value : Json) (text : String) (rest : List Json) (kwargs : Dict Json) :
    test "in" value (.string text :: rest) kwargs =
      .ok (value.asString?.any (Text.contains text)) := by
  have hmem : ("in", isIn) ∈ tests := by simp [tests, testsWith]
  rw [test_of_mem hmem]
  rfl

/-- A first argument that is neither an array nor a text begins a list. -/
theorem test_in_of_other (value : Json) (rest : List Json) (kwargs : Dict Json)
    (harray : ∀ items, first ≠ .array items) (htext : ∀ text, first ≠ .string text) :
    test "in" value (first :: rest) kwargs = .ok ((first :: rest).any value.looselyEqual) := by
  have hmem : ("in", isIn) ∈ tests := by simp [tests, testsWith]
  rw [test_of_mem hmem]
  cases first with
  | array items => exact absurd rfl (harray items)
  | string text => exact absurd rfl (htext text)
  | null | bool | number | object => rfl

/-- **When several arguments act as a list.** The test `in` answers whatever they are. If the first
is no text, it finds the values that are loosely equal to one of them; if it is, it finds the parts
of that text, and the other arguments count for nothing. So a text before the others spoils the
list: a proper part of it is found though it may not be listed, and what is listed after it is found
only if it is a part of it. -/
theorem in_iff_listed (value : Json) (rest : List Json) (kwargs : Dict Json)
    (harray : ∀ items, first ≠ .array items) :
    ∃ answer, test "in" value (first :: rest) kwargs = .ok answer ∧
      (match first with
        | .string text => answer = true ↔ PartOf value text
        | _ => answer = true ↔ Listed value (first :: rest)) ∧
      ((answer = true ↔ Listed value (first :: rest)) ↔
        ∀ text, first = .string text →
          (PartOf value text → value ≠ .string text → Listed value rest) ∧
          (Listed value rest → PartOf value text)) := by
-- a text as the first argument is searched, and the others are not looked at
  by_cases htext : ∃ text, first = .string text
  · obtain ⟨text, rfl⟩ := htext
    refine ⟨_, test_in_of_text value text rest kwargs, any_contains_iff_partOf value text, ?_⟩
    rw [any_contains_iff_partOf, listed_cons_iff, Json.looselyEqual_string_iff]
    constructor
    · intro hsame other hother
      obtain rfl := Json.string.inj hother
      constructor
      · intro hpart hne
        exact (hsame.1 hpart).resolve_left hne
      · intro hlisted
        exact hsame.2 (.inr hlisted)
    · intro hrest
      obtain ⟨hpart, hlisted⟩ := hrest text rfl
      constructor
      · intro h
        by_cases hself : value = .string text
        · exact .inl hself
        · exact .inr (hpart h hself)
      · rintro (rfl | h)
        · exact partOf_self text
        · exact hlisted h
  · rw [not_exists] at htext
    refine ⟨_, test_in_of_other value rest kwargs harray htext, ?_, ?_⟩
    · cases first with
      | string text => exact absurd rfl (htext text)
      | null | bool | number | array | object => exact any_iff_listed _
    · refine iff_of_true (any_iff_listed _) ?_
      intro text hfirst
      exact absurd hfirst (htext text)

/-- A number and a text before the text that is looked for. -/
theorem in_iff_listed_sample :
    (∀ items, Json.ofInt 1 ≠ .array items) ∧
    test "in" (.string "b") [.ofInt 1, .string "a", .string "b"] [] = .ok true := by
  have hnumber : ∀ items, Json.ofInt 1 ≠ .array items := by
    intro items h
    cases h
  obtain ⟨answer, htest, hanswer, -⟩ :=
    in_iff_listed (.string "b") [.string "a", .string "b"] [] hnumber
  have hlisted : Listed (.string "b") [.ofInt 1, .string "a", .string "b"] :=
    ⟨.string "b", by simp, by decide⟩
  rw [htest, hanswer.2 hlisted]
  exact ⟨hnumber, rfl⟩

/-- **Of two texts in a row the second is not found**, though it is one of the arguments. -/
theorem exists_not_listed :
    test "in" (.string "b") [.string "a", .string "b"] [] = .ok false ∧
    Listed (.string "b") [.string "a", .string "b"] := by
  refine ⟨?_, .string "b", by simp, by decide⟩
  rw [test_in_of_text]
  exact congrArg Except.ok (by decide)

/-! ## Both sides of membership -/

variable {other : Json} {items others : List Json}

/-- Membership in an array, whatever arguments follow it. -/
theorem test_in_of_array (value : Json) (items rest : List Json) (kwargs : Dict Json) :
    test "in" value (.array items :: rest) kwargs = .ok (items.any value.looselyEqual) := by
  have hmem : ("in", isIn) ∈ tests := by simp [tests, testsWith]
  rw [test_of_mem hmem]
  rfl

/-- What an array contains. -/
theorem test_contains_of_array (items : List Json) (value : Json) (rest : List Json)
    (kwargs : Dict Json) :
    test "contains" (.array items) (value :: rest) kwargs =
      .ok (items.any fun item => item.looselyEqual value) := by
  have hmem : ("contains", contains) ∈ tests := by simp [tests, testsWith]
  rw [test_of_mem hmem]
  rfl

/-- What a string contains. -/
theorem test_contains_of_text (text : String) (value : Json) (rest : List Json)
    (kwargs : Dict Json) :
    test "contains" (.string text) (value :: rest) kwargs =
      .ok (value.asString?.any (Text.contains text)) := by
  have hmem : ("contains", contains) ∈ tests := by simp [tests, testsWith]
  rw [test_of_mem hmem]
  rfl

/-- The three names of the test for equality. -/
theorem test_equals_eq {leaf : String} (h : leaf ∈ ["equals", "eq", "=="]) (value bound : Json)
    (rest : List Json) (kwargs : Dict Json) :
    test leaf value (bound :: rest) kwargs = .ok (value.looselyEqual bound) := by
  have htests : ∀ leaf ∈ ["equals", "eq", "=="], (leaf, equals) ∈ tests := by
    simp [tests, testsWith]
  rw [test_of_mem (htests leaf h)]
  rfl

/-- **Loosely equal values are in the same arrays**, and an array of loosely equal items has the
same values in it. -/
theorem any_looselyEqual_congr (hvalue : value.looselyEqual other = true)
    (hitems : List.Forall₂ (fun a b => a.looselyEqual b = true) items others) :
    items.any value.looselyEqual = others.any other.looselyEqual := by
  induction hitems with
  | nil => rfl
  | cons hitem _ ih =>
    rw [List.any_cons, List.any_cons, ih, Json.looselyEqual_congr hvalue hitem]

/-- `contains` compares from the other side. -/
theorem any_looselyEqual_comm (items : List Json) (value : Json) :
    (items.any fun item => item.looselyEqual value) = items.any value.looselyEqual := by
  congr 1
  funext item
  exact Json.looselyEqual_comm item value

/-- **Membership is the same from both sides, and does not tell loosely equal values apart.** Loose
equality is an equivalence. A value is in an array if and only if the array contains it, and if and
only if it is equal to an item; a text is in another if and only if the other contains it. None of
these answers changes when the value, or items of the array, are replaced by loosely equal ones. -/
theorem in_dual_contains (rest : List Json) (kwargs : Dict Json) :
    Equivalence (fun a b : Json => a.looselyEqual b = true) ∧
    (∀ value items, ∃ answer,
      test "in" value (.array items :: rest) kwargs = .ok answer ∧
      test "contains" (.array items) (value :: rest) kwargs = .ok answer ∧
      ∀ leaf ∈ ["equals", "eq", "=="],
        (answer = true ↔ ∃ item ∈ items, test leaf value (item :: rest) kwargs = .ok true)) ∧
    (∀ part text, ∃ answer,
      test "in" (.string part) (.string text :: rest) kwargs = .ok answer ∧
      test "contains" (.string text) (.string part :: rest) kwargs = .ok answer ∧
      (answer = true ↔ part.toList <:+: text.toList)) ∧
    ∀ value other, value.looselyEqual other = true →
      (∀ item replaced, item.looselyEqual replaced = true → ∀ leaf ∈ ["equals", "eq", "=="],
        test leaf value (item :: rest) kwargs = test leaf other (replaced :: rest) kwargs) ∧
      ∀ items others, List.Forall₂ (fun a b => a.looselyEqual b = true) items others →
        test "in" value (.array items :: rest) kwargs =
          test "in" other (.array others :: rest) kwargs ∧
        test "contains" (.array items) (value :: rest) kwargs =
          test "contains" (.array others) (other :: rest) kwargs := by
  refine ⟨Json.looselyEqual_equivalence, ?_, ?_, ?_⟩
  · intro value items
    refine ⟨_, test_in_of_array value items rest kwargs, ?_, ?_⟩
    · rw [test_contains_of_array, any_looselyEqual_comm]
    · intro leaf hleaf
      simp only [test_equals_eq hleaf, Except.ok.injEq, List.any_eq_true]
  · intro part text
    refine ⟨_, test_in_of_text (.string part) text rest kwargs, ?_, ?_⟩
    · rw [test_contains_of_text]
    · exact Text.occursIn_iff_isInfix part.toList text.toList
  · intro value other hvalue
    constructor
    · intro item replaced hitem leaf hleaf
      rw [test_equals_eq hleaf, test_equals_eq hleaf, Json.looselyEqual_congr hvalue hitem]
    · intro items others hitems
      rw [test_in_of_array, test_in_of_array, test_contains_of_array, test_contains_of_array,
        any_looselyEqual_comm, any_looselyEqual_comm, any_looselyEqual_congr hvalue hitems]
      exact ⟨rfl, rfl⟩

/-- Zero and negative zero are in the same arrays. -/
theorem in_dual_contains_sample :
    (Json.ofInt 0).looselyEqual (.number (.double (.zero true))) = true ∧
    test "in" (.ofInt 0) [.array [.null, .number (.double (.zero true))]] [] =
      test "in" (.number (.double (.zero true))) [.array [.null, .ofInt 0]] [] := by
  obtain ⟨hequivalence, -, -, hcongr⟩ := in_dual_contains [] []
  have hzero : (Json.ofInt 0).looselyEqual (.number (.double (.zero true))) = true := by
    decide +kernel
  have hitems : List.Forall₂ (fun a b : Json => a.looselyEqual b = true)
      [.null, .number (.double (.zero true))] [.null, .ofInt 0] :=
    .cons (hequivalence.refl .null) (.cons (hequivalence.symm hzero) .nil)
  exact ⟨hzero, ((hcongr _ _ hzero).2 _ _ hitems).1⟩

end Standard

end RecordFilter
