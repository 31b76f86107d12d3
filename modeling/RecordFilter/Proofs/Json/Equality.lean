import RecordFilter.Predicate.Comparison

/-!
# Equality of values

Each of the two equalities of values is the equality of something that a value shows. Plain equality
sees everything but the sign of a zero; loose equality sees of a number its value as a double, and
of anything else what plain equality sees. So both are equivalences.

* `Json.unsigned` — a value with the signs of its zeros left out.
* `Json.same_iff` — **plain equality is equality up to the signs of zeros**.
* `Json.view`, `Json.looselyEqual_iff` — **what loose equality sees**.
* `Json.looselyEqual_equivalence`, `Json.looselyEqual_congr` — what follows for loose equality.
-/

namespace RecordFilter

/-! ## Numbers -/

/-- A double with the sign of a zero left out. -/
def Double.unsigned (x : Double) : Double :=
  ⟨x.negative && decide (x.units ≠ 0), x.units, x.onGrid, x.finite⟩

/-- Doubles are the same if they differ at most in the sign of a zero. -/
theorem Double.same_iff (x y : Double) : x.same y = true ↔ x.unsigned = y.unsigned := by
  obtain ⟨xneg, xunits, -, -⟩ := x
  obtain ⟨yneg, yunits, -, -⟩ := y
  simp only [same, scaled, unsigned, beq_iff_eq, Double.mk.injEq]
  by_cases hx : xunits = 0 <;> by_cases hy : yunits = 0 <;> cases xneg <;> cases yneg <;>
    simp [hx, hy] <;> omega

/-- A number with the sign of a zero left out. -/
def Number.unsigned : Number → Number
  | .integer value => .integer value
  | .double value => .double value.unsigned

/-- Numbers are the same if they differ at most in the sign of a zero. -/
theorem Number.same_iff (a b : Number) : a.same b = true ↔ a.unsigned = b.unsigned := by
  cases a <;> cases b <;> simp [same, unsigned, Double.same_iff]

namespace Json

/-! ## Plain equality -/

mutual

/-- A value with the signs of its zeros left out. -/
def unsigned : Json → Json
  | .null => .null
  | .bool value => .bool value
  | .number value => .number value.unsigned
  | .string value => .string value
  | .array items => .array (unsignedItems items)
  | .object members => .object (unsignedMembers members)

/-- The items of an array without signs of zeros. -/
def unsignedItems : List Json → List Json
  | [] => []
  | item :: rest => unsigned item :: unsignedItems rest

/-- The members of an object without signs of zeros. -/
def unsignedMembers : List (String × Json) → List (String × Json)
  | [] => []
  | (key, value) :: rest => (key, unsigned value) :: unsignedMembers rest

end

mutual

/-- **Plain equality is equality up to the signs of zeros.** -/
theorem same_iff : ∀ a b : Json, a.same b = true ↔ a.unsigned = b.unsigned
  | .null, b => by cases b <;> simp [same, unsigned]
  | .bool value, b => by cases b <;> simp [same, unsigned]
  | .number value, b => by cases b <;> simp [same, unsigned, Number.same_iff]
  | .string value, b => by cases b <;> simp [same, unsigned]
  | .array items, b => by
    cases b with
    | array others => simp [same, unsigned, sameItems_iff items others]
    | null | bool | number | string | object => simp [same, unsigned]
  | .object members, b => by
    cases b with
    | object others => simp [same, unsigned, sameMembers_iff members others]
    | null | bool | number | string | array => simp [same, unsigned]

/-- Arrays have the same items if these differ at most in the signs of zeros. -/
theorem sameItems_iff : ∀ as bs : List Json,
    sameItems as bs = true ↔ unsignedItems as = unsignedItems bs
  | [], bs => by cases bs <;> simp [sameItems, unsignedItems]
  | a :: as, bs => by
    cases bs with
    | nil => simp [sameItems, unsignedItems]
    | cons b bs => simp [sameItems, unsignedItems, same_iff a b, sameItems_iff as bs]

/-- Objects have the same members if these differ at most in the signs of zeros. -/
theorem sameMembers_iff : ∀ as bs : List (String × Json),
    sameMembers as bs = true ↔ unsignedMembers as = unsignedMembers bs
  | [], bs => by cases bs <;> simp [sameMembers, unsignedMembers]
  | (key, a) :: as, bs => by
    cases bs with
    | nil => simp [sameMembers, unsignedMembers]
    | cons b bs => simp [sameMembers, unsignedMembers, same_iff a b.2, sameMembers_iff as bs]

end

/-! ## Loose equality -/

/-- **What loose equality sees of a value**: of a number its value as a double, of another value all
but the signs of zeros. -/
def view : Json → Int ⊕ Json
  | .number value => .inl value.scaled
  | value => .inr value.unsigned

/-- **Values are loosely equal if and only if they show the same.** -/
theorem looselyEqual_iff (a b : Json) : a.looselyEqual b = true ↔ a.view = b.view := by
  cases a <;> cases b <;>
    simp [looselyEqual, view, Number.equalValue, same_iff, unsigned]

/-- **Loose equality is an equivalence relation.** -/
theorem looselyEqual_equivalence : Equivalence fun a b : Json => a.looselyEqual b = true where
  refl a := (looselyEqual_iff a a).2 rfl
  symm h := (looselyEqual_iff _ _).2 ((looselyEqual_iff _ _).1 h).symm
  trans h₁ h₂ :=
    (looselyEqual_iff _ _).2 (((looselyEqual_iff _ _).1 h₁).trans ((looselyEqual_iff _ _).1 h₂))

variable {a b c d : Json}

/-- Loosely equal values are loosely equal to the same values. -/
theorem looselyEqual_congr (hac : a.looselyEqual c = true) (hbd : b.looselyEqual d = true) :
    a.looselyEqual b = c.looselyEqual d := by
  rw [looselyEqual_iff] at hac hbd
  rw [Bool.eq_iff_iff, looselyEqual_iff, looselyEqual_iff, hac, hbd]

/-- Loose equality is symmetric, as a test. -/
theorem looselyEqual_comm (a b : Json) : a.looselyEqual b = b.looselyEqual a := by
  rw [Bool.eq_iff_iff, looselyEqual_iff, looselyEqual_iff]
  exact eq_comm

/-- Only a text is loosely equal to a text, and only to the same one. -/
theorem looselyEqual_string_iff (value : Json) (text : String) :
    value.looselyEqual (.string text) = true ↔ value = .string text := by
  cases value <;> simp [looselyEqual, same]

end Json

end RecordFilter
