import RecordFilter.Predicate.Standard

/-!
# Registered predicates

What a registry has under a name after predicates were registered one after the other.

* `Registry.find?_insert` — an inserted predicate is found under its name, and changes no other.
* `Registry.find?_insertAll` — of distinct names each has its predicate.
* `Standard.callWith_of_mem`, `Standard.call_of_mem` — **calls of the standard predicates by name**,
  over any engine of regular expressions and over the one at hand.
-/

namespace RecordFilter

namespace Registry

/-! ## Entries -/

/-- A name is found at the first entry or in the rest. -/
theorem find?_mk_cons (entry : PredicateName × Predicate) (rest : List (PredicateName × Predicate))
    (name : PredicateName) :
    find? ⟨entry :: rest⟩ name = if entry.1 = name then some entry.2 else find? ⟨rest⟩ name := by
  unfold find?
  rw [List.find?_cons]
  by_cases h : entry.1 = name <;> simp [h]

/-- An inserted predicate is found under its name; under other names nothing changes. -/
theorem find?_insert (r : Registry) (name : PredicateName) (predicate : Predicate)
    (other : PredicateName) :
    (r.insert name predicate).find? other =
      if name = other then some predicate else r.find? other := by
  obtain ⟨entries⟩ := r
  show find? ⟨insertEntry name predicate entries⟩ other = _
  induction entries with
  | nil => exact find?_mk_cons (name, predicate) [] other
  | cons entry rest ih =>
    unfold insertEntry
    split
    next hname =>
      rw [find?_mk_cons, find?_mk_cons, ← hname]
      split <;> rfl
    next hname =>
      split
      · exact find?_mk_cons (name, predicate) (entry :: rest) other
      · rw [find?_mk_cons, find?_mk_cons, ih]
        by_cases hentry : entry.1 = other
        · rw [if_pos hentry, if_pos hentry, if_neg fun h => hname (h.trans hentry.symm)]
        · rw [if_neg hentry, if_neg hentry]

/-! ## Several insertions -/

variable {name : PredicateName} {predicate : Predicate}

/-- A registry with several predicates inserted in order. -/
def insertAll (r : Registry) (entries : List (PredicateName × Predicate)) : Registry :=
  entries.foldl (fun r entry => r.insert entry.1 entry.2) r

/-- Entries with other names do not change what is found. -/
theorem find?_insertAll_of_not_mem {entries : List (PredicateName × Predicate)}
    (h : name ∉ entries.map (·.1)) (r : Registry) :
    (r.insertAll entries).find? name = r.find? name := by
  induction entries generalizing r with
  | nil => rfl
  | cons entry rest ih =>
    rw [List.map_cons, List.mem_cons, not_or] at h
    have hrest := ih h.2 (r.insert entry.1 entry.2)
    rw [find?_insert, if_neg (Ne.symm h.1)] at hrest
    exact hrest

/-- **Of distinct names each has its predicate.** -/
theorem find?_insertAll {entries : List (PredicateName × Predicate)}
    (hnames : (entries.map (·.1)).Nodup) (h : (name, predicate) ∈ entries) (r : Registry) :
    (r.insertAll entries).find? name = some predicate := by
  induction entries generalizing r with
  | nil => cases h
  | cons entry rest ih =>
    rw [List.map_cons, List.nodup_cons] at hnames
    rcases List.mem_cons.1 h with heq | hmem
    · subst heq
      have hlater := find?_insertAll_of_not_mem hnames.1 (r.insert name predicate)
      rw [find?_insert, if_pos rfl] at hlater
      exact hlater
    · exact ih hnames.2 hmem (r.insert entry.1 entry.2)

end Registry

namespace Standard

/-! ## The standard predicates -/

section

open RecordFilter.Pattern

variable (engine : Engine)

/-- The standard predicates have distinct names, which do not depend on the engine of patterns. -/
theorem nodup_names : ((entriesWith engine).map (·.1)).Nodup := by
  have hnames : (entriesWith engine).map (·.1) = (entriesWith Regex.engine).map (·.1) := rfl
  rw [hnames]
  decide +kernel

variable {name : PredicateName} {predicate : Predicate}

/-- Every standard predicate is found under its name. -/
theorem find?_of_mem (h : (name, predicate) ∈ entriesWith engine) :
    (registryWith engine).find? name = some predicate :=
  Registry.find?_insertAll (nodup_names engine) h Registry.empty

/-- A standard predicate is called under its name, which its complaint carries. -/
theorem invoke_of_mem (h : (name, predicate) ∈ entriesWith engine) (value : Option Json)
    (args : List Json) (kwargs : Dict Json) :
    (registryWith engine).invoke name value args kwargs =
      (predicate value args kwargs).mapError (.predicate name) := by
  rw [Registry.invoke, Registry.resolve, find?_of_mem engine h]

/-- A call of a test on a value that may be missing, over an engine of regular expressions. -/
def callWith (leaf : String) (value : Option Json) (args : List Json) (kwargs : Dict Json) :
    Except Error Bool :=
  (registryWith engine).invoke ⟨"builtin", "tests", leaf⟩ value args kwargs

/-- **A call of a test by its name** is a call of its predicate, over any engine. -/
theorem callWith_of_mem {leaf : String} (h : (leaf, predicate) ∈ testsWith engine)
    (value : Option Json) (args : List Json) (kwargs : Dict Json) :
    callWith engine leaf value args kwargs =
      (predicate value args kwargs).mapError (.predicate ⟨"builtin", "tests", leaf⟩) :=
  invoke_of_mem engine (List.mem_append_left _ (List.mem_map.2 ⟨_, h, rfl⟩)) value args kwargs

end

/-- A call of a test on a value that may be missing. -/
def call (leaf : String) (value : Option Json) (args : List Json) (kwargs : Dict Json) :
    Except Error Bool :=
  registry.invoke ⟨"builtin", "tests", leaf⟩ value args kwargs

/-- A call of a test on a value. -/
def test (leaf : String) (value : Json) (args : List Json) (kwargs : Dict Json) :
    Except Error Bool :=
  registry.invoke ⟨"builtin", "tests", leaf⟩ (some value) args kwargs

/-- A value is a value that is not missing. -/
theorem test_eq_call (leaf : String) (value : Json) (args : List Json) (kwargs : Dict Json) :
    test leaf value args kwargs = call leaf (some value) args kwargs := rfl

/-- A call of `x.between` on a value. -/
def testBetween (value : Json) (args : List Json) (kwargs : Dict Json) : Except Error Bool :=
  registry.invoke ⟨"sift", "extra", "between"⟩ (some value) args kwargs

variable {leaf : String} {predicate : Predicate}

/-- **A call of a test by its name** is a call of its predicate. -/
theorem call_of_mem (h : (leaf, predicate) ∈ tests)
    (value : Option Json) (args : List Json) (kwargs : Dict Json) :
    call leaf value args kwargs =
      (predicate value args kwargs).mapError (.predicate ⟨"builtin", "tests", leaf⟩) :=
  callWith_of_mem Pattern.Regex.engine h value args kwargs

/-- A call of a test by its name, on a value that is there. -/
theorem test_of_mem (h : (leaf, predicate) ∈ tests)
    (value : Json) (args : List Json) (kwargs : Dict Json) :
    test leaf value args kwargs =
      (predicate (some value) args kwargs).mapError (.predicate ⟨"builtin", "tests", leaf⟩) :=
  call_of_mem h (some value) args kwargs

end Standard

end RecordFilter
