import RecordFilter.Proofs.Options.Overriding

/-!
# Two ways of reading options

Options are read from an object of their own, or from a map that holds named bindings beside them.
What the first way accepts as options that keep their rules, the second way takes alike; and both
read back the object that options are written as.

* `Options.ofMembers?_eq_some_iff` — **which options are read from members**: those that are written
  like the members, and otherwise as the defaults are.
* `Options.ofJson?_toJson` — options are read back from what they are written as.
* `Options.split_of_read` — a map takes options that are read from it.
-/

namespace RecordFilter.Options

/-! ## Single options -/

/-- A boolean option from the value found for it. -/
def readBool? : Option Json → Option Bool
  | none => some false
  | some value => value.asBool?

/-- Operator literals from the value found for them. -/
def readOperators? : Option Json → Option (Option (List String))
  | none | some .null => some none
  | some value => (strings? value).map some

/-- A projection from the value found for it. -/
def readPluck? : Option Json → Option (Option Pluck)
  | none | some .null => some none
  | some (.string path) => some (some (Pluck.field path))
  | some value => (strings? value).map fun paths => some (Pluck.fields paths)

/-- Options are read from members one option after the other. -/
theorem ofMembers?_eq (members : Dict Json) :
    ofMembers? members = (do
      let pluck ← readPluck? (Dict.find? "pluck" members)
      let first ← readBool? (Dict.find? "first" members)
      let debug ← readBool? (Dict.find? "debug" members)
      let opAnd ← readOperators? (Dict.find? "op_and" members)
      let opOr ← readOperators? (Dict.find? "op_or" members)
      return ⟨(Dict.find? "default" members).getD .null, first, pluck, debug, opAnd, opOr⟩) := by
  unfold ofMembers?
  cases Dict.find? "pluck" members with
  | none => rfl
  | some value => cases value <;> rfl

/-! ### Values that are found -/

variable {found : Option Json}

/-- The default is any value, `null` if there is none. -/
theorem readDefault_eq_iff {value : Json} :
    found.getD .null = value ↔ some value = found.or (some .null) := by
  cases found <;> simp [eq_comm]

/-- A flag is read from what it is written as, `false` if there is none. -/
theorem readBool?_eq_some_iff {b : Bool} :
    readBool? found = some b ↔ some (.bool b) = found.or (some (.bool false)) := by
  cases found with
  | none => simp [readBool?, eq_comm]
  | some value => cases value <;> simp [readBool?, Json.asBool?, eq_comm]

/-- A list of strings is read from what it is written as. -/
theorem strings?_eq_some_iff {value : Json} {strings : List String} :
    strings? value = some strings ↔ value = stringsJson strings := by
  cases value with
  | array items =>
    rw [stringsJson, Json.array.injEq]
    show items.mapM Json.asString? = some strings ↔ _
    induction items generalizing strings with
    | nil => cases strings <;> simp
    | cons item rest ih =>
      rw [List.mapM_cons]
      cases item with
      | string text =>
        cases strings <;> simp [Json.asString?, Option.bind_eq_some_iff, ih, and_comm]
      | null | bool _ | number _ | array _ | object _ =>
        cases strings <;> simp [Json.asString?]
  | null | bool _ | number _ | string _ | object _ => simp [strings?, stringsJson]

/-- Operators are read from what they are written as, none from `null` or nothing. -/
theorem readOperators?_eq_some_iff {literals : Option (List String)} :
    readOperators? found = some literals ↔
      some (operatorsJson literals) = found.or (some .null) := by
  cases found with
  | none => cases literals <;> simp [readOperators?, operatorsJson, stringsJson]
  | some value =>
    rw [Option.some_or, Option.some.injEq, eq_comm (a := operatorsJson literals)]
    cases value with
    | null => cases literals <;> simp [readOperators?, operatorsJson, stringsJson]
    | bool _ | number _ | string _ | array _ | object _ =>
      simp only [readOperators?, Option.map_eq_some_iff, strings?_eq_some_iff]
      cases literals <;> simp [operatorsJson]

/-- What to pluck is read from what it is written as, none from `null` or nothing. -/
theorem readPluck?_eq_some_iff {p : Option Pluck} :
    readPluck? found = some p ↔ some (pluckJson p) = found.or (some .null) := by
  cases found with
  | none => rcases p with _ | _ | _ <;> simp [readPluck?, pluckJson, stringsJson]
  | some value =>
    rw [Option.some_or, Option.some.injEq, eq_comm (a := pluckJson p)]
    cases value with
    | null => rcases p with _ | _ | _ <;> simp [readPluck?, pluckJson, stringsJson]
    | string path => rcases p with _ | _ | _ <;> simp [readPluck?, pluckJson, stringsJson]
    | bool _ | number _ | array _ | object _ =>
      simp only [readPluck?, Option.map_eq_some_iff, strings?_eq_some_iff]
      rcases p with _ | _ | _ <;> simp [pluckJson]

/-! ## All options -/

variable {members : Dict Json} {o : Options}

/-- **Which options are read from members**: where there is a member the option is written like it,
else it is the default. -/
theorem ofMembers?_eq_some_iff :
    ofMembers? members = some o ↔ ∀ key ∈ reservedKeys,
      o.value? key = (Dict.find? key members).or (({} : Options).value? key) := by
  rw [ofMembers?_eq, forall_mem_reservedKeys]
  simp only [Option.bind_eq_bind, Option.bind_eq_some_iff, readBool?_eq_some_iff,
    readOperators?_eq_some_iff, readPluck?_eq_some_iff]
  constructor
  · rintro ⟨pluck, hpluck, first, hfirst, debug, hdebug, opAnd, hand, opOr, hor, heq⟩
    obtain rfl := Option.some.inj heq
    exact ⟨readDefault_eq_iff.1 rfl, hfirst, hpluck, hdebug, hand, hor⟩
  · rintro ⟨hdefault, hfirst, hpluck, hdebug, hand, hor⟩
    refine ⟨o.pluck, hpluck, o.first, hfirst, o.debug, hdebug, o.opAnd, hand, o.opOr, hor, ?_⟩
    rw [readDefault_eq_iff.2 hdefault]
    rfl

/-- **Options are read back from what they are written as.** -/
theorem ofJson?_toJson (o : Options) : ofJson? o.toJson = some o := by
  show ofMembers? o.members = some o
  refine ofMembers?_eq_some_iff.2 ?_
  rw [forall_mem_reservedKeys]
  exact ⟨rfl, rfl, rfl, rfl, rfl, rfl⟩

/-- Options that are read from members override the defaults with them. -/
theorem overridden_of_ofMembers? (h : ofMembers? members = some o) :
    Overridden {} members o where
  kept key hkey hfind := by
    rw [ofMembers?_eq_some_iff.1 h key hkey, hfind, Option.none_or]
  set key hkey value hfind := by
    have hvalue : o.value? key = some value := by
      rw [ofMembers?_eq_some_iff.1 h key hkey, hfind, Option.some_or]
    rw [hvalue, written_of_value?_eq key hkey value hvalue]

/-- A map with keys of options only binds no names. -/
theorem filter_eq_nil_of_reserved (h : ∀ entry ∈ members, entry.1 ∈ reservedKeys) :
    (members.filter fun entry => entry.1 ∉ reservedKeys) = [] := by
  refine List.filter_eq_nil_iff.2 fun entry hentry => ?_
  simpa using h entry hentry

/-- A map takes options that are read from it. -/
theorem split_of_ofJson? (hmembers : Dict.Ordered members)
    (hkeys : ∀ entry ∈ members, entry.1 ∈ reservedKeys) (h : ofJson? (.object members) = some o)
    (hvalid : o.validate = .ok ()) : split members = .ok (o, []) := by
  have hmerge : ({} : Options).merge members = (o, .ok []) :=
    (merge_eq_ok_iff hmembers).2
      ⟨overridden_of_ofMembers? h, hvalid, (filter_eq_nil_of_reserved hkeys).symm⟩
  rw [split, hmerge]

/-- **The two ways of reading options agree.** Options that are read from an object with no keys but
theirs, and that keep their rules, are what a map with these members sets, with no name bound. So
options that keep their rules are read back from what they are written as in this way, too. -/
theorem split_of_read :
    (∀ (members : Dict Json) (o : Options), Dict.Ordered members →
      (∀ entry ∈ members, entry.1 ∈ reservedKeys) → ofJson? (.object members) = some o →
      o.validate = .ok () → split members = .ok (o, [])) ∧
    ∀ o : Options, o.validate = .ok () →
      ∃ members, o.toJson = .object members ∧ split members = .ok (o, []) := by
  refine ⟨fun members o => split_of_ofJson?, fun o hvalid => ⟨o.members, toJson_eq o, ?_⟩⟩
  exact split_of_ofJson? o.ordered_members (fun _ => mem_reservedKeys_of_mem_members)
    (ofJson?_toJson o) hvalid

/-- Members with a null, a text and a list of texts. -/
def sampleMembers : Dict Json :=
  [("first", .bool true), ("op_and", .null), ("op_or", .array [.string "+", .string "or"]),
    ("pluck", .string "id")]

/-- The options that are read from them. -/
def sampleOptions : Options :=
  { first := true, opOr := some ["+", "or"], pluck := some (.field "id") }

/-- The case of an object with all its members among the reserved ones. -/
theorem split_of_read_sample :
    Dict.Ordered sampleMembers ∧ (∀ entry ∈ sampleMembers, entry.1 ∈ reservedKeys) ∧
      ofJson? (.object sampleMembers) = some sampleOptions ∧ sampleOptions.validate = .ok () ∧
      split sampleMembers = .ok (sampleOptions, []) ∧
      ∃ members, sampleOptions.toJson = .object members ∧
        split members = .ok (sampleOptions, []) := by
  have hordered : Dict.Ordered sampleMembers := by
    unfold sampleMembers Dict.Ordered
    decide
  have hkeys : ∀ entry ∈ sampleMembers, entry.1 ∈ reservedKeys := by
    simp [sampleMembers, reservedKeys]
  have hread : ofJson? (.object sampleMembers) = some sampleOptions := rfl
  have hvalid : sampleOptions.validate = .ok () := rfl
  exact ⟨hordered, hkeys, hread, hvalid,
    split_of_read.1 sampleMembers sampleOptions hordered hkeys hread hvalid,
    split_of_read.2 sampleOptions hvalid⟩

end RecordFilter.Options
