import Mathlib.Logic.Function.Basic
import RecordFilter.Query.Options

/-!
# Options as JSON

Options are written as an object with all six keys. Each is read from what is written like it, and
from nothing else; a map that sets options may also give a single operator literal by itself.

* `Options.value?` — an option as JSON, by its key; `Options.written` — how the value that a map
  gives for it is written.
* `Options.asPluck_eq_ok_iff`, `Options.asOperators_eq_ok_iff` — **values are read from what is
  written like them.**
* `Options.eq_of_value?_eq` — the JSON of options determines them.
-/

namespace RecordFilter.Options

/-- A projection as JSON. -/
def pluckJson : Option Pluck → Json
  | none => .null
  | some (.field path) => .string path
  | some (.fields paths) => stringsJson paths

/-- Operator literals as JSON. -/
def operatorsJson : Option (List String) → Json
  | none => .null
  | some literals => stringsJson literals

/-- The members of options as JSON. -/
def members (o : Options) : Dict Json :=
  [("debug", .bool o.debug), ("default", o.default), ("first", .bool o.first),
    ("op_and", operatorsJson o.opAnd), ("op_or", operatorsJson o.opOr),
    ("pluck", pluckJson o.pluck)]

/-- Options are written as the object of their members. -/
theorem toJson_eq (o : Options) : o.toJson = .object o.members := rfl

/-- The members are written in order. -/
theorem ordered_members (o : Options) : Dict.Ordered o.members := by
  have hkeys : ["debug", "default", "first", "op_and", "op_or", "pluck"].Pairwise (· < ·) := by
    decide
  have hmap : (o.members.map (·.1)).Pairwise (· < ·) := hkeys
  exact List.pairwise_map.1 hmap

/-- Only reserved keys are written. -/
theorem mem_reservedKeys_of_mem_members {o : Options} {entry : String × Json}
    (h : entry ∈ o.members) : entry.1 ∈ reservedKeys := by
  have hkeys : ∀ key ∈ ["debug", "default", "first", "op_and", "op_or", "pluck"],
      key ∈ reservedKeys := by decide
  exact hkeys entry.1 (List.mem_map_of_mem h)

/-- **An option as JSON**, by its key. -/
def value? (o : Options) (key : String) : Option Json := Dict.find? key o.members

/-- A single operator literal is a list of one. -/
def listed : Json → Json
  | .string literal => .array [.string literal]
  | value => value

/-- **How an option is written** that is given as a value. -/
def written (key : String) (value : Json) : Json :=
  if key = "op_and" ∨ key = "op_or" then listed value else value

variable {o : Options} {key : String} {value : Json}

/-- The default is written as it is. -/
@[simp] theorem value?_default : o.value? "default" = some o.default := rfl

/-- Whether only the first match is wanted is written as a boolean. -/
@[simp] theorem value?_first : o.value? "first" = some (.bool o.first) := rfl

/-- Whether to debug is written as a boolean. -/
@[simp] theorem value?_debug : o.value? "debug" = some (.bool o.debug) := rfl

/-- What to pluck is written as a string, a list of strings or `null`. -/
@[simp] theorem value?_pluck : o.value? "pluck" = some (pluckJson o.pluck) := rfl

/-- The conjunctions are written as a list of strings or `null`. -/
@[simp] theorem value?_opAnd : o.value? "op_and" = some (operatorsJson o.opAnd) := rfl

/-- The disjunctions are written as a list of strings or `null`. -/
@[simp] theorem value?_opOr : o.value? "op_or" = some (operatorsJson o.opOr) := rfl

/-- What is shown of each of the six keys holds of all reserved keys. -/
theorem forall_mem_reservedKeys {p : String → Prop} :
    (∀ key ∈ reservedKeys, p key) ↔
      p "default" ∧ p "first" ∧ p "pluck" ∧ p "debug" ∧ p "op_and" ∧ p "op_or" := by
  simp [reservedKeys]

/-- Values other than operators are written as they are given. -/
theorem written_of_ne (hand : key ≠ "op_and") (hor : key ≠ "op_or") : written key = id := by
  funext value
  rw [written, if_neg (by simp [hand, hor])]
  rfl

/-- Conjunctions may be given as one string. -/
theorem written_opAnd : written "op_and" = listed := by
  funext value
  rw [written, if_pos (.inl rfl)]

/-- Disjunctions may be given as one string. -/
theorem written_opOr : written "op_or" = listed := by
  funext value
  rw [written, if_pos (.inr rfl)]

/-! ## Reading what is written -/

/-- Items are read as the strings that they are written for. -/
theorem asStrings_eq_ok_iff {fault : Json → OptionFault} {items : List Json}
    {strings : List String} :
    asStrings fault items = .ok strings ↔ Json.array items = stringsJson strings := by
  rw [stringsJson, Json.array.injEq]
  induction items generalizing strings with
  | nil => cases strings <;> simp [asStrings]
  | cons item rest ih =>
    cases item with
    | string text =>
      cases strings with
      | nil =>
        rw [asStrings]
        cases asStrings fault rest <;> simp [Except.map]
      | cons first others =>
        rw [asStrings, List.map_cons, List.cons.injEq, Json.string.injEq, ← ih]
        cases asStrings fault rest <;> simp [Except.map]
    | null | bool _ | number _ | array _ | object _ => cases strings <;> simp [asStrings]

/-- The strings of a list are read from what is written like them. -/
theorem map_asStrings_eq_ok_iff {α : Type} {fault : Json → OptionFault} {items : List Json}
    {f : List String → α} {a : α} :
    (asStrings fault items).map f = .ok a ↔
      ∃ strings, Json.array items = stringsJson strings ∧ f strings = a := by
  simp only [← @asStrings_eq_ok_iff fault]
  cases asStrings fault items <;> simp [Except.map]

/-- A boolean is read from itself only. -/
theorem asBool_eq_ok_iff {b : Bool} : asBool key value = .ok b ↔ value = .bool b := by
  cases value <;> simp [asBool]

/-- **A projection is read from what is written like it.** -/
theorem asPluck_eq_ok_iff {p : Option Pluck} : asPluck value = .ok p ↔ value = pluckJson p := by
  cases value with
  | array items =>
    rw [asPluck, map_asStrings_eq_ok_iff]
    rcases p with _ | _ | paths <;> simp [pluckJson]
  | null | bool _ | number _ | string _ | object _ =>
    rcases p with _ | _ | _ <;> simp [asPluck, pluckJson, stringsJson, eq_comm]

/-- **Operator literals are read from what is written like them.** -/
theorem asOperators_eq_ok_iff {literals : Option (List String)} :
    asOperators key value = .ok literals ↔ listed value = operatorsJson literals := by
  cases value with
  | array items =>
    rw [asOperators, map_asStrings_eq_ok_iff]
    cases literals <;> simp [listed, operatorsJson]
  | null | bool _ | number _ | string _ | object _ =>
    cases literals <;> simp [asOperators, operatorsJson, listed, stringsJson, eq_comm]

/-- Written operators are listed already. -/
theorem listed_operatorsJson (literals : Option (List String)) :
    listed (operatorsJson literals) = operatorsJson literals := by
  cases literals <;> rfl

/-- What to pluck can be told from how it is written. -/
theorem pluckJson_injective : Function.Injective pluckJson := by
  intro p q h
  have hp : asPluck (pluckJson p) = .ok p := asPluck_eq_ok_iff.2 rfl
  exact Except.ok.inj (hp.symm.trans (asPluck_eq_ok_iff.2 h))

/-- Operators can be told from how they are written. -/
theorem operatorsJson_injective : Function.Injective operatorsJson := by
  intro xs ys h
  have hxs : asOperators "op_and" (operatorsJson xs) = .ok xs :=
    asOperators_eq_ok_iff.2 (listed_operatorsJson xs)
  exact Except.ok.inj (hxs.symm.trans (asOperators_eq_ok_iff.2 ((listed_operatorsJson xs).trans h)))

/-- An option is written as it is. -/
theorem written_of_value?_eq :
    ∀ key ∈ reservedKeys, ∀ value, o.value? key = some value → written key value = value := by
  rw [forall_mem_reservedKeys]
  refine ⟨fun _ _ => rfl, fun _ _ => rfl, fun _ _ => rfl, fun _ _ => rfl, ?_, ?_⟩
  · rintro value ⟨⟩
    exact listed_operatorsJson o.opAnd
  · rintro value ⟨⟩
    exact listed_operatorsJson o.opOr

/-- **The JSON of options determines them.** -/
theorem eq_of_value?_eq {o o' : Options} (h : ∀ key ∈ reservedKeys, o.value? key = o'.value? key) :
    o = o' := by
  rw [forall_mem_reservedKeys] at h
  simp only [value?_default, value?_first, value?_pluck, value?_debug, value?_opAnd, value?_opOr,
    Option.some.injEq, Json.bool.injEq] at h
  obtain ⟨hdefault, hfirst, hpluck, hdebug, hand, hor⟩ := h
  cases o
  cases o'
  rw [Options.mk.injEq]
  exact ⟨hdefault, hfirst, pluckJson_injective hpluck, hdebug, operatorsJson_injective hand,
    operatorsJson_injective hor⟩

end RecordFilter.Options
