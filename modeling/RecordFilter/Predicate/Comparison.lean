import RecordFilter.Json.Printer
import RecordFilter.Predicate.Registry

/-!
# Comparison predicates

Predicates that compare the tested value with their arguments.

* `Json.looselyEqual`, `Json.order?` — equality that ignores how a number is represented, and the
  order of two numbers or two strings.
* `argument` — a required argument.
* `equals`, `differs`, `compares`, `between` — equality and order.
* `isIn`, `contains`, `startsWith`, `endsWith` — membership and parts of strings.
* `defined`, `isNone`, `truthy` — tests without arguments.
-/

namespace RecordFilter

/-! ## Equality and order of values -/

/-- **Loose equality**: numbers by value as doubles, everything else by plain equality. -/
def Json.looselyEqual (a b : Json) : Bool :=
  match a, b with
  | .number x, .number y => x.equalValue y
  | _, _ => a.same b

/-- **The order of two values**: numbers by value as doubles, strings by code points; other values
have none. -/
def Json.order? (a b : Json) : Option Ordering :=
  match a, b with
  | .number x, .number y => some (compare x.scaled y.scaled)
  | .string s, .string t => some (compare s t)
  | _, _ => none

namespace Standard

/-- The argument at an index, or the complaint of a predicate that it is missing. -/
def argument (args : List Json) (index : Nat) (predicate : String) : Except PredicateFault Json :=
  match args[index]? with
  | some value => .ok value
  | none =>
    .error (.failed (predicate ++ " expects at least " ++ toString (index + 1) ++ " argument(s)"))

/-! ## Equality and order -/

/-- The value is present and loosely equal to the argument. -/
def equals : Predicate := fun value args _ => do
  let expected ← argument args 0 "equals"
  return value.any fun v => v.looselyEqual expected

/-- The opposite of `equals`; it holds of a missing value. -/
def differs : Predicate := fun value args kwargs => do
  let equal ← equals value args kwargs
  return !equal

/-- The value is present and stands in an accepted order to the argument. -/
def compares (accept : Ordering → Bool) : Predicate := fun value args _ => do
  let bound ← argument args 0 "comparison"
  return (value.bind fun v => v.order? bound).any accept

/-- A keyword argument that is a boolean. -/
def flag (kwargs : Dict Json) (key : String) (absent : Bool) : Bool :=
  ((Dict.find? key kwargs).bind Json.asBool?).getD absent

/-- A flag that is set where it is absent is cleared by `false` only. -/
theorem flag_of_ne {kwargs : Dict Json} {key : String}
    (h : Dict.find? key kwargs ≠ some (.bool false)) : flag kwargs key true = true := by
  unfold flag
  cases hfind : Dict.find? key kwargs with
  | none => rfl
  | some value =>
    rw [hfind] at h
    cases value with
    | bool b =>
      cases b with
      | true => rfl
      | false => exact absurd rfl h
    | null | number | string | array | object => rfl

/-- The value lies between two arguments, bounds included unless `inclusive` is false. -/
def between : Predicate := fun value args kwargs => do
  let low ← argument args 0 "between"
  let high ← argument args 1 "between"
  let inclusive := flag kwargs "inclusive" true
  return match value.bind fun v => (v.order? low).bind fun l => (v.order? high).map (l, ·) with
    | none => false
    | some (l, h) => if inclusive then l != .lt && h != .gt else l == .gt && h == .lt

/-! ## Membership -/

/-- The value is an item of an array argument, a part of a string argument, or one of the arguments
when the first is neither. -/
def isIn : Predicate := fun value args _ =>
  match value with
  | none => .ok false
  | some v => do
    match ← argument args 0 "in" with
    | .array items => return items.any v.looselyEqual
    | .string text => return v.asString?.any (Text.contains text)
    | _ => return args.any v.looselyEqual

/-- The argument is an item of an array, a part of a string or a key of an object. -/
def contains : Predicate := fun value args _ => do
  let needle ← argument args 0 "contains"
  return match value with
    | some (.array items) => items.any fun item => item.looselyEqual needle
    | some (.string text) => needle.asString?.any (Text.contains text)
    | some (.object members) => needle.asString?.any fun key => Dict.contains key members
    | _ => false

/-- Value and argument are strings, and the value starts with the argument. -/
def startsWith : Predicate := fun value args _ => do
  let start ← argument args 0 "startswith"
  return match value, start with
    | some (.string text), .string part => Text.startsWith text part
    | _, _ => false

/-- Value and argument are strings, and the value ends with the argument. -/
def endsWith : Predicate := fun value args _ => do
  let ending ← argument args 0 "endswith"
  return match value, ending with
    | some (.string text), .string part => Text.endsWith text part
    | _, _ => false

/-! ## Tests without arguments -/

/-- The record has the attribute. -/
def defined : Predicate := fun value _ _ => .ok value.isSome

/-- The value is null. -/
def isNone : Predicate := fun value _ _ =>
  .ok (match value with
    | some .null => true
    | _ => false)

/-- Neither null, false, zero nor empty. -/
def isTruthy : Json → Bool
  | .null => false
  | .bool b => b
  | .number n => n.scaled != 0
  | .string text => !text.isEmpty
  | .array items => !items.isEmpty
  | .object members => !members.isEmpty

/-- The value is present and truthy. -/
def truthy : Predicate := fun value _ _ => .ok (value.any isTruthy)

end Standard

end RecordFilter
