import RecordFilter.Dict
import RecordFilter.Number.Basic

/-!
# JSON values

The values of records, arguments, bindings and options.

* `Json` — a value; an object is a dictionary, so its members are in key order.
* `Json.same` — plain equality, which tells whole numbers from doubles but not the two zeros.
* `Json.asBool?`, `Json.asString?`, `Json.number?`, `Json.isObject` — views of single kinds.
-/

namespace RecordFilter

/-- A JSON value. -/
inductive Json where
  | null
  | bool (value : Bool)
  | number (value : Number)
  | string (value : String)
  | array (items : List Json)
  /-- The members in ascending key order. -/
  | object (members : List (String × Json))

namespace Json

/-- The value that stands in where there is none is `null`. -/
instance : Inhabited Json := ⟨null⟩

/-- A whole number. -/
def ofInt (n : Int) : Json := .number (.integer n)

/-! ## Equality -/

mutual

/-- **Plain equality**: the same kind and equal contents; numbers as `Number.same` has it. -/
def same : Json → Json → Bool
  | .null, .null => true
  | .bool a, .bool b => a == b
  | .number a, .number b => a.same b
  | .string a, .string b => a == b
  | .array a, .array b => sameItems a b
  | .object a, .object b => sameMembers a b
  | _, _ => false

/-- Equality of arrays, item by item. -/
def sameItems : List Json → List Json → Bool
  | [], [] => true
  | a :: as, b :: bs => same a b && sameItems as bs
  | _, _ => false

/-- Equality of objects, member by member. -/
def sameMembers : List (String × Json) → List (String × Json) → Bool
  | [], [] => true
  | (k, a) :: as, (l, b) :: bs => k == l && same a b && sameMembers as bs
  | _, _ => false

end

/-! ## Views -/

/-- The truth value, if it is one. -/
def asBool? : Json → Option Bool
  | .bool b => some b
  | _ => none

/-- The string, if it is one. -/
def asString? : Json → Option String
  | .string s => some s
  | _ => none

/-- The number, if it is one. -/
def number? : Json → Option Number
  | .number n => some n
  | _ => none

/-- Whether a value is an object. -/
def isObject : Json → Bool
  | .object _ => true
  | _ => false

end Json

end RecordFilter
