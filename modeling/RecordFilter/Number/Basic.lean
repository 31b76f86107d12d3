import RecordFilter.Number.Shortest

/-!
# Numbers

A number is a whole number of 64 bits, signed or unsigned, or a double. The two kinds stay apart:
`1` and `1.0` are different values, though they compare alike.

* `Number.scaled` — the value as a double, which is what comparisons look at: whole numbers beyond
  `2 ^ 53` are rounded.
* `Number.same` — plain equality: of one kind, and equal.
* `Number.text` — the text of a number: fewest digits, positional from `1e-5` to below `1e16`.
-/

namespace RecordFilter

/-- A number of a record, an argument or an option. -/
inductive Number where
  /-- A whole number that fits 64 bits, signed or unsigned. -/
  | integer (value : Int)
  /-- Any other number. -/
  | double (value : Double)
  deriving DecidableEq

/-! ## The text of a number -/

namespace Decimal

/-- **The notation of decimals**: positional while the leading digit stands for `10 ^ -5` to
`10 ^ 15`, with `.0` after whole numbers; else scientific, where a positive exponent shows its
sign. -/
def text (d : Decimal) : String :=
  let digits := toString d.digits
  let leading : Int := d.exponent + digits.length - 1
  if -5 ≤ leading ∧ leading < 16 then
    if 0 ≤ d.exponent then digits ++ "".pushn '0' d.exponent.toNat ++ ".0"
    else if 0 ≤ leading then
      let whole := leading.toNat + 1
      String.ofList (digits.toList.take whole) ++ "." ++ String.ofList (digits.toList.drop whole)
    else "0." ++ "".pushn '0' (-leading - 1).toNat ++ digits
  else
    let fraction := String.ofList (digits.toList.drop 1)
    String.ofList (digits.toList.take 1) ++ (if fraction.isEmpty then "" else "." ++ fraction) ++
      "e" ++ (if 0 < leading then "+" else "") ++ toString leading

end Decimal

namespace Double

/-- The text of a double; zero has its sign and one decimal. -/
def text (x : Double) : String :=
  (if x.negative then "-" else "") ++
    if x.units = 0 then "0.0" else (Decimal.shortest x.units).text

end Double

namespace Number

/-- The text of a number. -/
def text : Number → String
  | .integer value => toString value
  | .double value => value.text

/-! ## Values -/

/-- The value of a whole number as a double, in units of `2 ^ -1074`. -/
def scaledInt (n : Int) : Int := n.sign * roundToGrid (n.natAbs * unitsPerOne) 1

/-- **What comparisons see**: the value as a double. -/
def scaled : Number → Int
  | .integer value => scaledInt value
  | .double value => value.scaled

/-- Plain equality: two whole numbers or two doubles of one value. -/
def same : Number → Number → Bool
  | .integer a, .integer b => a == b
  | .double a, .double b => a.same b
  | _, _ => false

/-- Equality by value, whatever the kinds. -/
def equalValue (a b : Number) : Bool := a.scaled == b.scaled

end Number

end RecordFilter
