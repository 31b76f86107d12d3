import RecordFilter.Number.Double

/-!
# Shortest decimals

The decimal number with the fewest digits that reads back as a given double.

* `ReadsBack` — the decimals that round to a magnitude: a closed interval where its significand is
  even, an open one where it is odd.
* `shortestDecimal` — the coarsest decimal grid with a point in that interval, and of its points
  there the one nearest to the value, a tie going to the even digit.
-/

namespace RecordFilter

/-- A decimal magnitude: `digits * 10 ^ exponent`. -/
structure Decimal where
  digits : Nat
  exponent : Int
  deriving DecidableEq, Repr

namespace Decimal

/-- Half the distance to the next smaller magnitude, in quarters of a unit. Below a power of two the
grid is twice as fine. -/
def lowerReach (units : Nat) : Nat :=
  let step := gridStep units
  if 1 < step ∧ units = twoTo units.log2 then step else 2 * step

/-- Half the distance to the next larger magnitude, in quarters of a unit. -/
def upperReach (units : Nat) : Nat := 2 * gridStep units

/-- Whether `digits / den` lies among the numbers that round to `units / scale`. -/
def ReadsBack (units scale digits den : Nat) : Bool :=
  let low := (4 * units - lowerReach units) * scale
  let high := (4 * units + upperReach units) * scale
  let point := 4 * digits * den
  if units / gridStep units % 2 = 0 then low ≤ point && point ≤ high
  else low < point && point < high

/-- The point of the grid of multiples of `10 ^ exponent` that stands for a magnitude: of the two
neighbours of its value those that read back, the nearer first. -/
def nearestPoint? (units : Nat) (exponent : Int) : Option Nat :=
  let scale := Nat.pow 10 (-exponent).toNat
  let den := unitsPerOne * Nat.pow 10 exponent.toNat
  let num := units * scale
  let below := num / den
  let twice := 2 * (num % den)
  let belowFirst := twice < den || (twice == den && below % 2 == 0)
  let (near, far) := if belowFirst then (below, below + 1) else (below + 1, below)
  if ReadsBack units scale near den then some near
  else if ReadsBack units scale far den then some far
  else none

/-- The first grid that has a point, from `10 ^ (steps - 324)` downwards. -/
def coarsest (units : Nat) : (steps : Nat) → Decimal
  | 0 => ⟨(nearestPoint? units (-324)).getD 0, -324⟩
  | steps + 1 =>
    let exponent : Int := (steps : Int) + 1 - 324
    match nearestPoint? units exponent with
    | some digits => ⟨digits, exponent⟩
    | none => coarsest units steps

/-- **The fewest digits that read back.** No finite double reaches `10 ^ 309`, and multiples of
`10 ^ -324` tell all doubles apart. -/
def shortest (units : Nat) : Decimal := coarsest units 633

end Decimal

end RecordFilter
