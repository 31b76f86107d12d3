/-!
# Finite binary64 numbers

A finite number of the format binary64 is a whole multiple of `2 ^ -1074`, its smallest positive
one. A magnitude is therefore a natural number of such units, and rounding, products, quotients and
order are exact arithmetic on natural numbers and integers.

* `gridStep`, `OnGrid` — 53 significant bits: above `2 ^ 53` units only multiples of a power of two
  occur.
* `roundToGrid` — a quotient rounded to the nearest of these, a tie to the even neighbour
  (`onGrid_roundToGrid`).
* `Double` — sign and magnitude; `Double.scaled` is its value in units, which orders doubles.
* `Double.round?` — the double nearest to a quotient of units, if that is finite.
-/

namespace RecordFilter

/-! ## The grid of magnitudes -/

/-- A power of two. -/
def twoTo (k : Nat) : Nat := Nat.pow 2 k

/-- No power of two is zero. -/
theorem twoTo_pos (k : Nat) : 0 < twoTo k := by
  rw [twoTo, Nat.pow_eq]
  exact Nat.two_pow_pos k

/-- Units in the number one: `2 ^ 1074`. -/
def unitsPerOne : Nat := twoTo 1074

/-- The first magnitude beyond the largest finite one. -/
def magnitudeLimit : Nat := twoTo 2098

/-- The distance of neighbouring magnitudes at `n` units: 53 significant bits leave `log2 n - 52`
bits that are zero. -/
def gridStep (n : Nat) : Nat := twoTo (n.log2 - 52)

/-- A magnitude with at most 53 significant bits. -/
def OnGrid (n : Nat) : Prop := gridStep n ∣ n

/-- Whether a magnitude is on the grid is a question of divisibility. -/
instance (n : Nat) : Decidable (OnGrid n) := inferInstanceAs (Decidable (gridStep n ∣ n))

/-- The nearest whole number to a quotient; a tie goes to the even neighbour. -/
def divideToNearest (num den : Nat) : Nat :=
  let whole := num / den
  let twice := 2 * (num % den)
  if twice < den then whole
  else if den < twice then whole + 1
  else if whole % 2 = 0 then whole
  else whole + 1

/-- The magnitude nearest to a quotient of units; a tie goes to the even neighbour. -/
def roundToGrid (num den : Nat) : Nat :=
  let step := gridStep (num / den)
  divideToNearest num (den * step) * step

/-- Rounding a quotient adds at most one to it. -/
theorem divideToNearest_le (num den : Nat) : divideToNearest num den ≤ num / den + 1 := by
  unfold divideToNearest
  dsimp only
  repeat' split
  all_goals omega

/-- **A rounded magnitude has at most 53 significant bits.** Rounding up may reach `2 ^ 53` steps,
which is a single bit. -/
theorem onGrid_roundToGrid (num den : Nat) : OnGrid (roundToGrid num den) := by
  unfold roundToGrid OnGrid
  dsimp only
  generalize hk : (num / den).log2 - 52 = k
  have hstep : gridStep (num / den) = 2 ^ k := by rw [gridStep, hk, twoTo, Nat.pow_eq]
  rw [hstep]
  have hquot : num / (den * 2 ^ k) < 2 ^ 53 := by
    rw [← Nat.div_div_eq_div_mul, Nat.div_lt_iff_lt_mul (Nat.two_pow_pos k), ← Nat.pow_add]
    refine Nat.lt_of_lt_of_le (Nat.lt_log2_self (n := num / den)) ?_
    exact Nat.pow_le_pow_right (by decide) (by omega)
  have hle : divideToNearest num (den * 2 ^ k) ≤ 2 ^ 53 :=
    Nat.le_trans (divideToNearest_le _ _) hquot
  generalize divideToNearest num (den * 2 ^ k) = d at hle
  rcases Nat.lt_or_eq_of_le hle with hlt | rfl
  · by_cases hzero : d * 2 ^ k = 0
    · rw [hzero]; exact Nat.dvd_zero _
    · have hlog : (d * 2 ^ k).log2 < 53 + k := by
        rw [Nat.log2_lt hzero, Nat.pow_add]
        exact Nat.mul_lt_mul_of_pos_right hlt (Nat.two_pow_pos k)
      refine Nat.dvd_trans (Nat.pow_dvd_pow 2 ?_) (Nat.dvd_mul_left (2 ^ k) d)
      omega
  · rw [← Nat.pow_add, gridStep, Nat.log2_two_pow, twoTo, Nat.pow_eq]
    exact Nat.pow_dvd_pow 2 (by omega)

/-- There are finite magnitudes. -/
theorem magnitudeLimit_pos : 0 < magnitudeLimit := twoTo_pos 2098

/-! ## Doubles -/

/-- A finite binary64 number. Zero has two signs. -/
structure Double where
  /-- Whether the sign is minus, for zero too. -/
  negative : Bool
  /-- The magnitude in units of `2 ^ -1074`. -/
  units : Nat
  /-- The magnitude has at most 53 significant bits. -/
  onGrid : OnGrid units
  /-- The magnitude is finite. -/
  finite : units < magnitudeLimit
  deriving DecidableEq

namespace Double

/-- Zero of either sign. -/
def zero (negative : Bool) : Double := ⟨negative, 0, Nat.dvd_zero _, magnitudeLimit_pos⟩

/-- **The double nearest to a quotient of units**, a tie to the even neighbour; none if that would
be infinite. -/
def round? (negative : Bool) (num den : Nat) : Option Double :=
  if h : roundToGrid num den < magnitudeLimit then
    some ⟨negative, roundToGrid num den, onGrid_roundToGrid num den, h⟩
  else none

/-- The value in units of `2 ^ -1074`, exactly. Both zeros have the value zero. -/
def scaled (x : Double) : Int := if x.negative then -(x.units : Int) else x.units

/-- Equality by value: the two zeros are equal. -/
def same (x y : Double) : Bool := x.scaled == y.scaled

end Double

end RecordFilter
