import Mathlib.Data.Set.Function
import Mathlib.Order.Interval.Set.Basic
import Mathlib.Tactic
import RecordFilter.Number.Basic

/-!
# Rounding whole numbers

Comparisons see a whole number as the nearest double. Rounding never reverses an order, and it keeps
numbers of at most 53 significant bits, so all numbers up to `2 ^ 53`; from there on neighbours
coincide.

* `roundToGrid_mono`, `roundToGrid_of_onGrid` — rounding keeps the order, and what is on the grid.
* `Number.scaledInt_mono`, `Number.scaledInt_of_onGrid` — the same of signed whole numbers.
* `Number.scaledInt_injOn` — numbers up to `2 ^ 53` are told apart.
* `Number.scaledInt_eq_iff` — **a number below `2 ^ 53` is told apart from all others**.
* `Number.scaledInt_succ` — `2 ^ 53` and its successor are one double.
-/

namespace RecordFilter

/-! ## The nearest whole number -/

/-- A quotient is never rounded below its whole part. -/
theorem le_divideToNearest (num den : Nat) : num / den ≤ divideToNearest num den := by
  unfold divideToNearest
  dsimp only
  repeat' split
  all_goals omega

/-- A whole quotient is its own nearest whole number. -/
theorem divideToNearest_mul {den : Nat} (hden : 0 < den) (k : Nat) :
    divideToNearest (k * den) den = k := by
  unfold divideToNearest
  dsimp only
  rw [Nat.mul_mod_left, Nat.mul_div_cancel k hden, Nat.mul_zero, if_pos hden]

/-- **The nearest whole numbers are ordered as the quotients are.** -/
theorem divideToNearest_mono (den : Nat) {a b : Nat} (h : a ≤ b) :
    divideToNearest a den ≤ divideToNearest b den := by
  have hquot : a / den ≤ b / den := Nat.div_le_div_right h
  rcases Nat.lt_or_eq_of_le hquot with hlt | heq
  · calc divideToNearest a den ≤ a / den + 1 := divideToNearest_le a den
      _ ≤ b / den := hlt
      _ ≤ divideToNearest b den := le_divideToNearest b den
  · -- of two numerators with one quotient the larger has the larger remainder
    have hrem : a % den ≤ b % den := by
      have ha := Nat.div_add_mod a den
      have hb := Nat.div_add_mod b den
      rw [heq] at ha
      omega
    unfold divideToNearest
    dsimp only
    rw [heq]
    repeat' split
    all_goals omega

/-! ## The grid -/

/-- The step of the grid doubles with every bit beyond the 53rd. -/
theorem gridStep_eq (n : Nat) : gridStep n = 2 ^ (n.log2 - 52) := by
  rw [gridStep, twoTo, Nat.pow_eq]

/-- The step is not zero: grid points are apart. -/
theorem gridStep_pos (n : Nat) : 0 < gridStep n := twoTo_pos _

/-- Rounding to the grid counts steps to the nearest. -/
theorem roundToGrid_one (n : Nat) :
    roundToGrid n 1 = divideToNearest n (gridStep n) * gridStep n := by
  unfold roundToGrid
  simp only [Nat.div_one, Nat.one_mul]

/-- **What is on the grid is not rounded.** -/
theorem roundToGrid_of_onGrid {n : Nat} (h : OnGrid n) : roundToGrid n 1 = n := by
  obtain ⟨k, hk⟩ := h
  have hexact : divideToNearest n (gridStep n) = k := by
    have hmul := divideToNearest_mul (gridStep_pos n) k
    rwa [Nat.mul_comm, ← hk] at hmul
  rw [roundToGrid_one, hexact, Nat.mul_comm, ← hk]

/-- Up to `2 ^ 53` all numbers are on the grid. -/
theorem onGrid_of_le {n : Nat} (h : n ≤ 2 ^ 53) : OnGrid n := by
  rcases Nat.lt_or_eq_of_le h with hlt | rfl
  · have hstep : gridStep n = 1 := by
      by_cases hzero : n = 0
      · subst hzero
        rfl
      · have hlog : n.log2 < 53 := (Nat.log2_lt hzero).2 hlt
        have hbits : n.log2 - 52 = 0 := by omega
        simp [gridStep_eq, hbits]
    rw [OnGrid, hstep]
    exact Nat.one_dvd n
  · decide

/-- Shifting by some bits adds their number to the logarithm. -/
theorem log2_mul_two_pow {n : Nat} (h : n ≠ 0) (k : Nat) : (n * 2 ^ k).log2 = n.log2 + k := by
  have hpos : 0 < 2 ^ k := Nat.two_pow_pos k
  have hne : n * 2 ^ k ≠ 0 := Nat.mul_ne_zero h (Nat.ne_of_gt hpos)
  apply (Nat.log2_eq_iff hne).2
  constructor
  · rw [Nat.pow_add]
    exact Nat.mul_le_mul_right _ (Nat.log2_self_le h)
  · rw [Nat.add_right_comm, Nat.pow_add]
    exact Nat.mul_lt_mul_of_pos_right Nat.lt_log2_self hpos

/-- Scaling by a power of two stays on the grid. -/
theorem onGrid_mul_twoTo {n : Nat} (h : OnGrid n) (k : Nat) : OnGrid (n * twoTo k) := by
  rw [twoTo, Nat.pow_eq]
  by_cases hzero : n = 0
  · rw [hzero, Nat.zero_mul]
    exact Nat.dvd_zero _
  rw [OnGrid, gridStep_eq] at h
  rw [OnGrid, gridStep_eq, log2_mul_two_pow hzero]
  apply Nat.dvd_trans (Nat.pow_dvd_pow 2 (by omega : n.log2 + k - 52 ≤ n.log2 - 52 + k))
  rw [Nat.pow_add]
  exact Nat.mul_dvd_mul h (Nat.dvd_refl _)

/-- A power of two at least as large as the step is a whole number of steps. -/
theorem divideToNearest_two_pow {k e : Nat} (h : k ≤ e) :
    divideToNearest (2 ^ e) (2 ^ k) * 2 ^ k = 2 ^ e := by
  have hsplit : 2 ^ e = 2 ^ (e - k) * 2 ^ k := by rw [← Nat.pow_add, Nat.sub_add_cancel h]
  rw [hsplit, divideToNearest_mul (Nat.two_pow_pos k)]

/-- **A number is not rounded below its leading bit.** -/
theorem two_pow_log2_le_roundToGrid {n : Nat} (h : n ≠ 0) : 2 ^ n.log2 ≤ roundToGrid n 1 := by
  rw [roundToGrid_one, gridStep_eq, ← divideToNearest_two_pow (Nat.sub_le n.log2 52)]
  exact Nat.mul_le_mul_right _ (divideToNearest_mono _ (Nat.log2_self_le h))

/-- **A number is rounded to the next leading bit at most.** -/
theorem roundToGrid_le_two_pow (n : Nat) : roundToGrid n 1 ≤ 2 ^ (n.log2 + 1) := by
  have hstep : n.log2 - 52 ≤ n.log2 + 1 := by omega
  rw [roundToGrid_one, gridStep_eq, ← divideToNearest_two_pow hstep]
  exact Nat.mul_le_mul_right _ (divideToNearest_mono _ (Nat.le_of_lt Nat.lt_log2_self))

/-- **Rounding never reverses an order.** Numbers with one leading bit have one step; otherwise a
power of two lies between what they are rounded to. -/
theorem roundToGrid_mono {a b : Nat} (h : a ≤ b) : roundToGrid a 1 ≤ roundToGrid b 1 := by
  by_cases hzero : a = 0
  · subst hzero
    exact Nat.zero_le _
  have hb : b ≠ 0 := by omega
  have hlog : a.log2 ≤ b.log2 := (Nat.le_log2 hb).2 (Nat.le_trans (Nat.log2_self_le hzero) h)
  rcases Nat.lt_or_eq_of_le hlog with hlt | heq
  · calc roundToGrid a 1 ≤ 2 ^ (a.log2 + 1) := roundToGrid_le_two_pow a
      _ ≤ 2 ^ b.log2 := Nat.pow_le_pow_right (by decide) hlt
      _ ≤ roundToGrid b 1 := two_pow_log2_le_roundToGrid hb
  · rw [roundToGrid_one, roundToGrid_one, gridStep_eq, gridStep_eq, heq]
    exact Nat.mul_le_mul_right _ (divideToNearest_mono _ h)

/-! ## Signed whole numbers -/

namespace Number

/-- Negative integers are rounded as the positive ones. -/
theorem scaledInt_neg (n : Int) : scaledInt (-n) = -scaledInt n := by
  unfold scaledInt
  rw [Int.sign_neg, Int.natAbs_neg, Int.neg_mul]

/-- Natural numbers are rounded in units. -/
theorem scaledInt_natCast (n : Nat) : scaledInt n = roundToGrid (n * unitsPerOne) 1 := by
  cases n with
  | zero =>
    rw [Nat.zero_mul]
    exact Int.zero_mul _
  | succ n =>
    unfold scaledInt
    rw [Int.sign_natCast_of_ne_zero (Nat.succ_ne_zero n), Int.natAbs_natCast, Int.one_mul]

/-- Rounding keeps the sign. -/
theorem scaledInt_nonneg {n : Int} (h : 0 ≤ n) : 0 ≤ scaledInt n := by
  obtain ⟨m, rfl⟩ := Int.eq_ofNat_of_zero_le h
  rw [scaledInt_natCast]
  exact Int.natCast_nonneg _

/-- **Rounding never reverses the order of signed numbers.** -/
theorem scaledInt_mono {a b : Int} (h : a ≤ b) : scaledInt a ≤ scaledInt b := by
  have hpos : ∀ m n : Nat, m ≤ n → scaledInt m ≤ scaledInt n := by
    intro m n hmn
    rw [scaledInt_natCast, scaledInt_natCast]
    exact_mod_cast roundToGrid_mono (Nat.mul_le_mul_right _ hmn)
  rcases Int.le_total 0 a with ha | ha
  · obtain ⟨m, rfl⟩ := Int.eq_ofNat_of_zero_le ha
    obtain ⟨n, rfl⟩ := Int.eq_ofNat_of_zero_le (Int.le_trans ha h)
    exact hpos m n (by omega)
  · have hneg : scaledInt a ≤ 0 := by
      have := scaledInt_nonneg (Int.neg_nonneg_of_nonpos ha)
      rw [scaledInt_neg] at this
      omega
    rcases Int.le_total 0 b with hb | hb
    · exact Int.le_trans hneg (scaledInt_nonneg hb)
    · obtain ⟨m, hm⟩ := Int.eq_ofNat_of_zero_le (Int.neg_nonneg_of_nonpos ha)
      obtain ⟨n, hn⟩ := Int.eq_ofNat_of_zero_le (Int.neg_nonneg_of_nonpos hb)
      have hle := hpos n m (by omega)
      rw [← hm, ← hn, scaledInt_neg, scaledInt_neg] at hle
      omega

/-- **A whole number on the grid keeps its value.** -/
theorem scaledInt_of_onGrid {n : Int} (h : OnGrid n.natAbs) : scaledInt n = n * unitsPerOne := by
  have hgrid : OnGrid (n.natAbs * unitsPerOne) := onGrid_mul_twoTo h 1074
  unfold scaledInt
  rw [roundToGrid_of_onGrid hgrid, Int.natCast_mul, ← Int.mul_assoc, Int.sign_mul_natAbs]

/-! ## Which whole numbers are told apart -/

/-- There are units in one. -/
theorem unitsPerOne_pos : (0 : Int) < unitsPerOne := Int.natCast_pos.2 (twoTo_pos 1074)

/-- Up to `2 ^ 53` whole numbers keep their value. -/
theorem scaledInt_of_le {n : Int} (h : n.natAbs ≤ 2 ^ 53) : scaledInt n = n * unitsPerOne :=
  scaledInt_of_onGrid (onGrid_of_le h)

/-- **Up to `2 ^ 53` whole numbers are told apart.** -/
theorem scaledInt_injOn : Set.InjOn scaledInt (Set.Icc (-2 ^ 53) (2 ^ 53)) := by
  intro a ha b hb heq
  rw [Set.mem_Icc] at ha hb
  rw [scaledInt_of_le (by omega), scaledInt_of_le (by omega)] at heq
  exact Int.eq_of_mul_eq_mul_right (Int.ne_of_gt unitsPerOne_pos) heq

/-- **A number below `2 ^ 53` is told apart from all others**, however large they are: these are
rounded to `2 ^ 53` at least. -/
theorem scaledInt_eq_iff {a b : Int} (h : a.natAbs < 2 ^ 53) :
    scaledInt a = scaledInt b ↔ a = b := by
  refine ⟨fun heq => ?_, congrArg scaledInt⟩
  by_cases hb : b.natAbs ≤ 2 ^ 53
  · apply scaledInt_injOn _ _ heq <;> rw [Set.mem_Icc] <;> omega
  have hvalue : scaledInt a = a * unitsPerOne := scaledInt_of_le (by omega)
  rcases Int.le_total 0 b with hsign | hsign
  · have hlarge : scaledInt (2 ^ 53) ≤ scaledInt b := scaledInt_mono (by omega)
    have hsmall : a * unitsPerOne < 2 ^ 53 * unitsPerOne :=
      Int.mul_lt_mul_of_pos_right (by omega) unitsPerOne_pos
    rw [scaledInt_of_le (n := 2 ^ 53) (by decide)] at hlarge
    omega
  · have hlarge : scaledInt b ≤ scaledInt (-2 ^ 53) := scaledInt_mono (by omega)
    have hsmall : -2 ^ 53 * unitsPerOne < a * unitsPerOne :=
      Int.mul_lt_mul_of_pos_right (by omega) unitsPerOne_pos
    rw [scaledInt_of_le (n := -2 ^ 53) (by decide)] at hlarge
    omega

/-- **From `2 ^ 53` on neighbours coincide.** -/
theorem scaledInt_succ : scaledInt (2 ^ 53 + 1) = scaledInt (2 ^ 53) := by decide +kernel

end Number

end RecordFilter
