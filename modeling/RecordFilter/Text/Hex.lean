/-!
# Hexadecimal digits

* `Hex.lower`, `Hex.upper` — the digit of a value below 16.
* `Hex.value?` — the value of a digit of either case.
* `Hex.number?` — the value of a run of digits.
-/

namespace RecordFilter.Hex

/-- The digit of a value below 16, in lower case. -/
def lower (n : Nat) : Char := if n < 10 then Char.ofNat (48 + n) else Char.ofNat (87 + n)

/-- The digit of a value below 16, in upper case. -/
def upper (n : Nat) : Char := if n < 10 then Char.ofNat (48 + n) else Char.ofNat (55 + n)

/-- The value of a digit of either case. -/
def value? (c : Char) : Option Nat :=
  let n := c.toNat
  if 48 ≤ n ∧ n ≤ 57 then some (n - 48)
  else if 65 ≤ n ∧ n ≤ 70 then some (n - 55)
  else if 97 ≤ n ∧ n ≤ 102 then some (n - 87)
  else none

/-- The value of a run of digits, if all characters are digits; zero for none. -/
def number? (digits : List Char) : Option Nat :=
  digits.foldlM (fun n c => (value? c).map (16 * n + ·)) 0

end RecordFilter.Hex
