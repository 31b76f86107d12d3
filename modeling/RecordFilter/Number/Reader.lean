import RecordFilter.Number.Basic

/-!
# Reading numbers

The numbers of JSON text: an optional minus, digits without a leading zero, an optional fraction, an
optional exponent.

* `Number.read?` — the number at the head of a text, and the rest.
* `Scientific` — a significand of 64 bits with a decimal exponent; `Scientific.double?` scales it by
  a power of ten that is itself a double. The scaling rounds once more, so that the last bit may
  differ from that of the nearest double.
-/

namespace RecordFilter

/-! ## Digits -/

/-- The decimal digits. -/
def isDigit (c : Char) : Bool := '0' ≤ c && c ≤ '9'

/-- The value of a decimal digit. -/
def digitValue (c : Char) : Nat := c.toNat - 48

/-- The value of a run of decimal digits. -/
def digitsValue (digits : List Char) : Nat := digits.foldl (fun n c => 10 * n + digitValue c) 0

/-- The largest significand: 64 bits. -/
def significandLimit : Nat := twoTo 64 - 1

/-- Appends digits to a significand while it fits 64 bits; the second part counts them. -/
def appendDigits (significand : Nat) : List Char → Nat × Nat
  | [] => (significand, 0)
  | c :: rest =>
    let longer := 10 * significand + digitValue c
    if longer ≤ significandLimit then
      let (final, count) := appendDigits longer rest
      (final, count + 1)
    else (significand, 0)

/-! ## Scaling by powers of ten -/

/-- A significand and a decimal exponent. -/
structure Scientific where
  negative : Bool
  significand : Nat
  exponent : Int

namespace Scientific

/-- The magnitude nearest to a power of ten, in units. -/
def powerOfTen (exponent : Nat) : Nat := roundToGrid (Nat.pow 10 exponent * unitsPerOne) 1

/-- The product of two magnitudes, rounded. -/
def times (a b : Nat) : Nat := roundToGrid (a * b) unitsPerOne

/-- The quotient of two magnitudes, rounded. -/
def dividedBy (a b : Nat) : Nat := roundToGrid (a * unitsPerOne) b

/-- A magnitude divided by `10 ^ exponent`, in steps of `10 ^ 308` at most. -/
def scaleDown (magnitude exponent : Nat) : Nat :=
  if exponent ≤ 308 then dividedBy magnitude (powerOfTen exponent)
  else if magnitude = 0 then 0
  else scaleDown (dividedBy magnitude (powerOfTen 308)) (exponent - 308)
termination_by exponent

/-- A magnitude times `10 ^ exponent`; none if it exceeds the largest double. -/
def scaleUp? (magnitude exponent : Nat) : Option Nat :=
  if magnitude = 0 then some 0
  else if exponent ≤ 308 then some (times magnitude (powerOfTen exponent))
  else none

/-- **The double of a decimal number**: the significand as a double, multiplied or divided by the
power of ten as a double. None if that is infinite. -/
def double? (s : Scientific) : Option Double :=
  let start := roundToGrid (s.significand * unitsPerOne) 1
  let magnitude :=
    if 0 ≤ s.exponent then scaleUp? start s.exponent.toNat
    else some (scaleDown start (-s.exponent).toNat)
  magnitude.bind fun m => Double.round? s.negative m 1

end Scientific

/-! ## The grammar -/

namespace Number

/-- The exponent after `e`: an optional sign and one digit at least. -/
def readExponent? (cs : List Char) : Option (Int × List Char) :=
  let (minus, cs) := match cs with
    | '+' :: rest => (false, rest)
    | '-' :: rest => (true, rest)
    | _ => (false, cs)
  match cs.span isDigit with
  | ([], _) => none
  | (digits, rest) =>
    let value : Int := digitsValue digits
    some (if minus then -value else value, rest)

/-- What follows the fraction: an exponent or nothing. -/
def finish? (s : Scientific) : List Char → Option (Number × List Char)
  | c :: rest =>
    if c == 'e' || c == 'E' then
      (readExponent? rest).bind fun (exponent, rest) =>
        ({ s with exponent := s.exponent + exponent }.double?).map (.double ·, rest)
    else s.double?.map (.double ·, c :: rest)
  | [] => s.double?.map (.double ·, [])

/-- What follows the whole part: a fraction, an exponent or nothing. `dropped` whole digits did not
fit the significand. -/
def afterWhole? (negative : Bool) (significand dropped : Nat) :
    List Char → Option (Number × List Char)
  | '.' :: rest =>
    match rest.span isDigit with
    | ([], _) => none
    | (digits, rest) =>
      let (significand, count) := appendDigits significand digits
      finish? ⟨negative, significand, (dropped : Int) - count⟩ rest
  | rest =>
    let isInteger := dropped == 0 &&
      (match rest with | c :: _ => !(c == 'e' || c == 'E') | [] => true) &&
      (if negative then significand ≠ 0 && significand ≤ twoTo 63 else true)
    if isInteger then
      some (.integer (if negative then -(significand : Int) else significand), rest)
    else finish? ⟨negative, significand, dropped⟩ rest

/-- **The number at the head of a text** and what follows it. Whole numbers of 64 bits stay whole;
`-0` is a double. -/
def read? (cs : List Char) : Option (Number × List Char) :=
  let (negative, cs) := match cs with
    | '-' :: rest => (true, rest)
    | _ => (false, cs)
  match cs.span isDigit with
  | ([], _) => none
  | ('0' :: _ :: _, _) => none
  | (digits, rest) =>
    let (significand, count) := appendDigits 0 digits
    afterWhole? negative significand (digits.length - count) rest

end Number

end RecordFilter
