import RecordFilter.Number.Reader
import RecordFilter.Text.Hex
import RecordFilter.Toml.Basic

/-!
# Numbers and date-times of TOML

* `Decimal.nearest?` — the double nearest to a decimal number.
* `Toml.readDateTime?` — a date, a time, or a date with a time and an offset; its canonical text.
* `Toml.readNumber?` — an integer of 64 bits in base ten, sixteen, eight or two, or a float.
-/

namespace RecordFilter

/-- **The double nearest to a decimal number**, a tie to the even neighbour; none if that is
infinite. Exponents far out of range are decided without the power of ten. -/
def Decimal.nearest? (negative : Bool) (d : Decimal) : Option Double :=
  let leading : Int := d.exponent + (toString d.digits).length
  if d.digits = 0 ∨ leading < -400 then some (.zero negative)
  else if 400 < leading then none
  else
    Double.round? negative (d.digits * unitsPerOne * Nat.pow 10 d.exponent.toNat)
      (Nat.pow 10 (-d.exponent).toNat)

namespace Toml

/-! ## Date-times -/

/-- A number of exactly so many digits. -/
def readDigits? (count : Nat) (cs : List Char) : Option (Nat × List Char) := do
  let digits := cs.take count
  guard (digits.length == count && digits.all isDigit)
  return (digitsValue digits, cs.drop count)

/-- A character. -/
def readChar? (c : Char) (cs : List Char) : Option (List Char) :=
  match cs with
  | d :: rest => if c == d then some rest else none
  | [] => none

/-- A number with leading zeros up to a width. -/
def padded (width n : Nat) : String :=
  let digits := toString n
  "".pushn '0' (width - digits.length) ++ digits

/-- The number of days of a month. -/
def daysInMonth (year month : Nat) : Nat :=
  if month = 2 then
    if (year % 4 = 0 ∧ year % 100 ≠ 0) ∨ year % 400 = 0 then 29 else 28
  else if month = 4 ∨ month = 6 ∨ month = 9 ∨ month = 11 then 30
  else 31

/-- A date that exists, as canonical text. -/
def readDate? (cs : List Char) : Option (String × List Char) := do
  let (year, cs) ← readDigits? 4 cs
  let cs ← readChar? '-' cs
  let (month, cs) ← readDigits? 2 cs
  guard (1 ≤ month && month ≤ 12)
  let cs ← readChar? '-' cs
  let (day, cs) ← readDigits? 2 cs
  guard (1 ≤ day && day ≤ daysInMonth year month)
  return (padded 4 year ++ "-" ++ padded 2 month ++ "-" ++ padded 2 day, cs)

/-- A fraction of a second: nine digits count, and zeros at their end do not show. -/
def readFraction (cs : List Char) : String × List Char :=
  match cs with
  | '.' :: rest =>
    match rest.span isDigit with
    | ([], _) => ("", cs)
    | (digits, rest) =>
      let shown := ((digits.take 9).reverse.dropWhile (· == '0')).reverse
      (if shown.isEmpty then "" else "." ++ String.ofList shown, rest)
  | _ => ("", cs)

/-- Hours and minutes. -/
def readClock? (cs : List Char) : Option (Nat × Nat × List Char) := do
  let (hour, cs) ← readDigits? 2 cs
  guard (hour ≤ 23)
  let cs ← readChar? ':' cs
  let (minute, cs) ← readDigits? 2 cs
  guard (minute ≤ 59)
  return (hour, minute, cs)

/-- A time with seconds, as canonical text; second 60 is a leap second. -/
def readTime? (cs : List Char) : Option (String × List Char) := do
  let (hour, minute, cs) ← readClock? cs
  let cs ← readChar? ':' cs
  let (second, cs) ← readDigits? 2 cs
  guard (second ≤ 60)
  let (fraction, cs) := readFraction cs
  return (padded 2 hour ++ ":" ++ padded 2 minute ++ ":" ++ padded 2 second ++ fraction, cs)

/-- An offset from universal time, if there is one; a zero offset has no minus. -/
def readOffset (cs : List Char) : String × List Char :=
  match cs with
  | c :: rest =>
    if c == 'Z' || c == 'z' then ("Z", rest)
    else if c == '+' || c == '-' then
      match readClock? rest with
      | some (hour, minute, rest) =>
        let sign := if c == '-' && hour + minute ≠ 0 then "-" else "+"
        (sign ++ padded 2 hour ++ ":" ++ padded 2 minute, rest)
      | none => ("", cs)
    else ("", cs)
  | [] => ("", cs)

/-- A time after a date, with its mark and perhaps an offset, if there is one. -/
def readTimeOfDay (cs : List Char) : String × List Char :=
  match cs with
  | c :: rest =>
    if c == 'T' || c == 't' || c == ' ' then
      match readTime? rest with
      | some (time, rest) =>
        let (offset, rest) := readOffset rest
        ("T" ++ time ++ offset, rest)
      | none => ("", cs)
    else ("", cs)
  | [] => ("", cs)

/-- **A date, a time, or both**, as canonical text. -/
def readDateTime? (cs : List Char) : Option (Toml × List Char) :=
  match readDate? cs with
  | some (date, rest) =>
    let (time, rest) := readTimeOfDay rest
    some (.dateTime (date ++ time), rest)
  | none => (readTime? cs).map fun (time, rest) => (.dateTime time, rest)

/-! ## Numbers -/

/-- Digits of a class with single underscores between them, at the head of a text. -/
def spanDigits (isDigit : Char → Bool) : List Char → List Char × List Char
  | [] => ([], [])
  | '_' :: c :: rest =>
    if isDigit c then
      let (digits, rest) := spanDigits isDigit rest
      (c :: digits, rest)
    else ([], '_' :: c :: rest)
  | c :: rest =>
    if isDigit c then
      let (digits, rest) := spanDigits isDigit rest
      (c :: digits, rest)
    else ([], c :: rest)

/-- Digits of a class, at least one and no underscore before the first. -/
def readRun? (isDigit : Char → Bool) (cs : List Char) : Option (List Char × List Char) :=
  match cs with
  | c :: _ => if isDigit c then some (spanDigits isDigit cs) else none
  | [] => none

/-- A sign, if there is one. -/
def readSign (cs : List Char) : Bool × List Char :=
  match cs with
  | '+' :: rest => (false, rest)
  | '-' :: rest => (true, rest)
  | _ => (false, cs)

/-- An integer of 64 bits. -/
def integer? (value : Int) : Option Toml :=
  if fits value then some (.integer value) else none

/-- An integer in a base that is a power of two, after its prefix. -/
def readBase? (base : Nat) (cs : List Char) : Option (Toml × List Char) := do
  let isDigit (c : Char) := (Hex.value? c).any (· < base)
  let (digits, rest) ← readRun? isDigit cs
  let value := digits.foldl (fun n c => base * n + (Hex.value? c).getD 0) 0
  return (← integer? value, rest)

/-- The exponent of a float, if there is one. -/
def readExponent? (cs : List Char) : Option (Int × List Char) :=
  match cs with
  | c :: rest =>
    if c == 'e' || c == 'E' then
      let (minus, rest) := readSign rest
      (readRun? isDigit rest).map fun (digits, rest) =>
        let value : Int := digitsValue digits
        (if minus then -value else value, rest)
    else none
  | [] => none

/-- The value of a float. A positive one beyond all doubles is refused. -/
def float? (negative : Bool) (digits : List Char) (exponent : Int) : Option Toml :=
  match Decimal.nearest? negative ⟨digitsValue digits, exponent⟩ with
  | some value => some (.float value)
  | none => if negative then some .notFinite else none

/-- A number in base ten: its digits without a leading zero, then perhaps a fraction and an
exponent. -/
def readDecimal? (cs : List Char) : Option (Toml × List Char) := do
  let (negative, cs) := readSign cs
  let (whole, rest) ← match cs with
    | '0' :: rest => some (['0'], rest)
    | _ => readRun? isDigit cs
  let fraction := match rest with
    | '.' :: after => readRun? isDigit after
    | _ => none
  match fraction with
  | some (fraction, rest) =>
    let (exponent, rest) := (readExponent? rest).getD (0, rest)
    return (← float? negative (whole ++ fraction) (exponent - fraction.length), rest)
  | none =>
    match readExponent? rest with
    | some (exponent, rest) => return (← float? negative whole exponent, rest)
    | none =>
      let value : Int := digitsValue whole
      return (← integer? (if negative then -value else value), rest)

/-- **A number** in any notation. -/
def readNumber? (cs : List Char) : Option (Toml × List Char) :=
  match cs with
  | '0' :: 'x' :: rest => readBase? 16 rest
  | '0' :: 'o' :: rest => readBase? 8 rest
  | '0' :: 'b' :: rest => readBase? 2 rest
  | _ =>
    match (readSign cs).2 with
    | 'i' :: 'n' :: 'f' :: rest | 'n' :: 'a' :: 'n' :: rest => some (.notFinite, rest)
    | _ => readDecimal? cs

end Toml

end RecordFilter
