import RecordFilter.Text.Hex
import RecordFilter.Text.Utf8

/-!
# Percent encoding

Text in which a byte may be written as `%` and two hexadecimal digits.

* `Percent.encode` — writes every non-ASCII byte and the ASCII characters of a given class so, with
  upper-case digits.
* `Percent.decode` — replaces each `%` with two digits of either case by its byte; a `%` without
  them stands for itself. The bytes are then read as UTF-8.
-/

namespace RecordFilter.Percent

/-- One byte as `%XX`. -/
def escapeByte (b : Nat) : List Char := ['%', Hex.upper (b / 16), Hex.upper (b % 16)]

/-- **A text with every non-ASCII byte and the ASCII characters of the class escaped.** -/
def encode (escaped : Char → Bool) (cs : List Char) : List Char :=
  cs.flatMap fun c =>
    if c.toNat < 0x80 && !escaped c then [c] else (Utf8.encode c).flatMap escapeByte

/-- The byte written by the two characters after a `%`. -/
def byte? (high low : Char) : Option Nat :=
  match Hex.value? high, Hex.value? low with
  | some h, some l => some (16 * h + l)
  | _, _ => none

/-- The bytes of a text in which escapes stand for bytes. -/
def bytes : List Char → List Nat
  | [] => []
  | [c] => Utf8.encode c
  | [c, d] => Utf8.encode c ++ bytes [d]
  | c :: high :: low :: rest =>
    if c = '%' then
      match byte? high low with
      | some b => b :: bytes rest
      | none => Utf8.encode c ++ bytes (high :: low :: rest)
    else Utf8.encode c ++ bytes (high :: low :: rest)

/-- **The text that escapes stand for.** -/
def decode (cs : List Char) : List Char := Utf8.decode (bytes cs)

end RecordFilter.Percent
