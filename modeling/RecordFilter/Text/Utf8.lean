/-!
# UTF-8

Characters as bytes and back. Bytes are natural numbers below 256.

* `Utf8.encode` — the bytes of a character.
* `Utf8.decode` — the characters of any byte sequence: each longest part that starts a character but
  does not finish it, and each byte that starts none, becomes one replacement character.
* `Utf8.decode_encode_append` — encoded characters are read back.
-/

namespace RecordFilter.Utf8

/-- The bytes of a character. -/
def encode (c : Char) : List Nat :=
  let n := c.toNat
  if n < 0x80 then [n]
  else if n < 0x800 then [0xC0 + n / 64, 0x80 + n % 64]
  else if n < 0x10000 then [0xE0 + n / 4096, 0x80 + n / 64 % 64, 0x80 + n % 64]
  else [0xF0 + n / 262144, 0x80 + n / 4096 % 64, 0x80 + n / 64 % 64, 0x80 + n % 64]

/-- What stands for bytes that are no character: U+FFFD. -/
def replacement : Char := '\ufffd'

/-- A character whose first bytes have been read. -/
structure Pending where
  /-- The bits read so far. -/
  code : Nat
  /-- How many bytes are owed after the next one. -/
  more : Nat
  /-- The least value of the next byte. -/
  low : Nat
  /-- The greatest value of the next byte. -/
  high : Nat

/-- A byte between characters: the characters it ends, and the character it begins. Overlong forms,
surrogates and codes beyond U+10FFFF are excluded by the bounds on the second byte. -/
def start (b : Nat) : List Char × Option Pending :=
  if b < 0x80 then ([Char.ofNat b], none)
  else if b < 0xC2 then ([replacement], none)
  else if b < 0xE0 then ([], some ⟨b - 0xC0, 0, 0x80, 0xBF⟩)
  else if b < 0xF0 then
    ([], some ⟨b - 0xE0, 1, if b = 0xE0 then 0xA0 else 0x80, if b = 0xED then 0x9F else 0xBF⟩)
  else if b < 0xF5 then
    ([], some ⟨b - 0xF0, 2, if b = 0xF0 then 0x90 else 0x80, if b = 0xF4 then 0x8F else 0xBF⟩)
  else ([replacement], none)

/-- Decodes the bytes that follow an unfinished character, if there is one. -/
def decodeFrom : Option Pending → List Nat → List Char
  | none, [] => []
  | some _, [] => [replacement]
  | none, b :: rest =>
    let (done, next) := start b
    done ++ decodeFrom next rest
  | some p, b :: rest =>
    if p.low ≤ b ∧ b ≤ p.high then
      let code := p.code * 64 + (b - 0x80)
      match p.more with
      | 0 => Char.ofNat code :: decodeFrom none rest
      | more + 1 => decodeFrom (some ⟨code, more, 0x80, 0xBF⟩) rest
    else
      let (done, next) := start b
      replacement :: (done ++ decodeFrom next rest)

/-- **The characters of a byte sequence**, with replacements for what is not UTF-8. -/
def decode (bytes : List Nat) : List Char := decodeFrom none bytes

/-! ## Reading back -/

/-- The first of two bytes. -/
theorem start_two {k : Nat} (hlow : 2 ≤ k) (hhigh : k < 0x20) :
    start (0xC0 + k) = ([], some ⟨k, 0, 0x80, 0xBF⟩) := by
  have hplain : ¬ 0xC0 + k < 0x80 := by omega
  have hoverlong : ¬ 0xC0 + k < 0xC2 := by omega
  have htwo : 0xC0 + k < 0xE0 := by omega
  rw [start, if_neg hplain, if_neg hoverlong, if_pos htwo, Nat.add_sub_cancel_left]

/-- The first of three bytes. -/
theorem start_three {k : Nat} (h : k < 0x10) :
    start (0xE0 + k) =
      ([], some ⟨k, 1, if k = 0 then 0xA0 else 0x80, if k = 0xD then 0x9F else 0xBF⟩) := by
  have hplain : ¬ 0xE0 + k < 0x80 := by omega
  have hoverlong : ¬ 0xE0 + k < 0xC2 := by omega
  have htwo : ¬ 0xE0 + k < 0xE0 := by omega
  have hthree : 0xE0 + k < 0xF0 := by omega
  have hfirst : 0xE0 + k = 0xE0 ↔ k = 0 := by omega
  have hsurrogate : 0xE0 + k = 0xED ↔ k = 0xD := by omega
  rw [start, if_neg hplain, if_neg hoverlong, if_neg htwo, if_pos hthree, Nat.add_sub_cancel_left]
  simp only [hfirst, hsurrogate]

/-- The first of four bytes. -/
theorem start_four {k : Nat} (h : k < 5) :
    start (0xF0 + k) =
      ([], some ⟨k, 2, if k = 0 then 0x90 else 0x80, if k = 4 then 0x8F else 0xBF⟩) := by
  have hplain : ¬ 0xF0 + k < 0x80 := by omega
  have hoverlong : ¬ 0xF0 + k < 0xC2 := by omega
  have htwo : ¬ 0xF0 + k < 0xE0 := by omega
  have hthree : ¬ 0xF0 + k < 0xF0 := by omega
  have hfour : 0xF0 + k < 0xF5 := by omega
  have hfirst : 0xF0 + k = 0xF0 ↔ k = 0 := by omega
  have hlast : 0xF0 + k = 0xF4 ↔ k = 4 := by omega
  rw [start, if_neg hplain, if_neg hoverlong, if_neg htwo, if_neg hthree, if_pos hfour,
    Nat.add_sub_cancel_left]
  simp only [hfirst, hlast]

/-- A byte that begins a character. -/
theorem decodeFrom_start {b : Nat} {p : Pending} (h : start b = ([], some p)) (rest : List Nat) :
    decodeFrom none (b :: rest) = decodeFrom (some p) rest := by
  rw [decodeFrom, h]
  rfl

/-- A byte between the first and the last of a character. -/
theorem decodeFrom_next {code more low high b : Nat} (hlow : low ≤ b) (hhigh : b ≤ high)
    (rest : List Nat) :
    decodeFrom (some ⟨code, more + 1, low, high⟩) (b :: rest) =
      decodeFrom (some ⟨code * 64 + (b - 0x80), more, 0x80, 0xBF⟩) rest := by
  rw [decodeFrom, if_pos ⟨hlow, hhigh⟩]

/-- The last byte of a character. -/
theorem decodeFrom_last {code low high b : Nat} (hlow : low ≤ b) (hhigh : b ≤ high)
    (rest : List Nat) :
    decodeFrom (some ⟨code, 0, low, high⟩) (b :: rest) =
      Char.ofNat (code * 64 + (b - 0x80)) :: decodeFrom none rest := by
  rw [decodeFrom, if_pos ⟨hlow, hhigh⟩]

/-- The bytes of a character decode to it, whatever follows them. -/
theorem decodeFrom_encode_append (c : Char) (rest : List Nat) :
    decodeFrom none (encode c ++ rest) = c :: decodeFrom none rest := by
  -- characters are no surrogates, which the bounds on the second byte exclude
  have hvalid : c.toNat < 0xD800 ∨ (0xDFFF < c.toNat ∧ c.toNat < 0x110000) := c.valid
  have hback {n : Nat} (h : n = c.toNat) : Char.ofNat n = c := h ▸ Char.ofNat_toNat c
  unfold encode
  dsimp only
  split
  next hone =>
    rw [List.cons_append, List.nil_append, decodeFrom, start, if_pos hone, hback rfl]
    rfl
  split
  next htwo =>
    simp only [List.cons_append, List.nil_append]
    rw [decodeFrom_start (start_two (by omega) (by omega)), decodeFrom_last (by omega) (by omega),
      hback (by omega)]
  split
  next hthree =>
    simp only [List.cons_append, List.nil_append]
    rw [decodeFrom_start (start_three (by omega)),
      decodeFrom_next (by split <;> omega) (by split <;> omega),
      decodeFrom_last (by omega) (by omega), hback (by omega)]
  next hfour =>
    simp only [List.cons_append, List.nil_append]
    rw [decodeFrom_start (start_four (by omega)),
      decodeFrom_next (by split <;> omega) (by split <;> omega),
      decodeFrom_next (by omega) (by omega), decodeFrom_last (by omega) (by omega),
      hback (by omega)]

/-- **Encoded characters are read back.** -/
theorem decode_encode_append (c : Char) (rest : List Nat) :
    decode (encode c ++ rest) = c :: decode rest := decodeFrom_encode_append c rest

end RecordFilter.Utf8
