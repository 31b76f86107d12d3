import RecordFilter.Text.Percent

/-!
# Reading percent-encoded texts back

* `Percent.decode_encode` — an encoded text decodes to itself, if the percent sign is among the
  escaped characters.
* `Percent.mem_encode` — the characters of an encoded text.
* `Percent.decode_ne_nil` — no text but the empty one decodes to the empty text.
* `Percent.Stands`, `Percent.Documented` — the bytes a text stands for, and what an encoder and a
  decoder are documented to do. `Percent.documented_iff`: no other pair of functions does it, so
  whatever is proved with the functions here holds for every such pair.
-/

namespace RecordFilter

/-! ## Digits and bytes -/

/-- A digit is read as its value. -/
theorem Hex.value?_upper {n : Nat} (h : n < 16) : Hex.value? (Hex.upper n) = some n := by
  revert n
  decide

namespace Utf8

/-- Every character has a byte. -/
theorem encode_ne_nil (c : Char) : encode c ≠ [] := by
  unfold encode
  dsimp only
  repeat' split
  all_goals exact List.cons_ne_nil _ _

/-- The bytes of a character are bytes. -/
theorem lt_of_mem_encode {c : Char} {b : Nat} (h : b ∈ encode c) : b < 256 := by
  have hvalid : c.toNat < 0xD800 ∨ (0xDFFF < c.toNat ∧ c.toNat < 0x110000) := c.valid
  unfold encode at h
  dsimp only at h
  generalize c.toNat = n at h hvalid
  repeat' split at h
  all_goals
    simp only [List.mem_cons, List.not_mem_nil, or_false] at h
    omega

/-- A text is read back from its bytes. -/
theorem decode_flatMap_encode (cs : List Char) : decode (cs.flatMap encode) = cs := by
  induction cs with
  | nil => rfl
  | cons c rest ih => rw [List.flatMap_cons, decode_encode_append, ih]

/-- An unfinished character never vanishes. -/
theorem decodeFrom_some_ne_nil (p : Pending) (bytes : List Nat) :
    decodeFrom (some p) bytes ≠ [] := by
  induction bytes generalizing p with
  | nil => exact List.cons_ne_nil _ _
  | cons b rest ih =>
    rw [decodeFrom]
    split
    · dsimp only
      split
      · exact List.cons_ne_nil _ _
      · exact ih _
    · exact List.cons_ne_nil _ _

/-- Bytes are never read as the empty text, unless there are none. -/
theorem decode_ne_nil {bytes : List Nat} (h : bytes ≠ []) : decode bytes ≠ [] := by
  cases bytes with
  | nil => exact absurd rfl h
  | cons b rest =>
    -- a byte ends a character, or leaves one unfinished
    have hstart : (start b).1 ≠ [] ∨ ∃ p, start b = ([], some p) := by
      unfold start
      repeat' split
      all_goals simp
    rw [decode, decodeFrom]
    rcases hstart with hdone | ⟨p, hp⟩
    · exact List.append_ne_nil_of_left_ne_nil hdone _
    · rw [hp]
      exact decodeFrom_some_ne_nil p rest

end Utf8

/-! ## Escapes -/

namespace Percent

/-- Two digits are read as the byte that they were written for. -/
theorem byte?_upper {b : Nat} (h : b < 256) :
    byte? (Hex.upper (b / 16)) (Hex.upper (b % 16)) = some b := by
  have hhigh : b / 16 < 16 := by omega
  have hlow : b % 16 < 16 := by omega
  rw [byte?, Hex.value?_upper hhigh, Hex.value?_upper hlow]
  simp only [Option.some.injEq]
  omega

/-- An escape is read as its byte. -/
theorem bytes_escapeByte_append {b : Nat} (h : b < 256) (rest : List Char) :
    bytes (escapeByte b ++ rest) = b :: bytes rest := by
  simp only [escapeByte, List.cons_append, List.nil_append, bytes, if_true, byte?_upper h]

/-- Escapes are read as their bytes, whatever follows them. -/
theorem bytes_flatMap_escapeByte_append {bs : List Nat} (h : ∀ b ∈ bs, b < 256)
    (rest : List Char) : bytes (bs.flatMap escapeByte ++ rest) = bs ++ bytes rest := by
  induction bs with
  | nil => rfl
  | cons b bs ih =>
    rw [List.flatMap_cons, List.append_assoc, bytes_escapeByte_append (h b List.mem_cons_self),
      ih fun b hb => h b (List.mem_cons_of_mem _ hb), List.cons_append]

/-- What is no percent sign stands for itself. -/
theorem bytes_cons_of_ne {c : Char} (h : c ≠ '%') (rest : List Char) :
    bytes (c :: rest) = Utf8.encode c ++ bytes rest := by
  match rest with
  | [] => simp [bytes]
  | [_] => simp [bytes]
  | _ :: _ :: _ => simp [bytes, h]

/-- Every text but the empty one has bytes. -/
theorem bytes_ne_nil {cs : List Char} (h : cs ≠ []) : bytes cs ≠ [] := by
  fun_cases bytes cs with
  | case1 => exact absurd rfl h
  | case2 c => exact Utf8.encode_ne_nil c
  | case4 => exact List.cons_ne_nil _ _
  | case3 | case5 | case6 => exact List.append_ne_nil_of_left_ne_nil (Utf8.encode_ne_nil _) _

/-- **No text but the empty one decodes to the empty text.** -/
theorem decode_ne_nil {cs : List Char} (h : cs ≠ []) : decode cs ≠ [] :=
  Utf8.decode_ne_nil (bytes_ne_nil h)

/-! ## Encoded texts -/

section

variable {escaped : Char → Bool}

/-- An encoded text stands for the bytes of the text, whatever follows it. -/
theorem bytes_encode_append (hpercent : escaped '%' = true) (cs rest : List Char) :
    bytes (encode escaped cs ++ rest) = cs.flatMap Utf8.encode ++ bytes rest := by
  induction cs with
  | nil => rfl
  | cons c cs ih =>
    rw [encode, List.flatMap_cons, ← encode, List.append_assoc, List.flatMap_cons,
      List.append_assoc, ← ih]
    split
    next hplain =>
      have hne : c ≠ '%' := by
        rintro rfl
        simp [hpercent] at hplain
      exact bytes_cons_of_ne hne _
    next => exact bytes_flatMap_escapeByte_append (fun b => Utf8.lt_of_mem_encode) _

/-- **An encoded text is read back.** -/
theorem decode_encode (hpercent : escaped '%' = true) (cs : List Char) :
    decode (encode escaped cs) = cs := by
  have hbytes := bytes_encode_append hpercent cs []
  rw [List.append_nil, bytes, List.append_nil] at hbytes
  rw [decode, hbytes, Utf8.decode_flatMap_encode]

/-- **The characters of an encoded text** are percent signs, digits, and ASCII characters that need
no escape. -/
theorem mem_encode {cs : List Char} {x : Char} (h : x ∈ encode escaped cs) :
    (x.toNat < 0x80 ∧ escaped x = false) ∨ x = '%' ∨ ∃ n < 16, x = Hex.upper n := by
  obtain ⟨c, -, hx⟩ := List.mem_flatMap.1 h
  split at hx
  next hplain =>
    obtain rfl := List.mem_singleton.1 hx
    exact .inl (by simpa using hplain)
  next =>
    obtain ⟨b, hb, hx⟩ := List.mem_flatMap.1 hx
    have hbyte := Utf8.lt_of_mem_encode hb
    simp only [escapeByte, List.mem_cons, List.not_mem_nil, or_false] at hx
    rcases hx with rfl | rfl | rfl
    · exact .inr (.inl rfl)
    · exact .inr (.inr ⟨b / 16, by omega, rfl⟩)
    · exact .inr (.inr ⟨b % 16, by omega, rfl⟩)

/-- No text but the empty one is encoded as the empty text. -/
theorem encode_ne_nil {cs : List Char} (h : cs ≠ []) : encode escaped cs ≠ [] := by
  intro hnil
  obtain ⟨c, rest, rfl⟩ := List.exists_cons_of_ne_nil h
  rw [encode, List.flatMap_cons, List.append_eq_nil_iff] at hnil
  obtain ⟨hfirst, -⟩ := hnil
  split at hfirst
  · cases hfirst
  · obtain ⟨b, bs, hbytes⟩ := List.exists_cons_of_ne_nil (Utf8.encode_ne_nil c)
    rw [hbytes, List.flatMap_cons, escapeByte] at hfirst
    cases hfirst

end

/-! ## The documented behaviour -/

/-- **The bytes that a text stands for**: an escape stands for its byte, and every character that
begins no escape for itself. -/
inductive Stands : List Char → List Nat → Prop
  | nil : Stands [] []
  | escape {high low : Char} {b : Nat} {rest : List Char} {bs : List Nat} :
    byte? high low = some b → Stands rest bs → Stands ('%' :: high :: low :: rest) (b :: bs)
  | plain {c : Char} {rest : List Char} {bs : List Nat} :
    (∀ high low tail b, c = '%' → rest = high :: low :: tail → byte? high low ≠ some b) →
      Stands rest bs → Stands (c :: rest) (Utf8.encode c ++ bs)

/-- A character that begins no escape stands for itself. -/
theorem bytes_cons_of_plain {c : Char} {rest : List Char}
    (h : ∀ high low tail b, c = '%' → rest = high :: low :: tail → byte? high low ≠ some b) :
    bytes (c :: rest) = Utf8.encode c ++ bytes rest := by
  by_cases hc : c = '%'
  · match rest with
    | [] => simp [bytes]
    | [_] => simp [bytes]
    | high :: low :: tail =>
      have hnone : byte? high low = none :=
        Option.eq_none_iff_forall_ne_some.2 fun b => h high low tail b hc rfl
      simp [bytes, hc, hnone]
  · exact bytes_cons_of_ne hc rest

/-- **Every text stands for the bytes that are read from it**, and for no others. -/
theorem stands_iff {cs : List Char} {bs : List Nat} : Stands cs bs ↔ bytes cs = bs := by
  constructor
  · intro h
    induction h with
    | nil => rfl
    | escape hbyte _ ih => simp [bytes, hbyte, ih]
    | plain hplain _ ih => rw [bytes_cons_of_plain hplain, ih]
  · rintro rfl
    fun_induction bytes cs with
    | case1 => exact .nil
    | case2 c =>
      have h := Stands.plain (c := c) (by simp) .nil
      rwa [List.append_nil] at h
    | case3 c d ih => exact .plain (by simp) ih
    | case4 high low rest b hbyte ih => exact .escape hbyte ih
    | case5 high low rest hnone ih =>
      refine .plain ?_ ih
      rintro _ _ _ b - ⟨⟩
      simp [hnone]
    | case6 c high low rest hc ih => exact .plain (fun _ _ _ _ h => absurd h hc) ih

/-- **What is documented of a percent encoder and a percent decoder.** -/
structure Documented (encode : (Char → Bool) → List Char → List Char)
    (decode : List Char → List Char) : Prop where
  /-- Nothing is written for nothing. -/
  encode_nil (escaped : Char → Bool) : encode escaped [] = []
  /-- An ASCII character outside the class is written as it is. -/
  encode_plain {escaped : Char → Bool} {c : Char} (hascii : c.toNat < 0x80)
    (hplain : escaped c = false) (rest : List Char) :
    encode escaped (c :: rest) = c :: encode escaped rest
  /-- The bytes of every other character are written as escapes. -/
  encode_escaped {escaped : Char → Bool} {c : Char}
    (hescaped : 0x80 ≤ c.toNat ∨ escaped c = true) (rest : List Char) :
    encode escaped (c :: rest) = (Utf8.encode c).flatMap escapeByte ++ encode escaped rest
  /-- A text is decoded to what its bytes are in UTF-8. -/
  decode_stands {cs : List Char} {bs : List Nat} (h : Stands cs bs) : decode cs = Utf8.decode bs

/-- The functions here do what is documented. -/
theorem documented : Documented encode decode where
  encode_nil _ := rfl
  encode_plain hascii hplain _ := by simp [encode, hascii, hplain]
  encode_escaped {escaped c} hescaped rest := by
    have hcond : ¬ (c.toNat < 0x80 ∧ escaped c = false) := by
      rintro ⟨hascii, hplain⟩
      rcases hescaped with hwide | hesc
      · omega
      · rw [hplain] at hesc
        cases hesc
    simp [encode, hcond]
  decode_stands h := by rw [decode, stands_iff.1 h]

/-- **The documented behaviour leaves no choice**: an encoder and a decoder that have it are the
functions here. -/
theorem documented_iff {enc : (Char → Bool) → List Char → List Char}
    {dec : List Char → List Char} : Documented enc dec ↔ enc = encode ∧ dec = decode := by
  constructor
  · intro h
    refine ⟨funext fun escaped => funext fun cs => ?_, funext fun cs => ?_⟩
    · induction cs with
      | nil => exact h.encode_nil escaped
      | cons c rest ih =>
        by_cases hplain : c.toNat < 0x80 ∧ escaped c = false
        · rw [h.encode_plain hplain.1 hplain.2, documented.encode_plain hplain.1 hplain.2, ih]
        · have hescaped : 0x80 ≤ c.toNat ∨ escaped c = true := by
            rcases Nat.lt_or_ge c.toNat 0x80 with hascii | hwide
            · exact .inr (Bool.not_eq_false _ ▸ fun hfree => hplain ⟨hascii, hfree⟩)
            · exact .inl hwide
          rw [h.encode_escaped hescaped, documented.encode_escaped hescaped, ih]
    · rw [h.decode_stands (stands_iff.2 rfl), decode]
  · rintro ⟨rfl, rfl⟩
    exact documented

/-- **An encoded text is read back**, whichever the encoder and the decoder are. -/
theorem Documented.decode_encode {enc : (Char → Bool) → List Char → List Char}
    {dec : List Char → List Char} {escaped : Char → Bool} (h : Documented enc dec)
    (hpercent : escaped '%' = true) (cs : List Char) : dec (enc escaped cs) = cs := by
  obtain ⟨rfl, rfl⟩ := documented_iff.1 h
  exact Percent.decode_encode hpercent cs

end Percent

end RecordFilter
