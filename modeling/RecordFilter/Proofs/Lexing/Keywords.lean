import RecordFilter.Proofs.Text.Percent
import RecordFilter.Proofs.Text.Separated
import RecordFilter.Query.Token
import RecordFilter.Text.Whitespace

/-!
# Keyword segments read back

The canonical text of a keyword segment keeps its entries apart: in an escaped text none of the
characters occurs that have a meaning inside or around a segment.

* `KeywordPair.of_mem_escape` — the characters of an escaped text.
* `KeywordPair.NonEmpty` — entries that leave a trace in a text, as all entries of a segment do.
* `KeywordPair.ofSegment_body_eq_filter`, `KeywordPair.ofSegment_body` — the text of a segment is
  read as the entries it was written for.
* `KeywordPair.escape_of_documented`, `KeywordPair.ofPart_of_documented` — texts are escaped and
  read by any encoder and decoder that do what is documented.
-/

namespace RecordFilter

/-! ## Escaped texts -/

namespace KeywordPair

/-- **An escaped text** has no reserved character in it but the percent sign, and no whitespace. -/
theorem of_mem_escape {text : String} {x : Char} (h : x ∈ (escape text).toList) :
    (isReserved x = false ∨ x = '%') ∧ Text.isWhitespace x = false := by
  rw [escape, String.toList_ofList] at h
  rcases Percent.mem_encode h with ⟨hascii, hfree⟩ | rfl | ⟨n, hn, rfl⟩
  · refine ⟨.inl hfree, ?_⟩
    simp only [isReserved, Bool.or_eq_false_iff, decide_eq_false_iff_not] at hfree
    have hcontrol : ¬ x.toNat < 0x20 := hfree.1.1.1.1.1.1.1.1
    have hspace : x.toNat ≠ 0x20 := by
      intro hcode
      have hx : x = ' ' := by
        rw [← Char.ofNat_toNat x, hcode]
      simp [hx] at hfree
    simp only [Text.isWhitespace, Bool.or_eq_false_iff, Bool.and_eq_false_iff,
      decide_eq_false_iff_not, beq_eq_false_iff_ne]
    omega
  · decide
  · have hdigit : ∀ n < 16,
        isReserved (Hex.upper n) = false ∧ Text.isWhitespace (Hex.upper n) = false := by
      decide
    exact ⟨.inl (hdigit n hn).1, (hdigit n hn).2⟩

/-- No reserved character but the percent sign is left in an escaped text. -/
theorem not_mem_escape {c : Char} (hreserved : isReserved c = true) (hpercent : c ≠ '%')
    (text : String) : c ∉ (escape text).toList := by
  intro hmem
  rcases (of_mem_escape hmem).1 with hfree | heq
  · rw [hreserved] at hfree
    cases hfree
  · exact hpercent heq

/-- An escaped text is read back. -/
theorem decode_escape (text : String) : Percent.decode (escape text).toList = text.toList := by
  rw [escape, String.toList_ofList, Percent.decode_encode (by decide)]

/-! ## Entries -/

/-- **An entry that leaves a trace in a text**: it has a value, or its key is not empty. -/
def NonEmpty (pair : KeywordPair) : Prop := pair.value = none → pair.key ≠ ""

/-- The characters of an entry's text. -/
theorem of_mem_text {pair : KeywordPair} {x : Char} (h : x ∈ pair.text.toList) :
    x = '=' ∨ ((isReserved x = false ∨ x = '%') ∧ Text.isWhitespace x = false) := by
  obtain ⟨key, value?⟩ := pair
  cases value? with
  | none => exact .inr (of_mem_escape h)
  | some value =>
    rw [text, String.toList_append, String.toList_append] at h
    rcases List.mem_append.1 h with h | h
    · rcases List.mem_append.1 h with h | h
      · exact .inr (of_mem_escape h)
      · exact .inl (List.mem_singleton.1 h)
    · exact .inr (of_mem_escape h)

/-- **An entry is read back.** -/
theorem ofPart_text (pair : KeywordPair) : ofPart pair.text.toList = pair := by
  obtain ⟨key, value?⟩ := pair
  have hkey : '=' ∉ (escape key).toList := not_mem_escape (by decide) (by decide) key
  cases value? with
  | none =>
    show ofPart (escape key).toList = _
    rw [ofPart, Text.splitFirst?_of_not_mem hkey]
    simp only [decode_escape, String.ofList_toList]
  | some value =>
    show ofPart (escape key ++ "=" ++ escape value).toList = _
    have htext : (escape key ++ "=" ++ escape value).toList =
        (escape key).toList ++ '=' :: (escape value).toList := by
      simp [String.toList_append]
    rw [ofPart, htext, Text.splitFirst?_append_cons hkey]
    simp only [decode_escape, String.ofList_toList]

/-- An entry that leaves a trace has a text. -/
theorem text_ne_nil {pair : KeywordPair} (h : pair.NonEmpty) : pair.text.toList ≠ [] := by
  obtain ⟨key, value?⟩ := pair
  cases value? with
  | none =>
    have hkey : key.toList ≠ [] := by
      intro hnil
      exact h rfl (String.toList_eq_nil_iff.1 hnil)
    show (escape key).toList ≠ []
    rw [escape, String.toList_ofList]
    exact Percent.encode_ne_nil hkey
  | some value =>
    show (escape key ++ "=" ++ escape value).toList ≠ []
    simp [String.toList_append]

/-- Every entry of a segment leaves a trace. -/
theorem nonEmpty_of_mem_ofSegment {body : List Char} {pair : KeywordPair}
    (h : pair ∈ ofSegment body) : pair.NonEmpty := by
  obtain ⟨part, hpart, rfl⟩ := List.mem_map.1 h
  have hne : part ≠ [] := by simpa using (List.mem_filter.1 hpart).2
  unfold ofPart
  split
  · exact nofun
  · intro _ hkey
    exact Percent.decode_ne_nil hne (String.ofList_eq_empty_iff.1 hkey)

/-! ## Segments -/

/-- The text of a segment between its backticks. -/
def body (pairs : List KeywordPair) : String := Text.join "&" (pairs.map text)

/-- **The text of a segment is read as its entries**, but for those that leave no trace in it. -/
theorem ofSegment_body_eq_filter (pairs : List KeywordPair) :
    ofSegment (body pairs).toList = pairs.filter fun pair => !pair.text.toList.isEmpty := by
  cases pairs with
  | nil => rfl
  | cons pair rest =>
    have hparts : ∀ part ∈ (pair :: rest).map text, '&' ∉ part.toList := by
      intro part hpart hmem
      obtain ⟨pair, -, rfl⟩ := List.mem_map.1 hpart
      rcases of_mem_text hmem with heq | ⟨hfree | heq, -⟩
      · cases heq
      · cases hfree
      · cases heq
    have hne : (pair :: rest).map text ≠ [] := List.cons_ne_nil _ _
    have hsplit := Text.splitAll_join (show "&".toList = ['&'] from rfl) hne hparts
    rw [ofSegment, body, hsplit, List.map_map, List.filter_map, List.map_map]
    exact List.map_id'' ofPart_text _

/-- Entries that leave a trace are all read. -/
theorem ofSegment_body {pairs : List KeywordPair} (h : ∀ pair ∈ pairs, pair.NonEmpty) :
    ofSegment (body pairs).toList = pairs := by
  rw [ofSegment_body_eq_filter, List.filter_eq_self]
  intro pair hpair
  simpa using text_ne_nil (h pair hpair)

/-- What stands between the backticks is not empty. -/
theorem body_ne_nil {pairs : List KeywordPair} (hne : pairs ≠ [])
    (h : ∀ pair ∈ pairs, pair.NonEmpty) : (body pairs).toList ≠ [] := by
  refine Text.join_ne_nil (by simpa using hne) fun part hpart => ?_
  obtain ⟨pair, hpair, rfl⟩ := List.mem_map.1 hpart
  exact text_ne_nil (h pair hpair)

/-- **Nothing between the backticks** is a backtick, a parenthesis or whitespace. -/
theorem of_mem_body {pairs : List KeywordPair} {x : Char} (h : x ∈ (body pairs).toList) :
    Text.isWhitespace x = false ∧ x ≠ '(' ∧ x ≠ ')' ∧ x ≠ '`' := by
  have hfree : x = '&' ∨ x = '=' ∨
      ((isReserved x = false ∨ x = '%') ∧ Text.isWhitespace x = false) := by
    rcases Text.mem_join h with h | ⟨part, hpart, h⟩
    · exact .inl (List.mem_singleton.1 h)
    · obtain ⟨pair, -, rfl⟩ := List.mem_map.1 hpart
      exact .inr (of_mem_text h)
  rcases hfree with rfl | rfl | ⟨hfree, hspace⟩
  · decide
  · decide
  · refine ⟨hspace, ?_, ?_, ?_⟩ <;> rintro rfl <;>
      · rcases hfree with hfree | heq
        · cases hfree
        · cases heq

/-! ## Encoders and decoders -/

section

variable {enc : (Char → Bool) → List Char → List Char} {dec : List Char → List Char}

/-- **A text is escaped by any documented encoder**: what is shown of segments holds with each. -/
theorem escape_of_documented (h : Percent.Documented enc dec) (text : String) :
    escape text = String.ofList (enc isReserved text.toList) := by
  rw [(Percent.documented_iff.1 h).1, escape]

/-- **An entry is read by any documented decoder.** -/
theorem ofPart_of_documented (h : Percent.Documented enc dec) (part : List Char) :
    ofPart part = match Text.splitFirst? '=' part with
      | some (key, value) => ⟨String.ofList (dec key), some (String.ofList (dec value))⟩
      | none => ⟨String.ofList (dec part), none⟩ := by
  rw [(Percent.documented_iff.1 h).2]
  rfl

end

end KeywordPair

end RecordFilter
