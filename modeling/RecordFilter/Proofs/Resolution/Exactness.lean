import RecordFilter.Proofs.Resolution.Filling
import RecordFilter.Proofs.Resolution.Taking

/-!
# Resolution is exact

When resolution succeeds, and what it gives then. The markers are counted before any value is
taken; the two passes agree, so values never run out.

* `KeywordPair.WellFormed` — no marker of an entry is ill-formed, and none names a value.
* `Token.Resolvable` — the positional values are as many as the markers `?`, every other marker has
  a value, and the entries are well-formed.
* `Token.resolveAll_exact` — **resolution succeeds exactly for resolvable tokens**, every marker has
  its own value in the result, and no count of values is reported that fits.
-/

namespace RecordFilter

/-! ## Resolvable tokens -/

/-- **An entry that can be resolved**: neither its key nor its value is an ill-formed marker, and
the key of a value is no marker. -/
structure KeywordPair.WellFormed (pair : KeywordPair) : Prop where
  reads : ∀ text ∈ pair.key :: pair.value.toList, ∀ e, Marker.ofWord? text ≠ .error e
  names : pair.value ≠ none → ∀ marker, Marker.ofWord? pair.key ≠ .ok (some marker)

/-- The entries of a keyword segment; other tokens have none. -/
def Token.pairs : Token → List KeywordPair
  | .keywords pairs => pairs
  | _ => []

/-- **Tokens that can be resolved**: there are as many positional values as markers `?`, every name
that a marker has is defined, and every entry is well-formed. -/
structure Token.Resolvable (bindings : Bindings) (defaults : Dict Json) (tokens : List Token) :
    Prop where
  count : (tokens.flatMap markers).count .positional = bindings.positional.length
  named : ∀ name, .named name ∈ tokens.flatMap markers →
    ∃ value, bindings.Gives defaults name value
  wellFormed : ∀ pair ∈ tokens.flatMap pairs, pair.WellFormed

/-- A parenthesis or an operator. -/
def Bound.structural? : Bound → Option Bound
  | .term _ => none
  | b => some b

/-! ## The two counts -/

/-- The test for the text of a positional marker. -/
theorem isPositionalMarker_eq (text : String) :
    isPositionalMarker text = (Marker.ofText? text == some .positional) := by
  unfold isPositionalMarker Marker.ofText?
  cases Marker.ofWord? text with
  | error e => rfl
  | ok marker? =>
    cases marker? with
    | none => rfl
    | some marker => cases marker <;> rfl

/-- The placeholders of an entry are its positional markers. -/
theorem KeywordPair.positionalCount_eq_count (pair : KeywordPair) :
    pair.positionalCount = pair.markers.count .positional := by
  unfold positionalCount markers
  rw [List.count_filterMap, ← List.countP_eq_length_filter]
  exact List.countP_congr fun text _ => by rw [isPositionalMarker_eq]

/-- Counting placeholders one by one counts the positional markers of all. -/
theorem total_eq_count_flatMap {α : Type} {count : α → Nat} {markers : α → List Marker}
    (h : ∀ a, count a = (markers a).count .positional) (as : List α) :
    total count as = (as.flatMap markers).count .positional := by
  rw [List.count_flatMap, total, ← List.sum_eq_foldr]
  exact congrArg List.sum (List.map_congr_left fun a _ => h a)

/-- The placeholders of a token are its positional markers. -/
theorem Token.positionalCount_eq_count (token : Token) :
    token.positionalCount = token.markers.count .positional := by
  cases token with
  | opening | closing | operator _ | word _ => rfl
  | positional | named _ => rfl
  | keywords pairs => exact total_eq_count_flatMap KeywordPair.positionalCount_eq_count pairs

/-- The values for placeholders are as many as the positional markers. -/
theorem length_positionalValues (fills : List (Marker × Json)) :
    (positionalValues fills).length = (fills.map Prod.fst).count .positional := by
  induction fills with
  | nil => rfl
  | cons fill rest ih =>
    obtain ⟨marker, value⟩ := fill
    cases marker with
    | positional =>
      rw [List.map_cons, List.count_cons_self, ← ih]
      rfl
    | named name =>
      rw [List.map_cons, List.count_cons_of_ne (by simp), ← ih]
      rfl

/-! ## Filling by reading order -/

namespace Rows

variable {α β : Type} {F : α → List (Marker × Json) → β → Prop} {markers : α → List Marker}
  {as : List α} {fills : List (Marker × Json)} {bs : List β}

/-- Every element has its result. -/
theorem length_eq (h : Rows F as fills bs) : bs.length = as.length := by
  induction h with
  | nil => rfl
  | cons _ _ ih => rw [List.length_cons, List.length_cons, ih]

/-- A view of the elements that filling keeps is kept by the list. -/
theorem map_eq {γ : Type} {left : α → γ} {right : β → γ}
    (h : Rows F as fills bs) (hF : ∀ {a fills b}, F a fills b → right b = left a) :
    bs.map right = as.map left := by
  induction h with
  | nil => rfl
  | cons hfirst _ ih => rw [List.map_cons, List.map_cons, hF hfirst, ih]

/-- What holds of every filled element holds of all elements. -/
theorem forall_mem {P : α → Prop} (h : Rows F as fills bs)
    (hF : ∀ {a fills b}, F a fills b → P a) : ∀ a ∈ as, P a := by
  induction h with
  | nil => exact fun a hmem => absurd hmem List.not_mem_nil
  | cons hfirst _ ih => exact List.forall_mem_cons.2 ⟨hF hfirst, ih⟩

/-- **The filled markers of a list** are those of its elements, in reading order. -/
theorem markers_eq (h : Rows F as fills bs)
    (hF : ∀ {a fills b}, F a fills b → fills.map Prod.fst = markers a) :
    fills.map Prod.fst = as.flatMap markers := by
  induction h with
  | nil => rfl
  | cons hfirst _ ih => rw [List.map_append, List.flatMap_cons, hF hfirst, ih]

/-- Values for the markers of a list fill it, if values for the markers of an element fill that. -/
theorem exists_filled (hF : ∀ a ∈ as, ∀ fills : List (Marker × Json),
      fills.map Prod.fst = markers a → ∃ b, F a fills b)
    (h : fills.map Prod.fst = as.flatMap markers) : ∃ bs, Rows F as fills bs := by
  induction as generalizing fills with
  | nil =>
    obtain rfl := List.map_eq_nil_iff.1 h
    exact ⟨[], .nil⟩
  | cons a rest ih =>
    rw [List.flatMap_cons] at h
    obtain ⟨first, others, rfl, hfirst, hothers⟩ := List.map_eq_append_iff.1 h
    obtain ⟨b, hb⟩ := hF a List.mem_cons_self first hfirst
    obtain ⟨bs, hbs⟩ := ih (fun a hmem => hF a (List.mem_cons_of_mem _ hmem)) hothers
    exact ⟨b :: bs, .cons hb hbs⟩

end Rows

namespace KeywordPair

variable {pair : KeywordPair} {fills : List (Marker × Json)} {arg : KeywordArg}

/-- An entry is filled at its own markers. -/
theorem Filled.markers_eq (h : pair.Filled fills arg) : fills.map Prod.fst = pair.markers := by
  unfold markers
  cases h with
  | literalKey hkey => simp [Marker.ofText?, hkey]
  | markedKey hkey value => simp [Marker.ofText?, hkey]
  | literalValue hkey htext => simp [Marker.ofText?, hkey, htext]
  | markedValue hkey htext value => simp [Marker.ofText?, hkey, htext]

/-- An entry that can be filled is well-formed. -/
theorem Filled.wellFormed (h : pair.Filled fills arg) : pair.WellFormed := by
  cases h with
  | literalKey hkey => exact ⟨by simp [hkey], by simp⟩
  | markedKey hkey value => exact ⟨by simp [hkey], by simp⟩
  | literalValue hkey htext => exact ⟨by simp [hkey, htext], by simp [hkey]⟩
  | markedValue hkey htext value => exact ⟨by simp [hkey, htext], by simp [hkey]⟩

/-- A text that is no ill-formed marker can be filled with any value for its marker. -/
theorem exists_textFilled {text : String} (htext : ∀ e, Marker.ofWord? text ≠ .error e)
    (hfills : fills.map Prod.fst = [text].filterMap Marker.ofText?) :
    ∃ value, TextFilled text fills value := by
  rcases hread : Marker.ofWord? text with e | _ | marker
  · exact absurd hread (htext e)
  · obtain rfl : fills = [] := by simpa [Marker.ofText?, hread] using hfills
    exact ⟨_, .literal hread⟩
  · obtain ⟨value, rfl⟩ : ∃ value, fills = [(marker, value)] := by
      simpa [Marker.ofText?, hread, List.map_eq_cons_iff] using hfills
    exact ⟨_, .marked hread value⟩

/-- **A well-formed entry can be filled** with any values for its markers. -/
theorem WellFormed.exists_filled (h : pair.WellFormed)
    (hfills : fills.map Prod.fst = pair.markers) : ∃ arg, pair.Filled fills arg := by
  obtain ⟨key, _ | text⟩ := pair
  · obtain ⟨value, hvalue⟩ := exists_textFilled (h.reads key List.mem_cons_self) hfills
    exact ⟨_, filled_bare_iff.2 ⟨value, hvalue, rfl⟩⟩
  · have hkey : Marker.ofWord? key = .ok none := by
      rcases hread : Marker.ofWord? key with e | _ | marker
      · exact absurd hread (h.reads key List.mem_cons_self e)
      · rfl
      · exact absurd hread (h.names (Option.some_ne_none text) marker)
    have hnone : Marker.ofText? key = none := by rw [Marker.ofText?, hkey]
    rw [markers, List.filterMap_cons_none hnone] at hfills
    obtain ⟨value, hvalue⟩ := exists_textFilled (h.reads text (by simp)) hfills
    exact ⟨_, filled_valued_iff.2 ⟨hkey, value, hvalue, rfl⟩⟩

end KeywordPair

namespace Token

variable {token : Token} {fills : List (Marker × Json)} {b : Bound}

/-- A token is filled at its own markers. -/
theorem Filled.markers_eq (h : token.Filled fills b) : fills.map Prod.fst = token.markers := by
  cases h with
  | opening | closing | operator _ | word _ => rfl
  | positional _ | named _ _ => rfl
  | keywords hrows => exact hrows.markers_eq KeywordPair.Filled.markers_eq

/-- The entries of a token that can be filled are well-formed. -/
theorem Filled.wellFormed (h : token.Filled fills b) :
    ∀ pair ∈ token.pairs, pair.WellFormed := by
  cases h with
  | opening | closing | operator _ | word _ | positional _ | named _ _ =>
    exact fun pair hmem => absurd hmem List.not_mem_nil
  | keywords hrows =>
    exact hrows.forall_mem KeywordPair.Filled.wellFormed

/-- Filling leaves the structure alone. -/
theorem Filled.structural?_eq (h : token.Filled fills b) :
    b.structural? = token.structural? := by
  cases h <;> rfl

/-- **A token with well-formed entries can be filled** with any values for its markers. -/
theorem exists_filled (h : ∀ pair ∈ token.pairs, pair.WellFormed)
    (hfills : fills.map Prod.fst = token.markers) : ∃ b, token.Filled fills b := by
  have hnone (hnil : token.markers = []) : fills = [] := by
    rwa [hnil, List.map_eq_nil_iff] at hfills
  cases token with
  | opening =>
    obtain rfl := hnone rfl
    exact ⟨_, .opening⟩
  | closing =>
    obtain rfl := hnone rfl
    exact ⟨_, .closing⟩
  | operator combinator =>
    obtain rfl := hnone rfl
    exact ⟨_, .operator combinator⟩
  | word text =>
    obtain rfl := hnone rfl
    exact ⟨_, .word text⟩
  | positional =>
    obtain ⟨value, rfl⟩ : ∃ value, fills = [(.positional, value)] := by
      simpa [markers, List.map_eq_cons_iff] using hfills
    exact ⟨_, .positional value⟩
  | named name =>
    obtain ⟨value, rfl⟩ : ∃ value, fills = [(.named name, value)] := by
      simpa [markers, List.map_eq_cons_iff] using hfills
    exact ⟨_, .named name value⟩
  | keywords pairs =>
    obtain ⟨args, hargs⟩ :=
      Rows.exists_filled (fun pair hmem _ => (h pair hmem).exists_filled) hfills
    exact ⟨_, .keywords hargs⟩

end Token

/-! ## Exactness -/

/-- **Markers that are counted right and defined have values.** -/
theorem Bindings.exists_supplied {bindings : Bindings} {defaults : Dict Json}
    {markers : List Marker} {left : List Json} (hcount : markers.count .positional = left.length)
    (hnamed : ∀ name, .named name ∈ markers → ∃ value, bindings.Gives defaults name value) :
    ∃ fills, fills.map Prod.fst = markers ∧ bindings.Supplies defaults fills left [] := by
  induction markers generalizing left with
  | nil =>
    obtain rfl := List.length_eq_zero_iff.1 hcount.symm
    exact ⟨[], rfl, supplies_nil.2 rfl⟩
  | cons marker rest ih =>
    have hrest : ∀ name, .named name ∈ rest → ∃ value, bindings.Gives defaults name value :=
      fun name hmem => hnamed name (List.mem_cons_of_mem _ hmem)
-- a positional marker takes the next value, a name takes none
    cases marker with
    | positional =>
      rw [List.count_cons_self] at hcount
      cases left with
      | nil => exact absurd hcount (Nat.succ_ne_zero _)
      | cons value others =>
        obtain ⟨fills, rfl, hsupplies⟩ := ih (Nat.succ.inj hcount) hrest
        have hfirst : bindings.Supplies defaults [(.positional, value)] (value :: others) others :=
          Marker.take_eq_ok_iff.1 rfl
        exact ⟨_ :: fills, rfl, supplies_append.2 ⟨others, hfirst, hsupplies⟩⟩
    | named name =>
      rw [List.count_cons_of_ne (by simp)] at hcount
      obtain ⟨fills, rfl, hsupplies⟩ := ih hcount hrest
      obtain ⟨value, hvalue⟩ := hnamed name List.mem_cons_self
      have hfirst : bindings.Supplies defaults [(.named name, value)] left left := by
        refine ⟨rfl, fun other found hmem => ?_⟩
        cases List.mem_singleton.1 hmem
        exact hvalue
      exact ⟨_ :: fills, rfl, supplies_append.2 ⟨left, hfirst, hsupplies⟩⟩

namespace Token

variable {bindings : Bindings} {defaults : Dict Json} {tokens : List Token} {bs : List Bound}

/-- **Resolution succeeds exactly with the filled tokens**, all positional values used up. -/
theorem resolveAll_eq_ok_iff :
    resolveAll bindings defaults tokens = .ok bs ↔
      ∃ fills, Rows Filled tokens fills bs ∧
        bindings.Supplies defaults fills bindings.positional [] := by
  have hcount : (tokens.map positionalCount).foldr (· + ·) 0 =
      (tokens.flatMap markers).count .positional :=
    total_eq_count_flatMap positionalCount_eq_count tokens
  have hlength {fills : List (Marker × Json)} (hrows : Rows Filled tokens fills bs) :
      (positionalValues fills).length = (tokens.flatMap markers).count .positional := by
    rw [length_positionalValues, hrows.markers_eq Filled.markers_eq]
  unfold resolveAll
  rw [hcount]
  dsimp only
  constructor
  · intro h
    split at h
    · cases h
    next hne =>
      cases heach : Resolving.each (resolve bindings defaults) tokens bindings.positional with
      | error e => rw [heach] at h; cases h
      | ok result =>
        obtain ⟨bs', rest⟩ := result
        rw [heach] at h
        obtain rfl := Except.ok.inj h
        obtain ⟨fills, hrows, hsupplies⟩ := each_resolve_eq_ok_iff.1 heach
        -- The values that are left are none: as many are taken as there are.
        have hrest : rest = [] := by
          have hsum := congrArg List.length hsupplies.positional
          rw [List.length_append, hlength hrows, ← Decidable.not_not.1 hne] at hsum
          exact List.length_eq_zero_iff.1 (by omega)
        exact ⟨fills, hrows, hrest ▸ hsupplies⟩
  · rintro ⟨fills, hrows, hsupplies⟩
    have heq : (tokens.flatMap markers).count .positional = bindings.positional.length := by
      rw [← hlength hrows, hsupplies.positional, List.append_nil]
    rw [if_neg (not_not_intro heq), each_resolve_eq_ok_iff.2 ⟨fills, hrows, hsupplies⟩]

/-- Tokens can be resolved exactly if they are resolvable. -/
theorem exists_resolveAll_iff :
    (∃ bs, resolveAll bindings defaults tokens = .ok bs) ↔
      Resolvable bindings defaults tokens := by
  constructor
  · rintro ⟨bs, h⟩
    obtain ⟨fills, hrows, hsupplies⟩ := resolveAll_eq_ok_iff.1 h
    have hmarkers := hrows.markers_eq Filled.markers_eq
    refine ⟨?_, fun name hmem => ?_, fun pair hmem => ?_⟩
    · rw [← hmarkers, ← length_positionalValues, hsupplies.positional, List.append_nil]
    · rw [← hmarkers] at hmem
      obtain ⟨⟨_, value⟩, hfill, rfl⟩ := List.mem_map.1 hmem
      exact ⟨value, hsupplies.named name value hfill⟩
    · obtain ⟨token, htoken, hpair⟩ := List.mem_flatMap.1 hmem
      exact hrows.forall_mem Filled.wellFormed token htoken pair hpair
  · intro h
    obtain ⟨fills, hfills, hsupplies⟩ := Bindings.exists_supplied h.count h.named
    have hfilled : ∀ token ∈ tokens, ∀ fills : List (Marker × Json),
        fills.map Prod.fst = token.markers → ∃ b, token.Filled fills b := fun token hmem _ =>
      exists_filled fun pair hpair => h.wellFormed pair (List.mem_flatMap.2 ⟨token, hmem, hpair⟩)
    obtain ⟨bs, hrows⟩ := Rows.exists_filled hfilled hfills
    exact ⟨bs, resolveAll_eq_ok_iff.2 ⟨fills, hrows, hsupplies⟩⟩

/-- A count of values is reported only where it differs from that of the markers. -/
theorem resolveAll_ne_bindingCount (n : Nat) :
    resolveAll bindings defaults tokens ≠ .error (.bindingCount n n) := by
  intro h
  unfold resolveAll at h
  dsimp only at h
  split at h
  next hne =>
    obtain ⟨hexpected, hsupplied⟩ := Error.bindingCount.inj (Except.error.inj h)
    exact hne (hexpected.trans hsupplied.symm)
  next heq =>
    have hle : total positionalCount tokens ≤ bindings.positional.length :=
      Nat.le_of_eq (Decidable.not_not.1 heq)
    cases heach : Resolving.each (resolve bindings defaults) tokens bindings.positional with
    | ok result => rw [heach] at h; cases h
    | error e =>
      rw [heach] at h
      obtain rfl := Except.error.inj h
      have hspends := Resolving.spends_each (spends_resolve bindings defaults) tokens
      rcases hspends.fault _ _ heach with hmarker | ⟨-, hfew⟩
      · rcases hmarker with h | h | h <;> cases h
      · exact absurd hle (Nat.not_le.2 hfew)

/-- **Resolution is exact.** It succeeds exactly if there are as many positional values as markers
`?`, every name is defined and the entries are well-formed. Then the parentheses and operators stay
where they are, the markers have values in reading order, those for `?` are the caller's positional
values, all of them, and that for a name is the caller's, else the configuration's, else the
engine's. A count that fits is never reported. -/
theorem resolveAll_exact (bindings : Bindings) (defaults : Dict Json) (tokens : List Token) :
    ((∃ bs, resolveAll bindings defaults tokens = .ok bs) ↔
        Resolvable bindings defaults tokens) ∧
      (∀ bs, resolveAll bindings defaults tokens = .ok bs →
        bs.length = tokens.length ∧ bs.map Bound.structural? = tokens.map structural? ∧
          ∃ fills, fills.map Prod.fst = tokens.flatMap markers ∧ Rows Filled tokens fills bs ∧
            positionalValues fills = bindings.positional ∧
            ∀ name value, (.named name, value) ∈ fills → bindings.Gives defaults name value) ∧
      ∀ n, resolveAll bindings defaults tokens ≠ .error (.bindingCount n n) := by
  refine ⟨exists_resolveAll_iff, fun bs h => ?_, resolveAll_ne_bindingCount⟩
  obtain ⟨fills, hrows, hpositional, hnamed⟩ := resolveAll_eq_ok_iff.1 h
  rw [List.append_nil] at hpositional
  exact ⟨hrows.length_eq, hrows.map_eq Filled.structural?_eq, fills,
    hrows.markers_eq Filled.markers_eq, hrows, hpositional.symm, hnamed⟩

end Token

end RecordFilter
